import LL320D.YmodemReceiver

/-! A frame that arrives intact passes its check, and the fields are those it was made from; and how the receiver uses the
callbacks that take the file. -/

namespace LL320D.Ymodem

open Library List Decimal Receiver

variable {name : List UInt8} {stop : UInt8} (crcType : CrcType) (crc : BitVec 16)

lemma CrcType.check_length (data) : (crcType.check data).length = crcType.len := by
  cases crcType <;> rfl

lemma frameBytes_length (head seq) (data : List UInt8) :
    (frameBytes crcType head seq data).length = dataOff + data.length + crcType.len := by
  rw [frameBytes, length_append, length_append, crcType.check_length]
  rfl

lemma seq_add_not (seq : UInt8) : seq + ~~~seq = 0xFF := by
  apply UInt8.eq_of_toBitVec_eq
  rw [UInt8.toBitVec_add, UInt8.toBitVec_not, BitVec.add_not_self]
  rfl

lemma crc16_bytes : (crc >>> 8).setWidth 8 ++ crc.setWidth 8 = crc := by
  apply BitVec.eq_of_getLsbD_eq
  intro i inside
  rw [BitVec.getLsbD_append, BitVec.getLsbD_setWidth, BitVec.getLsbD_setWidth, BitVec.getLsbD_ushiftRight]
  by_cases low : i < 8
  · rw [if_pos low, decide_eq_true low, Bool.true_and]
  · have high : i - 8 < 8 := by omega
    rw [if_neg low, decide_eq_true high, Bool.true_and, Nat.add_sub_cancel' (Nat.not_lt.mp low)]

lemma crc16_eq_iff (high low : UInt8) (crc : BitVec 16) : high.toBitVec ++ low.toBitVec = crc ↔
    [high, low] = [.ofBitVec ((crc >>> 8).setWidth 8), .ofBitVec (crc.setWidth 8)] := by
  constructor
  · intro same
    have small := low.toNat_lt
    have value : crc.toNat = high.toNat <<< 8 + low.toNat := by
      rw [← same, Nat.shiftLeft_add_eq_or_of_lt small]
      exact BitVec.toNat_append ..
    have first : high = .ofBitVec ((crc >>> 8).setWidth 8) := by
      apply UInt8.toNat_inj.mp
      simp only [UInt8.toNat_ofBitVec, BitVec.toNat_setWidth, BitVec.toNat_ushiftRight, value, Nat.shiftLeft_eq,
        Nat.shiftRight_eq_div_pow]
      omega
    have second : low = .ofBitVec (crc.setWidth 8) := by
      apply UInt8.toNat_inj.mp
      simp only [UInt8.toNat_ofBitVec, BitVec.toNat_setWidth, value, Nat.shiftLeft_eq]
      omega
    rw [← first, ← second]
  · intro same
    rw [(List.cons.inj same).1, (List.cons.inj (List.cons.inj same).2).1]
    exact crc16_bytes crc

lemma crc16Table_entry : ∀ n : Fin 256, (Crc.shiftLeft 0x1021#16)^[8] (BitVec.ofNat 16 n <<< 8) = crc16Table.getD n 0 ∧
    (Crc.shiftLeft 0x1021#16)^[8] (BitVec.ofNat 16 n) = BitVec.ofNat 16 n <<< 8 := by
  decide +kernel

/-- One lookup makes the eight shifts of the high byte; the low byte only moves. -/
lemma crc16Table_step (byte : UInt8) :
    crc <<< 8 ^^^ crc16Table.getD ((crc >>> 8 ^^^ byte.toBitVec.setWidth 16) &&& 0xFF).toNat 0 =
      Crc.plainByte 0x1021#16 crc byte := by
  have entry (x : BitVec 16) : ∃ n : Fin 256, x &&& 0xFF = BitVec.ofNat 16 n ∧ (x &&& 0xFF).toNat = n := by
    refine ⟨⟨(x &&& 0xFF).toNat, ?_⟩, by simp, rfl⟩
    rw [BitVec.toNat_and]
    exact Nat.lt_of_le_of_lt Nat.and_le_right (by decide)
  have mask : ∀ i : Fin 16, (0xFF : BitVec 16).getLsbD i = decide (i.val < 8) := by decide
  have parts : crc ^^^ byte.toBitVec.setWidth 16 <<< 8 =
      ((crc >>> 8 ^^^ byte.toBitVec.setWidth 16) &&& 0xFF) <<< 8 ^^^ (crc &&& 0xFF) := by
    apply BitVec.eq_of_getLsbD_eq
    intro i inside
    have := mask ⟨i, inside⟩
    have := mask ⟨i - 8, by omega⟩
    grind
  have moved : crc <<< 8 = (crc &&& 0xFF) <<< 8 := by
    apply BitVec.eq_of_getLsbD_eq
    intro i inside
    have := mask ⟨i - 8, by omega⟩
    grind
  obtain ⟨high, index, number⟩ := entry (crc >>> 8 ^^^ byte.toBitVec.setWidth 16)
  obtain ⟨low, rest, -⟩ := entry crc
  rw [Crc.plainByte, parts, (Crc.shiftLeft_xor _).iterate 8, moved, number, index, rest, (crc16Table_entry high).1,
    (crc16Table_entry low).2, BitVec.xor_comm]

theorem crc16_table_agrees (data : List UInt8) : calcCrc16Table data = calcCrc16 data ∧ ∀ high low : UInt8,
    (high.toBitVec ++ low.toBitVec = calcCrc16Table data ↔ [high, low] = CrcType.crc16.check data) ∧
    (high.toBitVec ++ low.toBitVec = calcCrc16 data ↔
      [high, low] = [.ofBitVec ((calcCrc16Table data >>> 8).setWidth 8), .ofBitVec ((calcCrc16Table data).setWidth 8)]) := by
  have same : calcCrc16Table data = calcCrc16 data :=
    congrArg (data.foldl · 0#16) (funext fun crc => funext fun byte => crc16Table_step crc byte)
  rw [same]
  exact ⟨rfl, fun high low => ⟨crc16_eq_iff high low _, crc16_eq_iff high low _⟩⟩

lemma isSpace_digit {byte} (digit : isDigit byte = true) :
    isSpace byte = false ∧ byte ≠ 0x2D ∧ byte ≠ 0x2B := by
  simp only [isDigit, Bool.and_eq_true, decide_eq_true_eq, UInt8.le_iff_toNat_le] at digit
  have low : 48 ≤ byte.toNat := digit.1
  refine ⟨?_, ?_, ?_⟩
  · simp only [isSpace, Bool.or_eq_false_iff, Bool.and_eq_false_iff, decide_eq_false_iff_not, UInt8.le_iff_toNat_le]
    refine ⟨?_, Or.inr ?_⟩
    · intro same
      subst same
      exact absurd low (by decide)
    · intro small
      have : byte.toNat ≤ 13 := small
      omega
  all_goals
    intro same
    subst same
    exact absurd low (by decide)

lemma text_cons (n : Nat) : ∃ first more, text n = first :: more ∧ isDigit first = true := by
  cases digits : text n with
  | nil =>
    have zero := value_text n
    rw [digits] at zero
    cases zero
    cases digits
  | cons first more => exact ⟨first, more, rfl, text_isDigit n first (digits ▸ mem_cons_self)⟩

lemma strtol_text {n : Nat} (small : n < 2 ^ 31) (plain : isDigit stop = false)
    (rest : List UInt8) : strtol (text n ++ stop :: rest) = n := by
  obtain ⟨first, more, digits, digit⟩ := text_cons n
  obtain ⟨space, minus, plus⟩ := isSpace_digit digit
  have start : (text n ++ stop :: rest).dropWhile isSpace = text n ++ stop :: rest := by
    rw [digits, cons_append, dropWhile_cons_of_neg (by rw [space]; exact Bool.false_ne_true)]
  have head : (text n ++ stop :: rest).head? = some first := by rw [digits]; rfl
  unfold strtol
  dsimp only
  rw [start, head, if_neg, if_neg, takeWhile_text n plain, value_text]
  · omega
  · simpa using (And.intro minus plus)
  · simpa using minus

lemma fileInfo_eq (short : name.length < infoMaxNameLen) {size : Nat} (small : size < 2 ^ 31) :
    ∃ zeros, fileInfo name size = name ++ 0 :: (text size ++ 0 :: zeros) ∧ (fileInfo name size).length = sohSize := by
  have digits : (text size).length ≤ 10 := text_length_le (by decide) (by omega)
  have whole : name.take (infoMaxNameLen - 1) = name := take_of_length_le (by omega)
  have length : (name ++ 0 :: text size).length ≤ sohSize - 1 := by
    simp only [length_append, length_cons, sohSize]
    simp only [infoMaxNameLen] at short
    omega
  have padding : sohSize - (name ++ 0 :: text size).length =
      (sohSize - 1 - (name ++ 0 :: text size).length) + 1 := by
    simp only [sohSize] at length ⊢
    omega
  refine ⟨List.replicate (sohSize - 1 - (name ++ 0 :: text size).length) 0, ?_, ?_⟩
  · unfold fileInfo
    rw [whole]
    dsimp only
    rw [take_of_length_le length, padding, replicate_succ]
    simp only [append_assoc, cons_append]
  · unfold fileInfo
    rw [whole]
    dsimp only
    rw [take_of_length_le length, length_append, length_replicate]
    simp only [sohSize] at length ⊢
    omega

lemma info_read (short : name.length < sohSize - 1) (plain : 0 ∉ name) {size : Nat}
    (small : size < 2 ^ 31) (ends : isDigit stop = false) (rest : List UInt8) :
    infoName (name ++ 0 :: (text size ++ stop :: rest)) = name ∧
      infoSize (name ++ 0 :: (text size ++ stop :: rest)) = if size = 0 then -1 else (size : Int) := by
  have read : infoName (name ++ 0 :: (text size ++ stop :: rest)) = name := by
    unfold infoName
    rw [take_append]
    have room : sohSize - 1 - name.length = (sohSize - 2 - name.length) + 1 := by
      simp only [sohSize] at short ⊢
      omega
    have whole := take_of_length_le (Nat.le_of_lt short)
    rw [whole, room, take_succ_cons, takeWhile_append_of_pos, takeWhile_cons_of_neg (by decide), append_nil]
    intro byte member
    exact decide_eq_true fun zero => plain (zero ▸ member)
  refine ⟨read, ?_⟩
  unfold infoSize
  have behind : (name ++ 0 :: (text size ++ stop :: rest)).drop (name.length + 1) =
      text size ++ stop :: rest := by
    rw [drop_length_add_append]
    rfl
  dsimp only
  rw [read, behind, strtol_text small ends]
  exact if_congr Int.natCast_eq_zero rfl rfl

lemma fileInfo_read (short : name.length < infoMaxNameLen) (plain : 0 ∉ name) {size : Nat}
    (positive : 0 < size) (small : size < 2 ^ 31) (rest : List UInt8) :
    infoName (fileInfo name size ++ rest) = name ∧ infoSize (fileInfo name size ++ rest) = size := by
  obtain ⟨zeros, info, -⟩ := fileInfo_eq short small
  have whole : fileInfo name size ++ rest = name ++ 0 :: (text size ++ 0 :: (zeros ++ rest)) := by
    rw [info, append_assoc, cons_append, append_assoc, cons_append]
  have inside : name.length < sohSize - 1 := by
    simp only [sohSize, infoMaxNameLen] at short ⊢
    omega
  obtain ⟨read, value⟩ := info_read inside plain small (show isDigit 0 = false by decide) (zeros ++ rest)
  rw [whole]
  refine ⟨read, value.trans (if_neg ?_)⟩
  omega

/-- Of a name of any length, what is left after the cut is read back, whatever follows the data field. -/
theorem fileInfo_round_trip (name : List UInt8) (plain : 0 ∉ name) (size : Nat) (positive : 0 < size) (small : size < 2 ^ 31) :
    (name.take (infoMaxNameLen - 1) ++ 0 :: text size).length < sohSize ∧ (fileInfo name size).length = sohSize ∧
      ∀ rest, infoName (fileInfo name size ++ rest) = name.take (infoMaxNameLen - 1) ∧
        infoSize (fileInfo name size ++ rest) = size := by
  have short : (name.take (infoMaxNameLen - 1)).length < infoMaxNameLen := by
    rw [length_take]
    exact Nat.lt_of_le_of_lt (Nat.min_le_left _ _) (by decide)
  have cut : fileInfo name size = fileInfo (name.take (infoMaxNameLen - 1)) size := by
    rw [fileInfo, fileInfo, take_take, Nat.min_self]
  have plainCut : 0 ∉ name.take (infoMaxNameLen - 1) := fun zero => plain (mem_of_mem_take zero)
  have digits : (text size).length ≤ 10 := text_length_le (by decide) (by omega)
  obtain ⟨-, -, length⟩ := fileInfo_eq short small
  rw [cut]
  refine ⟨?_, length, fun rest => fileInfo_read short plainCut positive small rest⟩
  rw [length_append, length_cons]
  simp only [sohSize, infoMaxNameLen] at short ⊢
  omega

theorem short_name_read : infoName (fileInfo [0x61, 0x62] 7 ++ []) = [0x61, 0x62] ∧ infoSize (fileInfo [0x61, 0x62] 7 ++ []) = 7 :=
  (fileInfo_round_trip [0x61, 0x62] (by decide) 7 (by decide) (by decide)).2.2 []

lemma infoSize_frame (short : name.length < infoMaxNameLen) (plain : 0 ∉ name) {size : Nat}
    (positive : 0 < size) (small : size < 2 ^ 31) (crcType) (tail : List UInt8) :
    infoSize ((frameBytes crcType soh 0 (fileInfo name size) ++ tail).drop dataOff) = size := by
  have field : (frameBytes crcType soh 0 (fileInfo name size) ++ tail).drop dataOff =
      fileInfo name size ++ (crcType.check (fileInfo name size) ++ tail) := by
    rw [frameBytes, append_assoc, append_assoc]
    rfl
  rw [field]
  exact (fileInfo_read short plain positive small _).2

namespace Receiver

variable {σ : Type*}

lemma int32_small {n : Int} (low : -2 ^ 31 ≤ n) (high : n < 2 ^ 31) : int32 n = n :=
  Int.bmod_eq_of_le (by omega) (by omega)

def loaded (s : Receiver σ) (bytes : List UInt8) : Receiver σ :=
  { s with frame := bytes ++ s.frame.drop bytes.length, acts := [] }

lemma verifyFrame_checked {s : Receiver σ} {head seq : UInt8} {data check tail : List UInt8}
    (frame : s.frame = [head, seq, ~~~seq] ++ data ++ (check ++ tail)) (length : check.length = s.crcType.len) :
    s.verifyFrame data.length = if check = s.crcType.check data then .ok else .errCrc := by
  have behind : ∀ i, s.frame.getD (dataOff + data.length + i) 0 = (check ++ tail).getD i 0 := by
    intro i
    have past : ([head, seq, ~~~seq] ++ data).length = dataOff + data.length := by
      simp only [dataOff, length_append, length_cons, length_nil, Nat.zero_add]
    rw [frame, getD_eq_getElem?_getD, getD_eq_getElem?_getD,
      List.getElem?_append_right (by rw [past]; exact Nat.le_add_right _ _), past, Nat.add_sub_cancel_left]
  have numbers : s.seq + s.seqn = 0xFF := by
    unfold Receiver.seq Receiver.seqn
    rw [frame]
    exact seq_add_not seq
  have field : s.dataField.take data.length = data := by
    unfold dataField
    rw [frame, append_assoc]
    exact take_left
  have first := behind 0
  have second := behind 1
  rw [Nat.add_zero] at first
  unfold verifyFrame
  rw [if_neg (not_not_intro numbers), field]
  cases crc : s.crcType with
  | checksum =>
    rw [crc] at length
    obtain ⟨sum, rfl⟩ := length_eq_one_iff.mp length
    dsimp only [CrcType.check]
    rw [first, ite_not]
    exact if_congr (by simp) rfl rfl
  | crc16 =>
    rw [crc] at length
    obtain ⟨high, low, rfl⟩ := length_eq_two.mp length
    dsimp only [CrcType.check]
    rw [first, second, ite_not]
    exact if_congr (crc16_eq_iff high low _) rfl rfl

section

variable {s : Receiver σ} {head seq : UInt8} {data tail : List UInt8}
  (frame : s.frame = frameBytes s.crcType head seq data ++ tail)
include frame

lemma seq_frame : s.seq = seq := by
  unfold Receiver.seq
  rw [frame]
  rfl

lemma seqn_frame : s.seqn = ~~~seq := by
  unfold seqn
  rw [frame]
  rfl

lemma dataField_frame : s.dataField = data ++ (s.crcType.check data ++ tail) := by
  unfold dataField
  rw [frame, frameBytes, append_assoc, append_assoc]
  rfl

lemma verifyFrame_frame : s.verifyFrame data.length = .ok := by
  have parts : s.frame = [head, seq, ~~~seq] ++ data ++ (s.crcType.check data ++ tail) := by
    rw [frame, frameBytes, append_assoc]
  rw [verifyFrame_checked parts (s.crcType.check_length data), if_pos rfl]

end

section

variable (io : SaveIo σ) {s : Receiver σ} {errors i retry : Nat} {data : List UInt8}

lemma step_at_handshake (pc : s.pc = .handshake i) (r : Recv) :
    s.step io r = if r.failed ∨ r.data = [] then ({ s with acts := [] }.store 0 (r.data.take 1)).enterHandshake (i + 1)
      else ({ s with acts := [] }.store 0 (r.data.take 1)).enterFirst i sendRetry := by
  unfold step
  simp only [pc]

lemma step_at_firstHead (pc : s.pc = .firstHead i retry) (r : Recv) :
    s.step io r = if r.failed ∨ r.data = [] then ({ s with acts := [] }.store 0 (r.data.take 1)).enterHandshake (i + 1)
      else ({ s with acts := [] }.store 0 (r.data.take 1)).enterFirst i retry := by
  unfold step
  simp only [pc]

lemma step_at_firstRest (pc : s.pc = .firstRest i retry) (r) :
    s.step io r = firstProcessed i retry (({ s with acts := [] }.store 1 (r.data.take s.remain)).processFirstFrame io
      ((headSize s.head).getD 0) (!r.failed && s.remain ≤ r.data.length)) := by
  unfold step
  simp only [pc]
  rfl

lemma step_at_frameHead (pc : s.pc = .frameHead errors) (r : Recv) : s.step io r = if r.failed ∨ r.data = [] then
        frameProcessed io errors (.errCrc, ({ s with acts := [] }.store 0 (r.data.take 1)).portFlush.sendByte nak)
      else ({ s with acts := [] }.store 0 (r.data.take 1)).enterFrame io errors := by
  unfold step
  simp only [pc]

lemma step_at_frameRest (pc : s.pc = .frameRest errors) (r) :
    s.step io r = frameProcessed io errors (({ s with acts := [] }.store 1 (r.data.take s.remain)).processFrame io
      ((headSize s.head).getD 0) (!r.failed && s.remain ≤ r.data.length)) := by
  unfold step
  simp only [pc]
  rfl

lemma enterFrame_rest (size : (headSize s.head).isSome = true) :
    s.enterFrame io errors = { s with pc := .frameRest errors } := by
  have other : s.head ≠ eot := by
    intro same
    rw [same] at size
    cases size
  unfold enterFrame
  rw [if_neg other, if_pos size]

lemma enterFirst_rest (size : (headSize s.head).isSome = true) :
    s.enterFirst i retry = { s with pc := .firstRest i retry } := by
  unfold enterFirst
  rw [if_pos size]

lemma step_frameHead (pc : s.pc = .frameHead errors) {head} (size : (headSize head).isSome = true) :
    s.step io { data := [head], failed := false } = { s.loaded [head] with pc := .frameRest errors } := by
  rw [step_at_frameHead io pc, if_neg (by simp)]
  exact enterFrame_rest io size

lemma step_eot (pc : s.pc = .frameHead errors) :
    s.step io { data := [eot], failed := false } = frameProcessed io errors ((s.loaded [eot]).processEot io) := by
  rw [step_at_frameHead io pc, if_neg (by simp)]
  exact if_pos rfl

lemma step_handshake (pc : s.pc = .handshake i) {head} (size : (headSize head).isSome = true) :
    s.step io { data := [head], failed := false } = { s.loaded [head] with pc := .firstRest i sendRetry } := by
  rw [step_at_handshake io pc, if_neg (by simp)]
  exact enterFirst_rest size

section

variable {head : UInt8} (seq : UInt8) {data tail : List UInt8} (size : headSize head = some data.length)
  (frame : s.frame = head :: tail)
include size frame

lemma remain_frame : s.remain = (frameBytes s.crcType head seq data).tail.length := by
  unfold remain Receiver.head
  rw [frame, length_tail, frameBytes_length]
  simp only [getD_cons_zero, size, Option.getD_some, dataOff]
  omega

lemma received_rest : { s with acts := [] }.store 1 ((frameBytes s.crcType head seq data).tail.take s.remain) =
        s.loaded (frameBytes s.crcType head seq data) ∧
      (headSize s.head).getD 0 = data.length ∧
      (!false && decide (s.remain ≤ (frameBytes s.crcType head seq data).tail.length)) = true := by
  have first : s.head = head := by
    unfold Receiver.head
    rw [frame]
    rfl
  rw [remain_frame seq size frame, take_length]
  refine ⟨?_, by rw [first, size]; rfl, decide_eq_true (Nat.le_refl _)⟩
  unfold store loaded
  dsimp only
  rw [frame]
  have length : 1 + (frameBytes s.crcType head seq data).tail.length = (frameBytes s.crcType head seq data).length := by
    rw [length_tail, frameBytes_length, dataOff]
    omega
  rw [length]
  rfl

lemma step_frameRest (pc : s.pc = .frameRest errors) :
    s.step io { data := (frameBytes s.crcType head seq data).tail, failed := false } =
      frameProcessed io errors ((s.loaded (frameBytes s.crcType head seq data)).takeFrame io data.length) := by
  obtain ⟨received, announced, complete⟩ := received_rest seq size frame
  have verified := verifyFrame_frame (s := s.loaded (frameBytes s.crcType head seq data)) rfl
  rw [step_at_frameRest io pc, received, announced, complete]
  unfold processFrame
  rw [if_pos rfl, verified]

lemma step_firstRest (pc : s.pc = .firstRest i retry) :
    s.step io { data := (frameBytes s.crcType head seq data).tail, failed := false } =
      firstProcessed i retry ((s.loaded (frameBytes s.crcType head seq data)).takeFirstFrame io data.length) := by
  obtain ⟨received, announced, complete⟩ := received_rest seq size frame
  have verified := verifyFrame_frame (s := s.loaded (frameBytes s.crcType head seq data)) rfl
  rw [step_at_firstRest io pc, received, announced, complete]
  unfold processFirstFrame
  rw [if_pos rfl, verified]

end

lemma step_behindHead (s : Receiver σ) (errors : Nat) {head} (seq : UInt8) (size : headSize head = some data.length) :
    ∃ tail, ({ s.loaded [head] with pc := .frameRest errors } : Receiver σ).step io
        { data := (frameBytes s.crcType head seq data).tail, failed := false } =
      frameProcessed io errors ({ s with
        frame := frameBytes s.crcType head seq data ++ tail, acts := [], pc := .frameRest errors }.takeFrame io data.length) :=
  ⟨_, step_frameRest io seq size rfl rfl⟩

lemma step_first (pc : s.pc = .handshake i) {head} (seq : UInt8) (size : headSize head = some data.length) :
    ∃ tail, (s.step io { data := [head], failed := false }).step io
        { data := (frameBytes s.crcType head seq data).tail, failed := false } =
      firstProcessed i sendRetry ({ s with
        frame := frameBytes s.crcType head seq data ++ tail, acts := []
        pc := .firstRest i sendRetry }.takeFirstFrame io data.length) := by
  rw [step_handshake io pc (by rw [size]; rfl)]
  exact ⟨_, step_firstRest io seq size rfl rfl⟩

lemma step_firstAgain (pc : s.pc = .firstHead i retry) {head} (seq : UInt8) (size : headSize head = some data.length) :
    ∃ tail, (s.step io { data := [head], failed := false }).step io
        { data := (frameBytes s.crcType head seq data).tail, failed := false } =
      firstProcessed i retry ({ s with
        frame := frameBytes s.crcType head seq data ++ tail, acts := []
        pc := .firstRest i retry }.takeFirstFrame io data.length) := by
  have begun : s.step io { data := [head], failed := false } = { s.loaded [head] with pc := .firstRest i retry } := by
    rw [step_at_firstHead io pc, if_neg (by simp)]
    exact enterFirst_rest (by rw [show Receiver.head _ = head from rfl, size]; rfl)
  rw [begun]
  exact ⟨_, step_firstRest io seq size rfl rfl⟩

end

variable (io : SaveIo σ) {s : Receiver σ}

def WholeFile (s : Receiver σ) : Prop := s.isYmodem = true ∧ 0 < s.fileSize ∧ s.fileSize ≤ s.written

/-- The receiver has taken the data that it expected, and the callbacks keep `sink`. -/
structure Took (s after : Receiver σ) (len : Int) (sink : σ) : Prop where
  pc : after.pc = .frameHead 0
  crcType : after.crcType = s.crcType
  isYmodem : after.isYmodem = s.isYmodem
  fileSize : after.fileSize = s.fileSize
  written : after.written = int32 (s.written + len)
  expectedSeq : after.expectedSeq = s.expectedSeq + 1
  sink : after.sink = sink
  phase : after.WholeFile ∧ s.state = .filexfer ∧ after.state = .endofxfer ∧ after.acts = s.acts ++ [.send ack, .send nak] ∨
    ¬ (after.WholeFile ∧ s.state = .filexfer) ∧ after.state = s.state ∧ after.acts = s.acts ++ [.send ack]

lemma frameProcessed_ok (errors : Nat) (phase : s.state ≠ .ended) :
    frameProcessed io errors (.ok, s) = { s with pc := .frameHead 0 } :=
  if_neg phase

lemma saveData_ok {len : Int} {sink} (saved : io.saveWrite s.sink (s.dataField.take len.toNat) len = (true, sink)) :
    s.saveData io len = (.ok, { s with sink, written := int32 (s.written + len) }) := by
  unfold saveData
  rw [saved]

lemma takeFrame_took {size : Nat} {sink} (errors : Nat) (phase : s.state ≠ .ending)
    (running : s.state ≠ .ended) (expected : s.seq = s.expectedSeq)
    (saved : io.saveWrite s.sink (s.dataField.take (s.saveSize size).toNat) (s.saveSize size) = (true, sink)) :
    Took s (frameProcessed io errors (s.takeFrame io size)) (s.saveSize size) sink := by
  have data : { s with expectedSeq := s.expectedSeq + 1 }.saveData io (s.saveSize size) =
      (.ok, { s with expectedSeq := s.expectedSeq + 1, sink, written := int32 (s.written + s.saveSize size) }) :=
    saveData_ok io saved
  unfold takeFrame
  rw [if_neg fun ending => phase ending.2.1, if_pos expected]
  have same : ({ s with expectedSeq := s.expectedSeq + 1 } : Receiver σ).saveSize size = s.saveSize size := rfl
  unfold takeData
  rw [same, data]
  dsimp only
  split
  next whole =>
    rw [frameProcessed_ok io]
    · refine ⟨rfl, rfl, rfl, rfl, rfl, rfl, rfl, Or.inl ⟨⟨whole.1, whole.2.1, whole.2.2.1⟩, whole.2.2.2, rfl, ?_⟩⟩
      exact append_assoc ..
    · exact fun ended => State.noConfusion ended
  next other =>
    rw [frameProcessed_ok io]
    · refine ⟨rfl, rfl, rfl, rfl, rfl, rfl, rfl, Or.inr ⟨?_, rfl, rfl⟩⟩
      exact fun whole => other ⟨whole.1.1, whole.1.2.1, whole.1.2.2, whole.2⟩
    · exact running

lemma takeFrame_repeated (size : Nat) (phase : s.state ≠ .ending)
    (repeated : s.expectedSeq = s.seq + 1) : s.takeFrame io size = (.ok, s.sendByte ack) := by
  have other : s.seq ≠ s.expectedSeq := by
    rw [repeated]
    intro same
    have value := congrArg UInt8.toNat same
    rw [UInt8.toNat_add] at value
    change s.seq.toNat = (s.seq.toNat + 1) % 2 ^ 8 at value
    omega
  unfold takeFrame
  rw [if_neg fun ending => phase ending.2.1, if_neg other, if_pos (by rw [repeated, UInt8.add_sub_cancel])]

end Receiver

end LL320D.Ymodem
