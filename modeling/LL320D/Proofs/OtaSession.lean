import LL320D.OtaFrontEnds

/-! What each call of the OTA flash module, and of the LTE front-end, can do, as one relation for each function; and which
bytes of a DFU packet the command handlers read. -/

namespace LL320D.Dfu
open List

section
open Library

variable {len : Nat} {after s : OtaFlash}

structure Erased (s after : OtaFlash) : Prop where
  same : after = { s with image := after.image, ops := after.ops }
  more : ∃ ops, ops ≠ [] ∧ after.ops = s.ops ++ ops

namespace OtaFlash

variable (io : FlashIo)

lemma Erased.first {next : OtaFlash} {op : FlashOp} {image : Image}
    (start : next = { s with image, ops := s.ops ++ [op] }) (rest : after = next ∨ Erased next after) : Erased s after := by
  subst start
  rcases rest with rfl | ⟨same, ops, -, grown⟩
  · exact ⟨rfl, [op], cons_ne_nil _ _, rfl⟩
  · refine ⟨same, op :: ops, cons_ne_nil _ _, ?_⟩
    rw [grown, append_assoc, singleton_append]

lemma eraseLoop_erased : ∀ (fuel addr size : Nat) (s : OtaFlash), 0 < size →
    Erased s (eraseLoop io (fuel + 1) addr size s).2 := by
  intro fuel
  induction fuel with
  | zero =>
    intro addr size s nonempty
    unfold eraseLoop
    rw [if_neg (Nat.ne_of_gt nonempty)]
    split
    · dsimp only
      split
      · exact Erased.first rfl (Or.inl rfl)
      · exact Erased.first rfl (Or.inl rfl)
    · exact Erased.first rfl (Or.inl rfl)
  | succ fuel ih =>
    intro addr size s nonempty
    unfold eraseLoop
    rw [if_neg (Nat.ne_of_gt nonempty)]
    split
    · dsimp only
      split
      next more => exact Erased.first rfl (Or.inr (ih _ _ _ (Nat.sub_pos_of_lt more)))
      next => exact Erased.first rfl (Or.inl rfl)
    · exact Erased.first rfl (Or.inl rfl)

lemma erase_erased {size : Nat} (nonempty : 0 < size) : Erased s (s.erase io size).2 :=
  eraseLoop_erased io _ _ _ s nonempty

/-- `my_ota_flash_open`. -/
inductive Opens (s : OtaFlash) (fileSize : Nat) : Ret × OtaFlash → Prop where
  | refused (errno : Errno) (cause : s.busy = false ∨ fileSize = 0 ∨ partitionSize < fileSize) :
    Opens s fileSize (.err errno, s)
  | failed (erased : OtaFlash) (busy : s.busy = true) (nonempty : 0 < fileSize) (fits : fileSize ≤ partitionSize)
      (same : Erased s erased) : Opens s fileSize (.err .eio, erased)
  | opened (erased : OtaFlash) (busy : s.busy = true) (nonempty : 0 < fileSize) (fits : fileSize ≤ partitionSize)
      (same : Erased s erased) :
    Opens s fileSize (.ok, { erased with
      bufOffset := 0, blockAddr := 0, totalWritten := 0, fileSize, buf := List.replicate otaBufferSize 0xFF })

lemma openFile_opens (s : OtaFlash) (fileSize) : Opens s fileSize (s.openFile io fileSize) := by
  unfold openFile
  by_cases busy : s.busy = true
  · rw [if_neg (not_not_intro busy)]
    by_cases empty : fileSize = 0
    · rw [if_pos empty]
      exact .refused _ (Or.inr (Or.inl empty))
    rw [if_neg empty]
    by_cases large : partitionSize < fileSize
    · rw [if_pos large]
      exact .refused _ (Or.inr (Or.inr large))
    rw [if_neg large]
    have same := erase_erased io (s := s) (Nat.pos_of_ne_zero empty)
    generalize s.erase io fileSize = result at same ⊢
    obtain ⟨ret, erased⟩ := result
    cases ret with
    | ok => exact .opened erased busy (Nat.pos_of_ne_zero empty) (Nat.not_lt.mp large) same
    | err | fault => exact .failed erased busy (Nat.pos_of_ne_zero empty) (Nat.not_lt.mp large) same
  · rw [if_pos busy]
    exact .refused _ (Or.inl (eq_false_of_ne_true busy))

/-- `my_ota_flash_flush`. -/
inductive Flushes (s : OtaFlash) (isLast : Bool) : Ret × OtaFlash → Prop where
  | idle (empty : s.bufOffset = 0) (more : isLast = false) : Flushes s isLast (.ok, s)
  | failed (errno : Errno) (buf : List UInt8) (due : ¬ (s.bufOffset = 0 ∧ isLast = false)) :
    Flushes s isLast (.err errno, { s.written io false with buf })
  | flushed (due : ¬ (s.bufOffset = 0 ∧ isLast = false)) (write : io.write = true) (read : io.read = true)
      (checked : crc16 s.block = crc16 (s.readBack io)) :
    Flushes s isLast (.ok, { s.written io true with
      blockAddr := s.blockAddr + otaBufferSize, bufOffset := 0, buf := List.replicate otaBufferSize 0xFF })

lemma flush_flushes (s : OtaFlash) (isLast) : Flushes io s isLast (s.flush io isLast) := by
  unfold flush
  by_cases idle : s.bufOffset = 0 ∧ ¬ isLast = true
  · rw [if_pos idle]
    exact .idle idle.1 (eq_false_of_ne_true idle.2)
  have due : ¬ (s.bufOffset = 0 ∧ isLast = false) := by
    rintro ⟨empty, rfl⟩
    exact idle ⟨empty, Bool.false_ne_true⟩
  rw [if_neg idle]
  by_cases driver : ¬ io.write = true ∨ ¬ io.read = true
  · rw [if_pos driver]
    exact .failed .driver _ due
  rw [if_neg driver]
  rw [not_or, not_not, not_not] at driver
  by_cases differs : crc16 s.block ≠ crc16 (s.readBack io)
  · rw [if_pos differs]
    exact .failed .eio _ due
  · rw [if_neg differs]
    exact .flushed due driver.1 driver.2 (not_not.mp differs)

/-- `my_ota_flash_write_block`. -/
inductive Writes (s : OtaFlash) (data : Nat → UInt8) (len : Nat) : (Ret × Bool) × OtaFlash → Prop where
  | closed (busy : s.busy = false) : Writes s data len ((.err .eio, false), s)
  | empty (busy : s.busy = true) (none : len = 0) :
    Writes s data len ((.ok, decide (s.fileSize ≤ s.totalWritten)), s)
  | overflow (busy : s.busy = true) (some : len ≠ 0) (large : otaBufferSize < (s.bufOffset + len) % 2 ^ 32) :
    Writes s data len ((.err .eoverflow, false), s)
  | fault (busy : s.busy = true) (some : len ≠ 0) (wrapped : (s.bufOffset + len) % 2 ^ 32 ≤ otaBufferSize)
      (large : otaBufferSize < s.bufOffset + len) : Writes s data len ((.fault, false), { s with overrun := true })
  | kept (busy : s.busy = true) (some : len ≠ 0) (room : s.bufOffset + len < otaBufferSize)
      (more : s.totalWritten + len < s.fileSize) : Writes s data len ((.ok, false), s.copied data len)
  | flushed (ret : Ret) (last : Bool) (after : OtaFlash) (busy : s.busy = true) (some : len ≠ 0)
      (fits : s.bufOffset + len ≤ otaBufferSize) (due : otaBufferSize ≤ s.bufOffset + len ∨ last = true)
      (isLast : last = decide (s.fileSize ≤ s.totalWritten + len))
      (flushes : Flushes io (s.copied data len) last (ret, after)) : Writes s data len ((ret, last), after)

lemma writeBlock_writes (s : OtaFlash) (data : Nat → UInt8) (len) :
    Writes io s data len (s.writeBlock io data len) := by
  unfold writeBlock
  by_cases busy : s.busy = true
  case neg =>
    rw [if_pos busy]
    exact .closed (eq_false_of_ne_true busy)
  rw [if_neg (not_not_intro busy)]
  by_cases none : len = 0
  · rw [if_pos none]
    exact .empty busy none
  rw [if_neg none]
  by_cases large : otaBufferSize < (s.bufOffset + len) % 2 ^ 32
  · rw [if_pos large]
    exact .overflow busy none large
  rw [if_neg large]
  by_cases wrapped : otaBufferSize < s.bufOffset + len
  · rw [if_pos wrapped]
    exact .fault busy none (Nat.not_lt.mp large) wrapped
  rw [if_neg wrapped]
  dsimp only
  have flushes := flush_flushes io (s.copied data len) (decide ((s.copied data len).fileSize ≤ (s.copied data len).totalWritten))
  split
  next due => exact .flushed _ _ _ busy none (Nat.not_lt.mp wrapped) due rfl flushes
  next room =>
    rw [not_or, Nat.not_le, decide_eq_true_eq, Nat.not_le] at room
    rw [decide_eq_false (Nat.not_le.mpr room.2)]
    exact .kept busy none room.1 room.2

/-- `my_ota_flash_close`. -/
inductive Closes (s : OtaFlash) (resultOk : Bool) : Ret × OtaFlash → Prop where
  | idle (busy : s.busy = false) : Closes s resultOk (.ok, s)
  | dropped (busy : s.busy = true) (nothing : resultOk = false ∨ s.bufOffset = 0) : Closes s resultOk (.ok, s.released)
  | flushed (ret : Ret) (after : OtaFlash) (busy : s.busy = true) (success : resultOk = true) (some : 0 < s.bufOffset)
      (flushes : Flushes io s true (ret, after)) : Closes s resultOk (ret, after.released)

lemma close_closes (s : OtaFlash) (resultOk) : Closes io s resultOk (s.close io resultOk) := by
  unfold close
  by_cases busy : s.busy = true
  case neg =>
    rw [if_pos busy]
    exact .idle (eq_false_of_ne_true busy)
  rw [if_neg (not_not_intro busy)]
  by_cases due : resultOk = true ∧ 0 < s.bufOffset
  · rw [if_pos due]
    exact .flushed _ _ busy due.1 due.2 (flush_flushes io s true)
  · rw [if_neg due]
    refine .dropped busy ?_
    cases resultOk with
    | false => exact Or.inl rfl
    | true => exact Or.inr (Nat.eq_zero_of_not_pos fun some => due ⟨rfl, some⟩)

lemma close_busy (s : OtaFlash) (resultOk) : (s.close io resultOk).2.busy = false := by
  have closes := close_closes io s resultOk
  generalize s.close io resultOk = result at closes ⊢
  cases closes with
  | idle busy => exact busy
  | dropped | flushed => rfl

lemma Flushes.overrun {isLast : Bool} {ret : Ret} (flushes : Flushes io s isLast (ret, after)) :
    after.overrun = s.overrun := by
  cases flushes with
  | idle | failed | flushed => rfl

lemma close_overrun (s : OtaFlash) (resultOk) : (s.close io resultOk).2.overrun = s.overrun := by
  have closes := close_closes io s resultOk
  generalize s.close io resultOk = result at closes ⊢
  cases closes with
  | idle | dropped => rfl
  | flushed ret after _ _ _ flushes => exact flushes.overrun

lemma writeBlock_overrun {data : Nat → UInt8}
    (returns : (s.writeBlock io data len).1.1 ≠ .fault) : (s.writeBlock io data len).2.overrun = s.overrun := by
  have writes := writeBlock_writes io s data len
  generalize s.writeBlock io data len = result at writes returns ⊢
  cases writes with
  | fault => exact absurd rfl returns
  | flushed ret last after _ _ _ _ _ flushes => exact flushes.overrun
  | _ => rfl

end OtaFlash

lemma Image.read_write (image : Image) (addr) (block : List UInt8) :
    (image.write addr block).read addr block.length = block := by
  apply ext_getElem
  · simp only [read, length_map, length_range]
  · intro i inside _
    simp only [read, length_map, length_range] at inside
    simp only [read, write, getElem_map, getElem_range, Nat.add_sub_cancel_left]
    rw [if_pos (by omega), getD_eq_getElem?_getD, List.getElem?_eq_getElem inside, Option.getD_some]

namespace OtaFlash

lemma block_length (buf : s.buf.length = otaBufferSize) (fits : s.bufOffset ≤ otaBufferSize) :
    s.block.length = otaBufferSize := by
  simp only [block, length_append, length_take, length_replicate, buf]
  omega

lemma writeBlock_good (busy : s.busy = true) (buf : s.buf.length = otaBufferSize) {data : Nat → UInt8}
    (some : len ≠ 0) (fits : s.bufOffset + len ≤ otaBufferSize) :
    (s.writeBlock .good data len).1 = (.ok, decide (s.fileSize ≤ s.totalWritten + len)) := by
  have unit : otaBufferSize = 1024 := rfl
  have length : (s.copied data len).buf.length = otaBufferSize := by
    simp only [copied, length_append, length_take, length_map, length_range, length_drop, buf]
    omega
  have same : (s.copied data len).readBack .good = (s.copied data len).block := by
    have read := Image.read_write (s.copied data len).image (s.copied data len).blockAddr (s.copied data len).block
    rw [block_length length fits] at read
    exact read
  have flushed : ∀ isLast, ((s.copied data len).flush .good isLast).1 = .ok := by
    intro isLast
    unfold flush
    split
    · rfl
    · rw [if_neg (by decide), if_neg (not_not_intro (congrArg crc16 same.symm))]
  unfold writeBlock
  rw [if_neg (not_not_intro busy), if_neg some, if_neg (by omega), if_neg (by omega)]
  dsimp only
  split
  · exact congrArg (fun ret => (ret, _)) (flushed _)
  · rfl

end OtaFlash

lemma OtaFlash.openFile_overrun (io) (s : OtaFlash) (size) :
    (s.openFile io size).2.overrun = s.overrun := by
  have opens := s.openFile_opens io size
  generalize s.openFile io size = result at opens ⊢
  cases opens with
  | refused => rfl
  | failed erased _ _ _ same | opened erased _ _ _ same =>
    have kept : erased.overrun = s.overrun := by rw [same.same]
    exact kept

lemma Packet.word_lt (p : Packet) (i) : p.word i < 2 ^ 32 := by
  have first := (p.data i).toNat_lt
  have second := (p.data (i + 1)).toNat_lt
  have third := (p.data (i + 2)).toNat_lt
  have fourth := (p.data (i + 3)).toNat_lt
  simp only [word]
  omega

lemma Erased.busy (erased : Erased s after) : after.busy = s.busy := by rw [erased.same]

namespace LteDfu

/-- `my_dfu_lte_prepare`. -/
inductive Prepares (s : LteDfu) (totalSize : Nat) (expectCrc : BitVec 32) : FailReason × LteDfu → Prop where
  | refused (reason : FailReason) (failed : reason ≠ .ok) : Prepares s totalSize expectCrc (reason, s)
  | occupied (free : s.flash.busy = false) (nonempty : 0 < totalSize) (fits : totalSize ≤ partitionSize) :
    Prepares s totalSize expectCrc (.ok, {
      flash := { s.flash with busy := true }, vars := { totalSize, expectCrc, crc := crc32Init, sizeMismatch := false } })

lemma prepare_prepares (s : LteDfu) (totalSize expectCrc) :
    Prepares s totalSize expectCrc (s.prepare totalSize expectCrc) := by
  unfold prepare
  by_cases empty : totalSize = 0
  · rw [if_pos empty]
    exact .refused .param nofun
  rw [if_neg empty]
  by_cases large : partitionSize < totalSize
  · rw [if_pos large]
    exact .refused .size nofun
  rw [if_neg large]
  by_cases busy : s.flash.busy = true
  · have refused : s.flash.occupy = (false, s.flash) := if_pos busy
    rw [refused]
    exact .refused .busy nofun
  · have occupied : s.flash.occupy = (true, { s.flash with busy := true }) := if_neg busy
    rw [occupied]
    exact .occupied (eq_false_of_ne_true busy) (Nat.pos_of_ne_zero empty) (Nat.not_lt.mp large)

/-- `dfu_lte_save_open`. -/
inductive SaveOpens (s : LteDfu) (fileSize : Int) : Ret × LteDfu → Prop where
  | rejected (sizeMismatch : Bool) (differs : fileSize ≤ 0 ∨ fileSize ≠ s.vars.totalSize) :
    SaveOpens s fileSize (.err .einval, { s with vars := { s.vars with sizeMismatch } })
  | passed (ret : Ret) (flash : OtaFlash) (same : fileSize = s.vars.totalSize)
      (opens : OtaFlash.Opens s.flash s.vars.totalSize (ret, flash)) : SaveOpens s fileSize (ret, { s with flash })

lemma saveOpen_opens (io) (s : LteDfu) (fileSize) : SaveOpens s fileSize (s.saveOpen io fileSize) := by
  unfold saveOpen
  by_cases negative : fileSize ≤ 0
  · rw [if_pos negative]
    exact .rejected s.vars.sizeMismatch (.inl negative)
  rw [if_neg negative]
  by_cases differs : fileSize.toNat ≠ s.vars.totalSize
  · rw [if_pos differs]
    exact .rejected true (.inr (by omega))
  rw [if_neg differs]
  rw [not_not] at differs
  have opens := s.flash.openFile_opens io s.vars.totalSize
  rw [differs]
  exact .passed _ _ (by omega) opens

end LteDfu

end

open BleInput (BlockCipher aesEcbDecrypt decryptBufferSize)

def Reads.Below (reads : Reads) (len : Nat) : Prop := reads.count ≠ 0 → reads.first + reads.count ≤ len

instance (reads : Reads) (len : Nat) : Decidable (reads.Below len) := inferInstanceAs (Decidable (_ → _))

def Ota.ReadsInside (s : Ota) (cmd : UInt8) (p : Packet) : Prop :=
  ∀ reads ∈ s.cmdReads cmd p, ∀ i < reads.count, reads.first + i < p.len.toNat

def Packet.LongEnough (p : Packet) (cmd : UInt8) : Prop :=
  (cmd = dfuFileSize → 4 ≤ p.len.toNat) ∧ (cmd = dfuFileImage → p.imageLen + 10 ≤ p.len.toNat)

lemma Reads.below_iff (reads : Reads) (len : Nat) : reads.Below len ↔ ∀ i < reads.count, reads.first + i < len := by
  constructor
  · intro below i inside
    have := below (Nat.ne_of_gt (Nat.lt_of_le_of_lt (Nat.zero_le i) inside))
    omega
  · intro inside some
    have := inside (reads.count - 1) (by omega)
    omega

section

variable {s : Ota} {p : Packet}

lemma readsInside_iff (cmd : UInt8) : s.ReadsInside cmd p ↔ ∀ reads ∈ s.cmdReads cmd p, reads.Below p.len.toNat := by
  simp only [Ota.ReadsInside, Reads.below_iff]

lemma checkReads_iff (p : Packet) :
    ((8 ≤ p.len.toNat) ∧ (8 + p.imageLen) % 2 ^ 32 < p.len.toNat ∧ (9 + p.imageLen) % 2 ^ 32 < p.len.toNat ∧
      (p.imageLen % 2 ^ 16 ≠ 0 → 8 + p.imageLen % 2 ^ 16 ≤ p.len.toNat)) ↔ p.imageLen + 10 ≤ p.len.toNat := by
  have most := p.len.toNat_lt
  have small : p.imageLen < 2 ^ 32 := p.word_lt 4
  generalize p.imageLen = len at small ⊢
  generalize p.len.toNat = contentLen at most ⊢
  omega

lemma writeImageReads_inside :
    (∀ reads ∈ s.writeImageReads p, reads.Below p.len.toNat) ↔ p.imageLen + 10 ≤ p.len.toNat := by
  rw [← checkReads_iff]
  simp only [Ota.writeImageReads, mem_append, or_imp, forall_and, forall_mem_cons, Reads.Below]
  constructor
  · rintro ⟨⟨head, first, second, part, -⟩, -⟩
    exact ⟨head (by decide), first (by decide), second (by decide), part⟩
  · rintro ⟨head, first, second, part⟩
    refine ⟨⟨fun _ => head, fun _ => first, fun _ => second, part, fun _ member => absurd member not_mem_nil⟩, ?_⟩
    have whole := (checkReads_iff p).mp ⟨head, first, second, part⟩
    intro reads member _
    split at member
    · cases mem_singleton.mp member
      change 8 + p.imageLen ≤ _
      omega
    · exact absurd member not_mem_nil

end

lemma fileTrans_length {cipher : BlockCipher} {memory : Nat → UInt8} {data : List UInt8} {cmd : UInt8} {p : Packet}
    (dispatched : myBleDfuFileTransHandle cipher memory data = some (cmd, p)) :
    p.len.toNat + 6 ≤ data.length - data.length % 16 := by
  simp only [myBleDfuFileTransHandle] at dispatched
  split at dispatched
  · cases dispatched
  split at dispatched
  · cases dispatched
  split at dispatched
  · cases dispatched
  next plain _ _ =>
    split at dispatched
    · cases dispatched
    next fits =>
      cases dispatched
      rw [UInt16.toNat_ofNat']
      exact Nat.le_trans (Nat.add_le_add_right (Nat.mod_le _ _) 6) (Nat.not_lt.mp fits)

/-- Of a packet that is passed on the handlers read only the content, in any state of the session, exactly if the
content is as long as its fields say. -/
theorem dfu_reads_inside_iff {cipher : BlockCipher} {memory : Nat → UInt8} {data : List UInt8} {cmd : UInt8} {p : Packet}
    (dispatched : myBleDfuFileTransHandle cipher memory data = some (cmd, p)) (s : Ota) :
    p.len.toNat + 6 ≤ data.length - data.length % 16 ∧ (s.ReadsInside cmd p ↔ p.LongEnough cmd) := by
  refine ⟨fileTrans_length dispatched, ?_⟩
  rw [readsInside_iff]
  simp only [Ota.cmdReads, Packet.LongEnough]
  by_cases fileSize : cmd = dfuFileSize
  · subst fileSize
    rw [if_pos rfl, imp_iff_right rfl, and_iff_left (fun impossible => absurd impossible (by decide))]
    simp only [Ota.fileSizeReads, forall_mem_singleton, Reads.Below, ne_eq, OfNat.ofNat_ne_zero, not_false_eq_true,
      forall_const, Nat.zero_add]
  rw [if_neg fileSize]
  by_cases fileImage : cmd = dfuFileImage
  · rw [if_pos fileImage, writeImageReads_inside]
    exact ⟨fun fits => ⟨fun same => absurd same fileSize, fun _ => fits⟩, fun long => long.2 fileImage⟩
  · rw [if_neg fileImage]
    refine iff_of_true (fun _ member => absurd member not_mem_nil) ⟨?_, ?_⟩
    · exact fun same => absurd same fileSize
    · exact fun same => absurd same fileImage

def plainContent (frame : List UInt8) (len : UInt16) : Packet where
  data i := decrypted (fun _ => 0) frame (6 + i)
  len := len

/-- `FILE_IMAGE` with 18 bytes of content: a part of eight bytes at address 0, and its check value. -/
def wholePart : List UInt8 := [0x78, 0x79, 0xC2, 0x03, 18, 0, 0, 0, 0, 0, 8, 0, 0, 0] ++ List.replicate 18 0

theorem whole_part_inside :
    myBleDfuFileTransHandle .plain (fun _ => 0) wholePart = some (dfuFileImage, plainContent wholePart 18) ∧
      (Ota.init (fun _ => 0xFF) 247).ReadsInside dfuFileImage (plainContent wholePart 18) := by
  have decrypts : aesEcbDecrypt .plain (wholePart.take 32) decryptBufferSize = some wholePart := by decide
  have dispatched :
      myBleDfuFileTransHandle .plain (fun _ => 0) wholePart = some (dfuFileImage, plainContent wholePart 18) := by
    have lengths : wholePart.length - wholePart.length % 16 = 32 := by decide
    simp only [myBleDfuFileTransHandle, lengths, decrypts]
    rw [if_neg (by decide), if_neg (by decide), if_neg (by decide)]
    rfl
  exact ⟨dispatched, (dfu_reads_inside_iff dispatched _).2.mpr ⟨by decide, by decide⟩⟩

/-- `FILE_IMAGE` with eight bytes of content, whose length field is 4096. -/
def shortPart : List UInt8 := [0x78, 0x79, 0xC2, 0x03, 8, 0, 0, 0, 0, 0, 0, 16, 0, 0, 0, 0]

theorem short_part_read_outside :
    myBleDfuFileTransHandle .plain (fun _ => 0) shortPart = some (dfuFileImage, plainContent shortPart 8) ∧
      ⟨4104, 1⟩ ∈ (Ota.init (fun _ => 0xFF) 247).cmdReads dfuFileImage (plainContent shortPart 8) ∧
      ¬ (Ota.init (fun _ => 0xFF) 247).ReadsInside dfuFileImage (plainContent shortPart 8) := by
  have decrypts : aesEcbDecrypt .plain (shortPart.take 16) decryptBufferSize = some shortPart := by decide
  have read : (⟨4104, 1⟩ : Reads) ∈ (Ota.init (fun _ => 0xFF) 247).cmdReads dfuFileImage (plainContent shortPart 8) := by
    have len : (plainContent shortPart 8).imageLen = 4096 := by decide
    have cmd : ¬ dfuFileImage = dfuFileSize := by decide
    simp only [Ota.cmdReads, Ota.writeImageReads]
    rw [if_neg cmd, if_pos trivial, len]
    exact mem_append_left _ (mem_cons_of_mem _ mem_cons_self)
  refine ⟨?_, read, ?_⟩
  · have lengths : shortPart.length - shortPart.length % 16 = 16 := by decide
    simp only [myBleDfuFileTransHandle, lengths, decrypts]
    rw [if_neg (by decide), if_neg (by decide), if_neg (by decide)]
    rfl
  · intro inside
    exact absurd (inside _ read 0 (by decide)) (by decide)

end LL320D.Dfu
