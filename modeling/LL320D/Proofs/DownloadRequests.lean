import LL320D.Proofs.ImageAggregation
import LL320D.Proofs.ScheduledUpgrade

/-! The download of an image over BLE: every part that is requested fits into the buffer, and a peer that answers every
request brings the whole image into flash. -/

namespace LL320D.Dfu
open Library List OtaFlash

/-- What `jimi_dfu_image_down_req` sends. -/
def request (addr len : Nat) : Out := .response dfuFileImage (word32 addr ++ word32 len ++ [0, 0])

/-- The packet answers the request that was sent last. Its bytes are those of the file; where the part reaches over the
end of the file they are arbitrary. -/
structure Answers (file : List UInt8) (s : Ota) (p : Packet) : Prop where
  asked : s.outs.getLast? = some (request p.addr p.imageLen)
  length : p.len.toNat = p.imageLen + 10
  checked : p.calcCrc = p.rxCrc
  content : ∀ i < p.imageLen, ∀ byte, file[p.addr + i]? = some byte → p.data (8 + i) = byte

structure Round where
  mtu : Nat
  answer : Packet
  percent : Nat

namespace Ota

def round (s : Ota) (next : Round) : Ota :=
  (s.step (.mtu next.mtu)).step (.command dfuFileImage next.answer next.percent .good)

def rounds (s : Ota) (peer : Nat → Round) : Nat → Ota
  | 0 => s
  | k + 1 => (s.rounds peer k).round (peer k)

/-- The size that `jimi_dfu_calc_pkt_size` gives for the part at the requested address. -/
def requestSize (s : Ota) : Nat := calcPktSize s.mtu (s.jimi.fwCopySize - s.jimi.reqFileAddr) s.flash.cacheRemain

structure Requested (s : Ota) : Prop where
  sent : s.outs.getLast? = some (request s.jimi.reqFileAddr s.requestSize)
  positive : 0 < s.requestSize
  aligned : s.requestSize % 16 = 0
  room : s.requestSize ≤ s.flash.cacheRemain
  left : s.jimi.reqFileAddr ≤ s.jimi.fwCopySize

/-- What `my_ota_flash_write_block` returns for the part, and whether it is the last one. -/
def partAnswer (s : Ota) (p : Packet) : Ret × Bool := (s.flash.writeBlock .good (fun i => p.data (8 + i)) p.imageLen).1

end Ota

lemma mtu_size (mtu) : ∃ units, 0 < units ∧ (if 384 ≤ mtu then
        if 384 ≤ (if 23 < mtu then mtu - 3 - 20 else 128) / 128 * 128 then 384
        else if 256 ≤ (if 23 < mtu then mtu - 3 - 20 else 128) / 128 * 128 then 256
        else if (if 23 < mtu then mtu - 3 - 20 else 128) / 128 * 128 < 128 then 128
        else (if 23 < mtu then mtu - 3 - 20 else 128) / 128 * 128
      else 128) = units * 128 := by
  generalize (if 23 < mtu then mtu - 3 - 20 else 128) = maxData
  by_cases large : 384 ≤ mtu
  case neg => exact ⟨1, by decide, if_neg large⟩
  rw [if_pos large]
  by_cases most : 384 ≤ maxData / 128 * 128
  · exact ⟨3, by decide, if_pos most⟩
  rw [if_neg most]
  by_cases half : 256 ≤ maxData / 128 * 128
  · exact ⟨2, by decide, if_pos half⟩
  rw [if_neg half]
  by_cases small : maxData / 128 * 128 < 128
  · exact ⟨1, by decide, if_pos small⟩
  · exact ⟨maxData / 128, by omega, if_neg small⟩

lemma calcPktSize_spec (mtu) {remain free : Nat} (some : 0 < remain) (room : 0 < free) (units : free % 128 = 0) :
    0 < calcPktSize mtu remain free ∧ calcPktSize mtu remain free % 16 = 0 ∧ calcPktSize mtu remain free ≤ free ∧
      (calcPktSize mtu remain free < remain → calcPktSize mtu remain free % 128 = 0) := by
  obtain ⟨count, positive, allowed⟩ := mtu_size mtu
  simp only [calcPktSize]
  rw [allowed]
  have limited : ∃ units, 0 < units ∧ units * 128 ≤ free ∧
      (if free < count * 128 then if free / 128 * 128 < 128 then 128 else free / 128 * 128 else count * 128) = units * 128 := by
    split
    next =>
      rw [if_neg (by omega)]
      exact ⟨free / 128, by omega, by omega, rfl⟩
    next enough => exact ⟨count, positive, Nat.not_lt.mp enough, rfl⟩
  obtain ⟨units, positive, fits, size⟩ := limited
  rw [size]
  by_cases last : remain < units * 128
  · rw [if_pos last]
    split <;> omega
  · rw [if_neg last, if_pos (by omega)]
    omega

lemma word32_inj {first second : Nat} (small : first < 2 ^ 32) (small' : second < 2 ^ 32)
    (same : word32 first = word32 second) : first = second := by
  simp only [word32, List.cons.injEq, ← UInt8.toNat_inj, UInt8.toNat_ofNat', and_true] at same
  omega

lemma request_inj {addr len : Nat} (small : addr < 2 ^ 32) (small' : len < 2 ^ 32) {p : Packet}
    (same : request addr len = request p.addr p.imageLen) : p.addr = addr ∧ p.imageLen = len := by
  simp only [request, Out.response.injEq, true_and] at same
  obtain ⟨words, -⟩ := append_inj same rfl
  obtain ⟨first, second⟩ := append_inj words rfl
  exact ⟨(word32_inj small (p.word_lt 0) first).symm, (word32_inj small' (p.word_lt 4) second).symm⟩

lemma Answers.take {file : List UInt8} {s : Ota} {p : Packet} (answers : Answers file s p) (within : p.addr ≤ file.length) :
    (file.take p.addr ++ (List.range p.imageLen).map fun i => p.data (8 + i)).take file.length =
      file.take (p.addr + p.imageLen) := by
  have front := length_take.trans (Nat.min_eq_left within)
  apply ext_getElem?
  intro i
  by_cases inside : i < file.length
  case neg =>
    rw [List.getElem?_take_eq_none (Nat.not_lt.mp inside)]
    refine (List.getElem?_eq_none ?_).symm
    exact Nat.le_trans (length_take_le' _ _) (Nat.not_lt.mp inside)
  rw [List.getElem?_take_of_lt inside]
  by_cases earlier : i < p.addr
  · rw [List.getElem?_append_left (front.symm ▸ earlier), List.getElem?_take_of_lt earlier,
      List.getElem?_take_of_lt (Nat.lt_add_right _ earlier)]
  rw [List.getElem?_append_right (front.symm ▸ Nat.not_lt.mp earlier), front]
  by_cases part : i < p.addr + p.imageLen
  · rw [List.getElem?_take_of_lt part, List.getElem?_map, List.getElem?_range (by omega), List.getElem?_eq_getElem inside]
    refine congrArg some (answers.content _ (by omega) _ ?_)
    rw [Nat.add_sub_cancel' (Nat.not_lt.mp earlier), List.getElem?_eq_getElem inside]
  · rw [List.getElem?_take_eq_none (Nat.not_lt.mp part)]
    refine List.getElem?_eq_none ?_
    rw [length_map, length_range]
    omega

lemma OtaFlash.openFile_good {s : OtaFlash} (busy : s.busy = true) {size : Nat} (some : 0 < size)
    (fits : size ≤ partitionSize) : (s.openFile .good size).1 = .ok := by
  have erased : ∀ fuel addr size (s : OtaFlash), (eraseLoop .good fuel addr size s).1 = .ok := by
    intro fuel
    induction fuel with
    | zero => exact fun _ _ _ => rfl
    | succ fuel ih =>
      intro addr size s
      simp only [eraseLoop]
      split
      · rfl
      have done : FlashIo.good.erase addr = true := rfl
      rw [if_pos done]
      split
      · exact ih _ _ _
      · rfl
  simp only [openFile]
  rw [if_neg (not_not_intro busy), if_neg (Nat.ne_of_gt some), if_neg (Nat.not_lt.mpr fits)]
  have done : (s.erase .good size).1 = .ok := erased _ _ _ s
  generalize s.erase .good size = result at done ⊢
  obtain ⟨ret, after⟩ := result
  cases done
  rfl

lemma OtaFlash.close_image (io) {s : OtaFlash} (flushed : s.bufOffset = 0) (resultOk) :
    (s.close io resultOk).2.image = s.image := by
  have closes := s.close_closes io resultOk
  generalize s.close io resultOk = result at closes ⊢
  cases closes with
  | idle | dropped => rfl
  | flushed _ _ _ _ waiting => exact absurd flushed (Nat.ne_of_gt waiting)

namespace Ota

variable {s : Ota} (addr len : UInt8)

/-- The first `got` bytes of the file have come in, and the next part is requested. -/
structure Downloads (file : List UInt8) (s : Ota) (got : Nat) : Prop where
  running : s.flash.overrun = false
  aggregates : ∃ ops, Aggregates ops file.length s.flash (file.take got)
  more : got < file.length
  fits : file.length ≤ partitionSize
  address : s.jimi.reqFileAddr = got
  size : s.jimi.fwCopySize = file.length
  units : got % 128 = 0
  sent : s.outs.getLast? = some (request s.jimi.reqFileAddr s.requestSize)

section

variable {s : Ota} {p : Packet} {file : List UInt8} {got : Nat}

lemma writeImage_accepted {last : Bool} (passes : p.Passes s.jimi.reqFileAddr) (answer : s.partAnswer p = (.ok, last)) :
    s.writeImage .good p =
      let accepted := { s with jimi := { s.jimi with waitTimer := false } }.accept
        (s.flash.writeBlock .good (fun i => p.data (8 + i)) p.imageLen).2 p
      if last then accepted.imageComplete .good else accepted.requestNext p := by
  simp only [partAnswer] at answer
  simp only [writeImage]
  rw [if_neg (not_not_intro passes)]
  generalize s.flash.writeBlock .good (fun i => p.data (8 + i)) p.imageLen = result at answer ⊢
  obtain ⟨_, flash⟩ := result
  cases last with
  | true | false =>
    cases answer
    rfl

section

variable (downloads : s.Downloads file got)
include downloads

lemma Downloads.length : (file.take got).length = got :=
  length_take.trans (Nat.min_eq_left (Nat.le_of_lt downloads.more))

lemma Downloads.bufOffset : s.flash.bufOffset = got % otaBufferSize := by
  obtain ⟨_, aggregates⟩ := downloads.aggregates
  exact aggregates.bufOffset.trans (congrArg (· % otaBufferSize) downloads.length)

lemma Downloads.sizes :
    0 < s.requestSize ∧ s.requestSize % 16 = 0 ∧ s.requestSize ≤ otaBufferSize - got % otaBufferSize ∧
      (s.requestSize < file.length - got → s.requestSize % 128 = 0) := by
  have more := downloads.more
  have units := downloads.units
  simp only [requestSize, cacheRemain]
  rw [downloads.bufOffset, downloads.address, downloads.size]
  refine calcPktSize_spec s.mtu (by omega) ?_ ?_
  · exact Nat.sub_pos_of_lt (Nat.mod_lt _ (by decide))
  · simp only [otaBufferSize]
    omega

lemma Downloads.requested : s.Requested := by
  obtain ⟨positive, aligned, room, -⟩ := downloads.sizes
  refine ⟨downloads.sent, positive, aligned, ?_, ?_⟩
  · simp only [cacheRemain]
    rw [downloads.bufOffset]
    exact room
  · rw [downloads.address, downloads.size]
    exact Nat.le_of_lt downloads.more

variable (answers : Answers file s p)
include answers

lemma Downloads.answer : p.addr = got ∧ p.imageLen = s.requestSize := by
  have limit : partitionSize < 2 ^ 32 := by decide
  have more := downloads.more
  have fits := downloads.fits
  obtain ⟨-, -, room, -⟩ := downloads.sizes
  have same := Option.some.inj (downloads.sent.symm.trans answers.asked)
  rw [downloads.address] at same
  refine request_inj (by omega) ?_ same
  have unit : otaBufferSize = 1024 := rfl
  omega

lemma Downloads.passes : p.Passes s.jimi.reqFileAddr := by
  have unit : otaBufferSize = 1024 := rfl
  obtain ⟨addr, len⟩ := downloads.answer answers
  obtain ⟨-, -, room, -⟩ := downloads.sizes
  refine ⟨?_, answers.checked, addr.trans downloads.address.symm⟩
  rw [answers.length, Nat.mod_eq_of_lt (by omega)]

lemma Downloads.fitsBlock :
    p.imageLen ≠ 0 ∧ (file.take got).length % otaBufferSize + p.imageLen ≤ otaBufferSize := by
  obtain ⟨-, len⟩ := downloads.answer answers
  obtain ⟨positive, -, room, -⟩ := downloads.sizes
  have below : got % otaBufferSize < otaBufferSize := Nat.mod_lt _ (by decide)
  rw [len, downloads.length]
  exact ⟨Nat.ne_of_gt positive, by omega⟩

lemma Downloads.next (more : got + s.requestSize < file.length) (mtu) :
    s.partAnswer p = (.ok, false) ∧ ({ s with mtu }.writeImage .good p).Downloads file (got + s.requestSize) := by
  obtain ⟨addr, len⟩ := downloads.answer answers
  obtain ⟨-, -, -, units⟩ := downloads.sizes
  obtain ⟨some, fits⟩ := downloads.fitsBlock answers
  obtain ⟨ops, aggregates⟩ := downloads.aggregates
  rw [← len] at more units ⊢
  obtain ⟨answer, collected⟩ := aggregates.piece (fun i => p.data (8 + i)) some fits (by rw [downloads.length]; exact more)
  have continued :
      file.take got ++ (List.range p.imageLen).map (fun i => p.data (8 + i)) = file.take (got + p.imageLen) := by
    have taken := answers.take (addr ▸ Nat.le_of_lt downloads.more)
    rw [addr, take_of_length_le] at taken
    · exact taken
    · rw [length_append, downloads.length, length_map, length_range]
      exact Nat.le_of_lt more
  rw [continued] at collected
  refine ⟨answer, ?_⟩
  have limit : partitionSize < 2 ^ 32 := by decide
  have whole := downloads.fits
  have address : (p.addr + p.imageLen) % 2 ^ 32 = got + p.imageLen := by
    rw [addr]
    exact Nat.mod_eq_of_lt (by omega)
  have overrun := s.flash.writeBlock_overrun .good (by rw [show _ = _ from answer]; exact nofun)
  have remain : (s.jimi.fwCopySize + 2 ^ 32 - (p.addr + p.imageLen) % 2 ^ 32) % 2 ^ 32 =
      s.jimi.fwCopySize - (p.addr + p.imageLen) % 2 ^ 32 := by
    rw [address, downloads.size]
    omega
  have written : { s with mtu }.writeImage .good p = _ := writeImage_accepted (downloads.passes answers) answer
  rw [written]
  constructor
  · exact overrun.trans downloads.running
  · exact ⟨ops, collected⟩
  · exact more
  · exact downloads.fits
  · exact address
  · exact downloads.size
  · have before := downloads.units
    have after := units (by omega)
    omega
  · refine List.getLast?_concat.trans (congrArg (fun left => Option.some (request _ (calcPktSize mtu left _))) ?_)
    exact remain

lemma Downloads.last (reaches : file.length ≤ got + s.requestSize) (mtu) :
    s.partAnswer p = (.ok, true) ∧ ({ s with mtu }.writeImage .good p).flash.busy = false ∧
      ({ s with mtu }.writeImage .good p).flash.image.read 0 file.length = file := by
  obtain ⟨addr, len⟩ := downloads.answer answers
  obtain ⟨some, fits⟩ := downloads.fitsBlock answers
  obtain ⟨ops, aggregates⟩ := downloads.aggregates
  rw [← len] at reaches
  obtain ⟨answer, complete⟩ := aggregates.last (fun i => p.data (8 + i)) some fits (by rw [downloads.length]; exact reaches)
  have taken := answers.take (addr ▸ Nat.le_of_lt downloads.more)
  rw [addr, take_of_length_le reaches] at taken
  refine ⟨answer, ?_⟩
  have written : { s with mtu }.writeImage .good p = _ := writeImage_accepted (downloads.passes answers) answer
  rw [written]
  refine ⟨close_busy .good _ true, ?_⟩
  refine (congrArg (Image.read · 0 file.length) (close_image .good complete.flushed true)).trans ?_
  have length : (file.take got ++ (List.range p.imageLen).map fun i => p.data (8 + i)).length = got + p.imageLen := by
    rw [length_append, downloads.length, length_map, length_range]
  have most : file.length ≤ blockCount (got + p.imageLen) * otaBufferSize := Nat.le_trans reaches (le_blockCount _)
  have content := complete.content
  rw [length] at content
  rw [← Image.take_read _ 0 most, content, take_append_of_le_length (by rw [length]; exact reaches)]
  exact taken

end

lemma fileSize_downloads (busy : s.flash.busy = true) (running : s.flash.overrun = false) (nonempty : file ≠ [])
    (fits : file.length ≤ partitionSize) (announced : p.word 0 = file.length) (percent) :
    (s.step (.command dfuFileSize p percent .good)).Downloads file 0 := by
  have taken : s.step (.command dfuFileSize p percent .good) = s.takeFileSize .good file.length :=
    (if_neg (ne_true_of_eq_false running)).trans (congrArg (s.takeFileSize .good) announced)
  have some := length_pos_iff.mpr nonempty
  have opened := s.flash.openFile_good busy some fits
  obtain ⟨-, aggregates⟩ := openFile_ok .good opened
  have overrun := s.flash.openFile_overrun .good file.length
  rw [taken]
  simp only [takeFileSize]
  rw [if_neg (Nat.not_lt.mpr fits)]
  generalize s.flash.openFile .good file.length = result at opened aggregates overrun ⊢
  obtain ⟨ret, flash⟩ := result
  cases opened
  constructor
  · exact overrun.trans running
  · exact ⟨_, aggregates⟩
  · exact some
  · exact fits
  · rfl
  · rfl
  · rfl
  · exact List.getLast?_concat

lemma round_eq (running : s.flash.overrun = false) (next) :
    s.round next = { s with mtu := next.mtu }.writeImage .good next.answer := by
  have negotiated : s.step (.mtu next.mtu) = { s with mtu := next.mtu } := if_neg (ne_true_of_eq_false running)
  have still : ({ s with mtu := next.mtu } : Ota).flash.overrun = false := running
  simp only [round]
  rw [negotiated]
  exact step_fileImage .good still next.answer next.percent

lemma Downloads.lastRound (downloads : s.Downloads file got) (next : Round) (answers : Answers file s next.answer)
    (reaches : file.length ≤ got + s.requestSize) : s.partAnswer next.answer = (.ok, true) ∧
      (s.round next).flash.busy = false ∧ (s.round next).flash.image.read 0 file.length = file := by
  rw [round_eq downloads.running]
  exact downloads.last answers reaches next.mtu

lemma Downloads.nextRound (downloads : s.Downloads file got) (next : Round) (answers : Answers file s next.answer)
    (more : got + s.requestSize < file.length) :
    s.partAnswer next.answer = (.ok, false) ∧ (s.round next).Downloads file (got + s.requestSize) := by
  rw [round_eq downloads.running]
  exact downloads.next answers more next.mtu

end

lemma Downloads.completes {file : List UInt8} (peer : Nat → Round) {got k : Nat}
    (downloads : (s.rounds peer k).Downloads file got)
    (answers : ∀ k, (s.rounds peer k).flash.busy = true → Answers file (s.rounds peer k) (peer k).answer) :
    ∃ n, k < n ∧ (∀ i, k ≤ i → i < n → (s.rounds peer i).Requested ∧
        (peer i).answer.Passes (s.rounds peer i).jimi.reqFileAddr ∧
        (s.rounds peer i).partAnswer (peer i).answer = (.ok, decide (i + 1 = n))) ∧
      (s.rounds peer n).flash.busy = false ∧ (s.rounds peer n).flash.image.read 0 file.length = file := by
  -- every part leaves less of the file to come
  induction left : file.length - got using Nat.strongRecOn generalizing got k with
  | ind left ih =>
    obtain ⟨ops, aggregates⟩ := downloads.aggregates
    have answer := answers k aggregates.busy
    have passes := downloads.passes answer
    by_cases last : file.length ≤ got + (s.rounds peer k).requestSize
    · obtain ⟨part, final⟩ := downloads.lastRound (peer k) answer last
      refine ⟨k + 1, Nat.lt_succ_self k, ?_, final⟩
      intro i above below
      cases Nat.le_antisymm above (Nat.le_of_lt_succ below)
      rw [decide_eq_true rfl]
      exact ⟨downloads.requested, passes, part⟩
    · obtain ⟨part, next⟩ := downloads.nextRound (peer k) answer (Nat.not_le.mp last)
      replace next : (s.rounds peer (k + 1)).Downloads file _ := next
      obtain ⟨positive, -⟩ := downloads.sizes
      have more := downloads.more
      obtain ⟨n, later, rounds, final⟩ := ih _ (by omega) next rfl
      refine ⟨n, by omega, ?_, final⟩
      intro i above below
      rcases Nat.eq_or_lt_of_le above with rfl | above
      · rw [decide_eq_false (by omega)]
        exact ⟨downloads.requested, passes, part⟩
      · exact rounds i above below

/-- Whatever the MTU is in each round: a peer that answers every request brings the image into flash, with requests of
the right size, and the last part is reported once. -/
theorem download_completes {s : Ota} (busy : s.flash.busy = true) (running : s.flash.overrun = false) {file : List UInt8}
    (nonempty : file ≠ []) (fits : file.length ≤ partitionSize) {announce : Packet}
    (announced : announce.word 0 = file.length) (percent : Nat) (peer : Nat → Round)
    (answers : ∀ k, ((s.step (.command dfuFileSize announce percent .good)).rounds peer k).flash.busy = true →
      Answers file ((s.step (.command dfuFileSize announce percent .good)).rounds peer k) (peer k).answer) :
    let state := (s.step (.command dfuFileSize announce percent .good)).rounds peer
    ∃ n, 0 < n ∧ (∀ k < n, (state k).Requested ∧ (peer k).answer.Passes (state k).jimi.reqFileAddr ∧
        (state k).partAnswer (peer k).answer = (.ok, decide (k + 1 = n))) ∧
      (state n).flash.busy = false ∧ (state n).flash.image.read 0 file.length = file := by
  have downloads := fileSize_downloads busy running nonempty fits announced percent
  obtain ⟨n, some, rounds, final⟩ := Downloads.completes (k := 0) peer downloads answers
  exact ⟨n, some, fun k => rounds k (Nat.zero_le k), final⟩

lemma round_released (released : s.flash.busy = false) (next) : (s.round next).flash.busy = false := by
  by_cases running : s.flash.overrun = false
  case neg =>
    have stuck : ∀ event, s.step event = s := fun _ => if_pos (eq_true_of_ne_false running)
    simp only [round]
    rw [stuck, stuck]
    exact released
  rw [round_eq running]
  simp only [writeImage]
  split
  · exact released
  have writes := s.flash.writeBlock_writes .good (fun i => next.answer.data (8 + i)) next.answer.imageLen
  generalize s.flash.writeBlock .good (fun i => next.answer.data (8 + i)) next.answer.imageLen = result at writes ⊢
  cases writes with
  | closed => exact close_busy .good _ false
  | empty busy | overflow busy | fault busy | kept busy | flushed _ _ _ busy => exact nomatch released.symm.trans busy

lemma rounds_released {peer : Nat → Round} {n : Nat} (released : (s.rounds peer n).flash.busy = false) (k : Nat) :
    (s.rounds peer (n + k)).flash.busy = false := by
  induction k with
  | zero => exact released
  | succ k ih => exact round_released ih (peer (n + k))

/-- `FILE_IMAGE` with zero bytes; their check value is 0. -/
def zeroPart (addr len : UInt8) : Packet where
  data i := if i = 0 then addr else if i = 4 then len else 0
  len := len.toUInt16 + 10

/-- The parts of a file of 200 bytes: the last one is rounded up to 80. -/
def twoParts (k : Nat) : Round := ⟨247, if k = 0 then zeroPart 0 128 else zeroPart 128 80, 100⟩

lemma zeroPart_zero (i : Nat) : (zeroPart addr len).data (8 + i) = 0 := by
  simp only [zeroPart]
  rw [if_neg (by omega), if_neg (by omega)]

lemma zeroPart_words :
    (zeroPart addr len).addr = addr.toNat ∧ (zeroPart addr len).imageLen = len.toNat := by
  constructor <;> simp [zeroPart, Packet.addr, Packet.imageLen, Packet.word]

lemma zeroPart_checked : (zeroPart addr len).calcCrc = (zeroPart addr len).rxCrc := by
  have zeros (n : Nat) : crc16 (List.replicate n 0) = 0 := by
    induction n with
    | zero => rfl
    | succ n ih => exact ih
  have small := len.toNat_lt
  have behind : (8 + len.toNat) % 2 ^ 32 = 8 + len.toNat ∧ (9 + len.toNat) % 2 ^ 32 = 8 + (1 + len.toNat) := by omega
  simp only [Packet.calcCrc, Packet.rxCrc, (zeroPart_words addr len).2, behind.1, behind.2, zeroPart_zero, map_const', zeros]
  rfl

lemma zeroPart_answers {got : Nat} (downloads : s.Downloads (List.replicate 200 0) got)
    (here : addr.toNat = got) (size : s.requestSize = len.toNat) (sized : (zeroPart addr len).len.toNat = len.toNat + 10) :
    Answers (List.replicate 200 0) s (zeroPart addr len) := by
  have word := zeroPart_words addr len
  refine ⟨?_, ?_, zeroPart_checked addr len, ?_⟩
  · rw [downloads.sent, word.1, word.2, size, downloads.address, here]
  · rw [word.2, sized]
  · intro i less byte found
    rw [List.getElem?_replicate] at found
    rw [zeroPart_zero]
    split at found
    · exact Option.some.inj found
    · cases found

lemma twoParts_answer {opened : Ota} (downloads : opened.Downloads (List.replicate 200 0) 0) (mtu : opened.mtu = 247)
    (k) (busy : (opened.rounds twoParts k).flash.busy = true) :
    Answers (List.replicate 200 0) (opened.rounds twoParts k) (twoParts k).answer := by
  have length : (List.replicate 200 (0 : UInt8)).length = 200 := length_replicate
  have size {s : Ota} {got : Nat} (downloads : s.Downloads (List.replicate 200 0) got) (mtu : s.mtu = 247) :
      s.requestSize = calcPktSize 247 (200 - got) (otaBufferSize - got % otaBufferSize) := by
    simp only [requestSize, cacheRemain]
    rw [downloads.bufOffset, downloads.address, downloads.size, mtu, length]
  have first := zeroPart_answers 0 128 downloads rfl ((size downloads mtu).trans (by decide)) (by decide)
  obtain ⟨answer, next⟩ := downloads.nextRound (twoParts 0) first (by rw [size downloads mtu, length]; decide)
  rw [size downloads mtu, show 0 + calcPktSize 247 (200 - 0) (otaBufferSize - 0 % otaBufferSize) = 128 by decide] at next
  have kept : (opened.round (twoParts 0)).mtu = 247 := by
    rw [round_eq downloads.running]
    have written : { opened with mtu := 247 }.writeImage .good (twoParts 0).answer = _ :=
      writeImage_accepted (downloads.passes first) answer
    exact congrArg Ota.mtu written
  have second := zeroPart_answers 128 80 next rfl ((size next kept).trans (by decide)) (by decide)
  rcases k with _ | _ | k
  · exact first
  · exact second
  · have released := (next.lastRound (twoParts 1) second (by rw [size next kept, length]; decide)).2.1
    have after : (opened.rounds twoParts 2).flash.busy = false := released
    exact absurd ((Nat.add_comm 2 k ▸ rounds_released after k).symm.trans busy) Bool.false_ne_true

def twoHundredBytes : Packet := { data := fun i => if i = 0 then 200 else 0, len := 4 }

theorem two_parts_download :
    let s : Ota := { init (fun _ => 0xFF) 247 with flash := occupiedFlash }
    let state := (s.step (.command dfuFileSize twoHundredBytes 100 .good)).rounds twoParts
    ∃ n, 0 < n ∧ (∀ k < n, (state k).Requested ∧ (twoParts k).answer.Passes (state k).jimi.reqFileAddr ∧
        (state k).partAnswer (twoParts k).answer = (.ok, decide (k + 1 = n))) ∧
      (state n).flash.busy = false ∧
      (state n).flash.image.read 0 (List.replicate 200 (0 : UInt8)).length = List.replicate 200 0 := by
  intro s
  have nonempty : List.replicate 200 (0 : UInt8) ≠ [] := by simp
  have length : (List.replicate 200 (0 : UInt8)).length = 200 := length_replicate
  have fits : (List.replicate 200 (0 : UInt8)).length ≤ partitionSize := by rw [length]; decide
  have announced : twoHundredBytes.word 0 = (List.replicate 200 (0 : UInt8)).length := by rw [length]; decide
  have downloads := fileSize_downloads (rfl : s.flash.busy = true) rfl nonempty fits announced 100
  exact download_completes rfl rfl nonempty fits announced 100 _ (twoParts_answer downloads rfl)

end Ota

end LL320D.Dfu
