import LL320D.Proofs.YmodemFrames
import LL320D.YmodemSender

/-! A file from end to end: over loss-free channels sender and receiver both come to their end in
every schedule, and the receiver has saved the file. -/

namespace LL320D.Ymodem
open Library List Sender Receiver

variable (bytes : List UInt8)

namespace File

/-- Block number `k`, counted from 1. -/
def block (file : File) (k : Nat) : List UInt8 := (file.data.drop (stxSize * (k - 1))).take stxSize

def fieldSize (file : File) (k : Nat) : Nat := if (file.block k).length ≤ sohSize then sohSize else stxSize

/-- The frame of block number `k`; behind the last block it is the empty one. -/
def blockFrame (file : File) (crcType : CrcType) (k : Nat) : List UInt8 :=
  frameBytes crcType (if (file.block k).length ≤ sohSize then soh else stx) (UInt8.ofNat k)
    (Sender.padded (file.fieldSize k) (file.block k))

end File

namespace Sender

variable {s : Sender} {i : Nat} {last : Bool}

lemma step_infoAck (pc : s.pc = .infoAck i) : s.step (some ack) = { s with acts := [], pc := .infoRequest i } := by
  cases s
  cases pc
  rfl

lemma step_infoRequest (pc : s.pc = .infoRequest i) :
    s.step (some s.crcType.request) = { s with acts := [] }.nextFrame := by
  obtain ⟨_, _, _, crcType, _, _, _, _, _⟩ := s
  cases pc
  cases crcType
  · rfl
  · rfl

lemma step_frameAck (pc : s.pc = .frameAck last i) :
    s.step (some ack) = { s with acts := [] }.frameSent last := by
  cases s
  cases pc
  rfl

lemma step_frameNak (pc : s.pc = .frameAck last i) :
    s.step (some nak) = { s with acts := [] }.resendFrame last i := by
  cases s
  cases pc
  rfl

lemma step_firstEot_nak (pc : s.pc = .firstEot i) :
    s.step (some nak) = { { s with acts := [] }.sendByte eot with pc := .secondEot 0 } := by
  cases s
  cases pc
  rfl

lemma step_firstEot_ack (pc : s.pc = .firstEot i) :
    s.step (some ack) = { s with acts := [], pc := .endRequest 0 } := by
  cases s
  cases pc
  rfl

lemma step_secondEot (pc : s.pc = .secondEot i) :
    s.step (some ack) = { s with acts := [], pc := .endRequest 0 } := by
  cases s
  cases pc
  rfl

lemma step_endRequest (pc : s.pc = .endRequest i) :
    s.step (some s.crcType.request) = { s with acts := [] }.sendEndFrame := by
  obtain ⟨_, _, _, crcType, _, _, _, _, _⟩ := s
  cases pc
  cases crcType
  · rfl
  · rfl

lemma step_endRequest_ack (pc : s.pc = .endRequest 0) :
    s.step (some ack) = { s with acts := [], pc := .endRequest 1 } := by
  obtain ⟨_, _, _, crcType, _, _, _, _, _⟩ := s
  cases pc
  cases crcType
  · rfl
  · rfl

lemma step_endAck (pc : s.pc = .endAck i) : s.step (some ack) = { s with acts := [], pc := .done .ok } := by
  cases s
  cases pc
  rfl

lemma step_handshake (pc : s.pc = .handshake i) (crcType : CrcType) :
    s.step (some crcType.request) = { s with acts := [] }.connected crcType := by
  cases s
  cases pc
  cases crcType
  · rfl
  · rfl

lemma step_emptyAck (pc : s.pc = .frameAck true i) (isYmodem : s.isYmodem = true) :
    s.step (some ack) = { { s with acts := [], seq := s.seq + 1 }.sendByte eot with pc := .firstEot 0 } :=
  (step_frameAck pc).trans (if_pos isYmodem)

lemma need_at {pc : SenderPc} (stands : s.pc = pc) (running : ∀ ret, pc ≠ .done ret) : s.need = some 1 := by
  unfold need
  rw [stands]
  cases pc with
  | done ret => exact absurd rfl (running ret)
  | _ => rfl

end Sender

lemma blockEnd {k : Nat} (positive : 0 < k) : stxSize * k = stxSize * (k - 1) + stxSize := by
  rw [← Nat.mul_succ]
  congr 1
  omega

namespace File

variable (file : File) (crcType : CrcType) (k : Nat)

lemma block_length : (file.block k).length = min stxSize (file.data.length - stxSize * (k - 1)) := by
  rw [block, length_take, length_drop]

lemma fieldSize_cases : (file.block k).length ≤ sohSize ∧ file.fieldSize k = sohSize ∨
    sohSize < (file.block k).length ∧ file.fieldSize k = stxSize := by
  rcases Nat.lt_or_ge sohSize (file.block k).length with long | short
  · exact Or.inr ⟨long, if_neg (Nat.not_le.mpr long)⟩
  · exact Or.inl ⟨short, if_pos short⟩

lemma block_le_fieldSize : (file.block k).length ≤ file.fieldSize k := by
  have most := file.block_length k
  rcases file.fieldSize_cases k with ⟨short, size⟩ | ⟨-, size⟩ <;> omega

lemma padded_length : (padded (file.fieldSize k) (file.block k)).length = file.fieldSize k := by
  have fits := file.block_le_fieldSize k
  rw [padded, length_append, length_replicate]
  omega

lemma blockHead_size : headSize (if (file.block k).length ≤ sohSize then soh else stx) =
    some (padded (file.fieldSize k) (file.block k)).length := by
  rw [padded_length, fieldSize]
  split
  · rfl
  · rfl

lemma padded_take : (padded (file.fieldSize k) (file.block k)).take (file.block k).length = file.block k := by
  rw [padded, take_left]

/-- The sum of what is written and the size of the last data field stays in an `int`. -/
def Fits : Prop := file.data.length ≤ 2 ^ 31 - stxSize + sohSize

instance : Decidable file.Fits := inferInstanceAs (Decidable (_ ≤ _))

def lastBlock : Nat := (file.data.length - 1) / stxSize + 1

def received : List UInt8 :=
  if file.Fits then file.data
  else file.data ++ List.replicate (file.fieldSize file.lastBlock - (file.block file.lastBlock).length) 0x1A

lemma fits_iff {k : Nat} (inside : stxSize * (k - 1) < file.data.length) (all : file.data.length ≤ stxSize * k) :
    file.Fits ↔ stxSize * (k - 1) + file.fieldSize k < 2 ^ 31 := by
  have small := file.small
  have length := file.block_length k
  have field := file.fieldSize_cases k
  unfold Fits
  simp only [stxSize, sohSize] at inside all length field ⊢
  omega

lemma lastBlock_eq {k : Nat} (inside : stxSize * (k - 1) < file.data.length) (all : file.data.length ≤ stxSize * k) :
    file.lastBlock = k := by
  unfold lastBlock
  simp only [stxSize] at inside all ⊢
  omega

lemma received_fits (fits : file.Fits) : file.received = file.data := if_pos fits

lemma received_ne (beyond : ¬ file.Fits) : file.received ≠ file.data := by
  have small := file.small
  have some : 0 < file.data.length := by
    refine Nat.pos_of_ne_zero fun none => beyond ?_
    unfold Fits
    rw [none]
    exact Nat.zero_le _
  have inside : stxSize * (file.lastBlock - 1) < file.data.length := by
    unfold lastBlock
    simp only [stxSize]
    omega
  have all : file.data.length ≤ stxSize * file.lastBlock := by
    unfold lastBlock
    simp only [stxSize]
    omega
  have overflow := (not_congr (file.fits_iff inside all)).mp beyond
  have length := file.block_length file.lastBlock
  have padding : 0 < file.fieldSize file.lastBlock - (file.block file.lastBlock).length := by omega
  intro same
  rw [received, if_neg beyond] at same
  have none := append_right_eq_self.mp same
  rw [replicate_eq_nil_iff] at none
  omega

end File

namespace Sender

variable {s : Sender} {file : File} {crcType : CrcType} {k : Nat}

/-- Block number `k` comes next. -/
structure Ready (s : Sender) (file : File) (crcType : CrcType) (k : Nat) : Prop where
  isYmodem : s.isYmodem = true
  source : s.file = file
  crcType : s.crcType = crcType
  seq : s.seq = k
  offset : s.memOffset = min (stxSize * (k - 1)) file.data.length

/-- The frame of block number `k` was sent. -/
structure Sent (s : Sender) (file : File) (crcType : CrcType) (k : Nat) (last : Bool) : Prop where
  ready : Ready { s with seq := s.seq + 1 } file crcType (k + 1)
  frame : s.frame = file.blockFrame crcType k
  pc : s.pc = .frameAck last 0

lemma Sent.need {last : Bool} (sent : s.Sent file crcType k last) : s.need = some 1 := need_at sent.pc nofun

section

variable (ready : s.Ready file crcType k)
include ready

lemma Ready.chunk : (s.file.data.drop s.memOffset).take s.dataSize = file.block k := by
  have size : s.dataSize = stxSize := by rw [dataSize, ready.isYmodem]; rfl
  rw [ready.source, ready.offset, size, File.block]
  by_cases inside : stxSize * (k - 1) ≤ file.data.length
  · rw [Nat.min_eq_left inside]
  · have outside := Nat.le_of_lt (Nat.not_le.mp inside)
    rw [Nat.min_eq_right outside, drop_length, drop_of_length_le outside]

lemma Ready.sendDataFrame (positive : 0 < k) (last : Bool) :
    let sent := { s with memOffset := s.memOffset + (file.block k).length }.sendDataFrame (file.block k) last
    sent.Sent file crcType k last ∧ sent.acts = s.acts ++ (file.blockFrame crcType k).map .send := by
  have frame : frameBytes s.crcType (s.frameHead (file.block k).length) (UInt8.ofNat s.seq)
      (padded ((headSize (s.frameHead (file.block k).length)).getD 0) (file.block k)) = file.blockFrame crcType k := by
    have head : s.frameHead (file.block k).length = if (file.block k).length ≤ sohSize then soh else stx := by
      rw [frameHead, ready.isYmodem]
      rfl
    rw [head, file.blockHead_size, Option.getD_some, file.padded_length, ready.crcType, ready.seq]
    rfl
  have length := file.block_length k
  have next := blockEnd positive
  refine ⟨⟨⟨ready.isYmodem, ready.source, ready.crcType, congrArg (· + 1) ready.seq, ?_⟩, frame, rfl⟩,
    congrArg (fun bytes : List UInt8 => s.acts ++ bytes.map Act.send) frame⟩
  show s.memOffset + (file.block k).length = min (stxSize * k) file.data.length
  rw [ready.offset]
  omega

lemma Ready.nextFrame_block (positive : 0 < k)
    (more : stxSize * (k - 1) < file.data.length) :
    s.nextFrame.Sent file crcType k false ∧ s.nextFrame.acts = s.acts ++ (file.blockFrame crcType k).map .send := by
  have some : file.block k ≠ [] := by
    intro none
    have length := file.block_length k
    rw [none] at length
    have unit : stxSize = 1024 := rfl
    simp only [length_nil] at length
    omega
  unfold nextFrame
  rw [ready.chunk, if_neg some]
  exact ready.sendDataFrame positive false

lemma Ready.nextFrame_full (positive : 0 < k) (some : 0 < file.data.length)
    (all : file.data.length ≤ stxSize * (k - 1)) (full : file.data.length % stxSize = 0) :
    s.nextFrame.Sent file crcType k true ∧ s.nextFrame.acts = s.acts ++ (file.blockFrame crcType k).map .send := by
  have none : file.block k = [] := by
    rw [File.block, drop_of_length_le all]
    rfl
  have size : s.dataSize = stxSize := by rw [dataSize, ready.isYmodem]; rfl
  have sent := ready.sendDataFrame positive true
  unfold nextFrame
  rw [ready.chunk, if_pos none, if_pos (by rw [ready.source, size]; exact ⟨ready.isYmodem, some, full⟩)]
  rw [none] at sent
  exact sent

lemma Ready.nextFrame_end (all : file.data.length ≤ stxSize * (k - 1))
    (partly : file.data.length % stxSize ≠ 0) : s.nextFrame = { s.sendByte eot with pc := .firstEot 0 } := by
  have none : file.block k = [] := by
    rw [File.block, drop_of_length_le all]
    rfl
  have size : s.dataSize = stxSize := by rw [dataSize, ready.isYmodem]; rfl
  unfold nextFrame sendEot
  rw [ready.chunk, if_pos none, if_neg (by rw [ready.source, size]; exact fun full => partly full.2.2),
    if_pos ready.isYmodem]

end

lemma Sent.acknowledged (sent : s.Sent file crcType k false) :
    ∃ next : Sender, s.step (some ack) = next.nextFrame ∧ next.Ready file crcType (k + 1) ∧ next.acts = [] :=
  ⟨_, step_frameAck sent.pc, ⟨sent.ready.isYmodem, sent.ready.source, sent.ready.crcType, sent.ready.seq, sent.ready.offset⟩,
    rfl⟩

end Sender

namespace Receiver

variable {q : Receiver (List UInt8)} {file : File} {crcType : CrcType} {k : Nat}

/-- Block number `k` is expected. -/
structure Expects (q : Receiver (List UInt8)) (file : File) (crcType : CrcType) (k : Nat) : Prop where
  state : q.state = .filexfer
  crcType : q.crcType = crcType
  isYmodem : q.isYmodem = true
  fileSize : q.fileSize = file.data.length
  written : q.written = (stxSize * (k - 1) : Nat)
  expectedSeq : q.expectedSeq = UInt8.ofNat k
  saved : q.sink = file.data.take (stxSize * (k - 1))
  pc : q.pc = .frameHead 0

section

lemma int32_large {n : Int} (low : 2 ^ 31 ≤ n) (high : n < 2 ^ 32) : int32 n = n - 2 ^ 32 := by
  unfold int32
  rw [Int.bmod_def]
  split <;> omega

variable {start : Nat} (inside : start ≤ file.data.length) (fileSize : q.fileSize = file.data.length)
  (written : q.written = start)
include inside fileSize written

lemma saveSize_room (begins : stxSize * (k - 1) = start) (isYmodem : q.isYmodem = true) (some : 0 < file.data.length)
    (room : start + file.fieldSize k < 2 ^ 31) :
    q.saveSize (file.fieldSize k) = (file.block k).length := by
  have length := file.block_length k
  rw [begins] at length
  have small := file.small
  have unit : stxSize = 1024 := rfl
  have short : sohSize = 128 := rfl
  have field := file.fieldSize_cases k
  have sum : int32 (q.written + file.fieldSize k) = (start + file.fieldSize k : Nat) := by
    rw [written, ← Int.natCast_add]
    exact int32_small (by omega) (by omega)
  unfold saveSize
  rw [sum, fileSize]
  by_cases beyond : file.data.length < start + file.fieldSize k
  · have rest : int32 (file.data.length - start) = (file.data.length - start : Nat) := by
      rw [Int.natCast_sub inside]
      exact int32_small (by omega) (by omega)
    rw [if_pos ⟨isYmodem, Int.natCast_pos.mpr some, Int.ofNat_lt.mpr beyond⟩, written, rest]
    congr 1
    omega
  · rw [if_neg fun cut => beyond (Int.ofNat_lt.mp cut.2.2)]
    congr 1
    omega

lemma saveSize_overflow (overflow : 2 ^ 31 ≤ start + file.fieldSize k) :
    q.saveSize (file.fieldSize k) = file.fieldSize k := by
  have small := file.small
  have unit : stxSize = 1024 := rfl
  have short : sohSize = 128 := rfl
  have field := file.fieldSize_cases k
  have most : file.fieldSize k ≤ 1024 := by omega
  have sum : int32 (q.written + file.fieldSize k) = (start + file.fieldSize k : Nat) - 2 ^ 32 := by
    rw [written, ← Int.natCast_add]
    exact int32_large (by omega) (by omega)
  unfold saveSize
  rw [sum, fileSize]
  exact if_neg fun cut => by omega

end

/-- All of the file is saved; frame number `k` would come next. -/
structure Complete (q : Receiver (List UInt8)) (file : File) (crcType : CrcType) (k : Nat) : Prop where
  state : q.state = .endofxfer
  crcType : q.crcType = crcType
  isYmodem : q.isYmodem = true
  fileSize : q.fileSize = file.data.length
  written : q.written = file.data.length
  expectedSeq : q.expectedSeq = UInt8.ofNat k
  saved : q.sink = file.data
  pc : q.pc = .frameHead 0

/-- The end of the session is near, and `saved` was saved. -/
structure Closing (q : Receiver (List UInt8)) (crcType : CrcType) (saved : List UInt8) (state : State) : Prop where
  state : q.state = state
  crcType : q.crcType = crcType
  isYmodem : q.isYmodem = true
  saved : q.sink = saved
  pc : q.pc = .frameHead 0

/-- The receiver with the frame of block number `k` in its buffer. -/
def holding (q : Receiver (List UInt8)) (file : File) (k : Nat) (tail : List UInt8) : Receiver (List UInt8) :=
  { q with frame := file.blockFrame q.crcType k ++ tail, acts := [], pc := .frameRest 0 }

def processed (q : Receiver (List UInt8)) (file : File) (k : Nat) (tail : List UInt8) : Receiver (List UInt8) :=
  frameProcessed keepAll 0 ((q.holding file k tail).takeFrame keepAll (file.fieldSize k))

section

variable (tail : List UInt8)

lemma took_block (expectedSeq : q.expectedSeq = UInt8.ofNat k) (phase : q.state ≠ .ending) (running : q.state ≠ .ended)
    {len : Nat} (size : q.saveSize (file.fieldSize k) = len) (most : len ≤ file.fieldSize k) :
    Took (q.holding file k tail) (q.processed file k tail) len (q.sink ++ (padded (file.fieldSize k) (file.block k)).take len) := by
  have frame : (q.holding file k tail).frame = file.blockFrame q.crcType k ++ tail := rfl
  have field : (q.holding file k tail).dataField.take len = (padded (file.fieldSize k) (file.block k)).take len := by
    rw [dataField_frame frame, take_append_of_le_length (by rw [file.padded_length]; exact most)]
  replace size : (q.holding file k tail).saveSize (file.fieldSize k) = len := size
  rw [← size]
  refine takeFrame_took keepAll 0 phase running ((seq_frame frame).trans expectedSeq.symm) ?_
  rw [size, Int.toNat_natCast, field]
  rfl

variable (expects : q.Expects file crcType k) (positive : 0 < k) (inside : stxSize * (k - 1) < file.data.length)
include expects positive inside

lemma Expects.took (room : stxSize * (k - 1) + file.fieldSize k < 2 ^ 31) :
    (q.processed file k tail).written = (min (stxSize * k) file.data.length : Nat) ∧
      (q.processed file k tail).sink = file.data.take (stxSize * k) ∧
      Took (q.holding file k tail) (q.processed file k tail) (file.block k).length (q.processed file k tail).sink := by
  have small := file.small
  have next := blockEnd positive
  have length := file.block_length k
  have size := saveSize_room (Nat.le_of_lt inside) expects.fileSize expects.written rfl expects.isYmodem (by omega) room
  have took := took_block tail expects.expectedSeq (by rw [expects.state]; decide) (by rw [expects.state]; decide) size
    (file.block_le_fieldSize k)
  have sink : (q.processed file k tail).sink = file.data.take (stxSize * k) := by
    rw [took.sink, file.padded_take, expects.saved, File.block, ← take_add, next]
  refine ⟨?_, sink, ?_⟩
  · refine took.written.trans ?_
    rw [show (q.holding file k tail).written = _ from expects.written, ← Int.natCast_add, int32_small (by omega) (by omega)]
    congr 1
    omega
  · rw [took.sink] at sink ⊢
    exact took

omit positive inside in
lemma Expects.next : (q.holding file k tail).expectedSeq + 1 = UInt8.ofNat (k + 1) := by
  have seq : (q.holding file k tail).expectedSeq = UInt8.ofNat k := expects.expectedSeq
  rw [seq]
  exact (UInt8.ofNat_add k 1).symm

lemma Expects.more (more : stxSize * k < file.data.length) :
    (q.processed file k tail).Expects file crcType (k + 1) ∧ (q.processed file k tail).acts = [.send ack] := by
  have small := file.small
  have unit : stxSize = 1024 := rfl
  have next := blockEnd positive
  have length := file.block_length k
  have field : file.fieldSize k = stxSize := by
    refine if_neg ?_
    have short : sohSize = 128 := rfl
    omega
  obtain ⟨written, sink, took⟩ := expects.took tail positive inside (by omega)
  rw [Nat.min_eq_left (Nat.le_of_lt more)] at written
  have part : ¬ (q.processed file k tail).WholeFile := by
    intro whole
    have reached := whole.2.2
    rw [written, took.fileSize, show (q.holding file k tail).fileSize = _ from expects.fileSize] at reached
    omega
  rcases took.phase with whole | ⟨-, state, acts⟩
  · exact absurd whole.1 part
  · exact ⟨⟨state.trans expects.state, took.crcType.trans expects.crcType, took.isYmodem.trans expects.isYmodem,
      took.fileSize.trans expects.fileSize, written, took.expectedSeq.trans (expects.next tail), sink, took.pc⟩, acts⟩

lemma Expects.last (all : file.data.length ≤ stxSize * k) (room : stxSize * (k - 1) + file.fieldSize k < 2 ^ 31) :
    (q.processed file k tail).Complete file crcType (k + 1) ∧
      (q.processed file k tail).acts = [.send ack, .send nak] := by
  obtain ⟨written, sink, took⟩ := expects.took tail positive inside room
  rw [Nat.min_eq_right all] at written
  rw [take_of_length_le all] at sink
  have isYmodem := took.isYmodem.trans expects.isYmodem
  have fileSize := took.fileSize.trans expects.fileSize
  have whole : (q.processed file k tail).WholeFile := by
    refine ⟨isYmodem, ?_, ?_⟩
    · rw [fileSize]
      omega
    · rw [written, fileSize]
  rcases took.phase with ⟨-, -, state, acts⟩ | ⟨part, -⟩
  · exact ⟨⟨state, took.crcType.trans expects.crcType, isYmodem, fileSize, written,
      took.expectedSeq.trans (expects.next tail), sink, took.pc⟩, acts⟩
  · exact absurd ⟨whole, expects.state⟩ part

lemma Expects.overflow (overflow : 2 ^ 31 ≤ stxSize * (k - 1) + file.fieldSize k) :
    (q.processed file k tail).Closing crcType
        (file.data ++ List.replicate (file.fieldSize k - (file.block k).length) 0x1A) .filexfer ∧
      (q.processed file k tail).acts = [.send ack] := by
  have small := file.small
  have next := blockEnd positive
  have unit : stxSize = 1024 := rfl
  have short : sohSize = 128 := rfl
  have field := file.fieldSize_cases k
  have most : file.fieldSize k ≤ stxSize := by omega
  have size := saveSize_overflow (Nat.le_of_lt inside) expects.fileSize expects.written overflow
  have took := took_block tail expects.expectedSeq (by rw [expects.state]; decide) (by rw [expects.state]; decide) size
    (Nat.le_refl _)
  have written : (q.processed file k tail).written = (stxSize * (k - 1) + file.fieldSize k : Nat) - 2 ^ 32 := by
    refine took.written.trans ?_
    rw [show (q.holding file k tail).written = _ from expects.written, ← Int.natCast_add]
    exact int32_large (by omega) (by omega)
  have part : ¬ (q.processed file k tail).WholeFile := by
    intro whole
    have positive := whole.2.1
    have reached := whole.2.2
    rw [written] at reached
    omega
  have sink : (q.processed file k tail).sink =
      file.data ++ List.replicate (file.fieldSize k - (file.block k).length) 0x1A := by
    rw [took.sink, take_of_length_le (Nat.le_of_eq (file.padded_length k)), expects.saved, padded,
      ← append_assoc]
    congr 1
    rw [File.block, ← take_add, take_of_length_le (by omega)]
  rcases took.phase with whole | ⟨-, state, acts⟩
  · exact absurd whole.1 part
  · exact ⟨⟨state.trans expects.state, took.crcType.trans expects.crcType, took.isYmodem.trans expects.isYmodem, sink,
      took.pc⟩, acts⟩

end

section

variable (tail : List UInt8)

lemma Complete.empty (complete : q.Complete file crcType k) (some : 0 < file.data.length)
    (full : stxSize * (k - 1) = file.data.length) :
    (q.processed file k tail).Complete file crcType (k + 1) ∧ (q.processed file k tail).acts = [.send ack] := by
  have small := file.small
  have unit : stxSize = 1024 := rfl
  have none : (file.block k).length = 0 := by
    rw [file.block_length]
    omega
  have field : file.fieldSize k = sohSize := if_pos (by rw [none]; exact Nat.zero_le _)
  have room : file.data.length + file.fieldSize k < 2 ^ 31 := by
    rw [field, ← full]
    simp only [unit, sohSize] at full ⊢
    omega
  have size := saveSize_room (Nat.le_refl _) complete.fileSize complete.written full complete.isYmodem some room
  have took := took_block tail complete.expectedSeq (by rw [complete.state]; decide) (by rw [complete.state]; decide) size
    (file.block_le_fieldSize k)
  have written : (q.processed file k tail).written = file.data.length := by
    refine took.written.trans ?_
    rw [show (q.holding file k tail).written = _ from complete.written, none]
    exact int32_small (by omega) (by omega)
  have sink : (q.processed file k tail).sink = file.data := by
    rw [took.sink, none, take_zero, append_nil, complete.saved]
  have next : (q.holding file k tail).expectedSeq + 1 = UInt8.ofNat (k + 1) := by
    rw [show (q.holding file k tail).expectedSeq = _ from complete.expectedSeq]
    exact (UInt8.ofNat_add k 1).symm
  rcases took.phase with ⟨-, state, -⟩ | ⟨-, state, acts⟩
  · cases complete.state.symm.trans state
  · exact ⟨⟨state.trans complete.state, took.crcType.trans complete.crcType, took.isYmodem.trans complete.isYmodem,
      took.fileSize.trans complete.fileSize, written, took.expectedSeq.trans next, sink, took.pc⟩, acts⟩

lemma Complete.repeated (complete : q.Complete file crcType (k + 1)) :
    (q.processed file k tail).Complete file crcType (k + 1) ∧ (q.processed file k tail).acts = [.send ack] := by
  have seq : (q.holding file k tail).seq = UInt8.ofNat k := seq_frame rfl
  have again : (q.holding file k tail).expectedSeq = (q.holding file k tail).seq + 1 := by
    rw [seq]
    exact complete.expectedSeq.trans (UInt8.ofNat_add k 1)
  have processed : q.processed file k tail = { (q.holding file k tail).sendByte ack with pc := .frameHead 0 } := by
    unfold processed
    rw [takeFrame_repeated keepAll _ (by rw [show (q.holding file k tail).state = _ from complete.state]; decide) again]
    refine frameProcessed_ok keepAll 0 ?_
    rw [show ((q.holding file k tail).sendByte ack).state = _ from complete.state]
    decide
  rw [processed]
  exact ⟨⟨complete.state, complete.crcType, complete.isYmodem, complete.fileSize, complete.written, complete.expectedSeq,
    complete.saved, rfl⟩, rfl⟩

omit tail in
lemma Complete.closing (complete : q.Complete file crcType k) : q.Closing crcType file.data .endofxfer :=
  ⟨complete.state, complete.crcType, complete.isYmodem, complete.saved, complete.pc⟩

end

lemma info_expects (short : file.name.length < infoMaxNameLen) (some : 0 < file.data.length) (i : Nat)
    (empty : q.sink = []) (tail : List UInt8) :
    let after := firstProcessed i sendRetry ({ q with
      frame := frameBytes q.crcType soh 0 (fileInfo file.name file.data.length) ++ tail, acts := []
      pc := .firstRest i sendRetry }.takeFirstFrame keepAll sohSize)
    after.Expects file q.crcType 1 ∧ after.acts = [.send ack, .send q.crcType.request] := by
  obtain ⟨state, crc, isYmodem, fileName, fileSize, written, expectedSeq, frame, sink, acts, pc⟩ := q
  cases empty
  refine ⟨⟨rfl, rfl, rfl, ?_, rfl, rfl, rfl, rfl⟩, rfl⟩
  exact infoSize_frame short file.plain some file.small crc tail

variable {saved : List UInt8}

/-- What `EOT` leads to: the receiver asks for another one first, and ignores one that is too many. -/
def afterEot (crcType : CrcType) : State → State × List Act
  | .filexfer => (.endofxfer, [.send nak])
  | .endofxfer => (.ending, [.send ack, .send crcType.request])
  | phase => (phase, [])

lemma Closing.eot {phase : State} (closing : q.Closing crcType saved phase)
    (running : phase = .filexfer ∨ phase = .endofxfer ∨ phase = .ending) :
    let after := q.step keepAll { data := [eot], failed := false }
    after.Closing crcType saved (afterEot crcType phase).1 ∧ after.acts = (afterEot crcType phase).2 := by
  obtain ⟨state, crc, isYmodem, sink, pc⟩ := closing
  rw [step_eot keepAll pc]
  obtain ⟨_, _, _, _, _, _, _, _, _, _, _⟩ := q
  cases state
  cases isYmodem
  cases crc
  cases sink
  rcases running with phase | phase | phase
  all_goals
    cases phase
    exact ⟨⟨rfl, rfl, rfl, rfl, rfl⟩, rfl⟩

lemma Closing.endFrame (closing : q.Closing crcType saved .ending) (tail : List UInt8) :
    let after := frameProcessed keepAll 0 ({ q with
      frame := frameBytes q.crcType soh 0 (List.replicate sohSize 0) ++ tail, acts := [], pc := .frameRest 0 }.takeFrame
        keepAll sohSize)
    after.pc = .done .ok ∧ after.sink = saved ∧ after.acts = [.send ack, .flush] := by
  obtain ⟨state, crc, isYmodem, sink, pc⟩ := closing
  obtain ⟨_, _, _, _, _, _, _, _, _, _, _⟩ := q
  cases state
  cases isYmodem
  cases crc
  cases sink
  exact ⟨rfl, rfl, rfl⟩

end Receiver

/-- Some schedule brings both sides to their end with success, and `saved` was saved. -/
def Link.Finishes (s : Link) (saved : List UInt8) : Prop :=
  ∃ k final, Network.Run senderProcess (receiverProcess keepAll) k s final ∧ final.left.pc = .done .ok ∧
    final.right.pc = .done .ok ∧ final.right.sink = saved

lemma sentBytes_send : sentBytes (bytes.map .send) = bytes := by
  rw [sentBytes, filterMap_map]
  exact filterMap_some

lemma flushes_send : flushes (bytes.map .send) = false := by
  rw [flushes, contains_eq_mem, decide_eq_false_iff_not]
  intro member
  obtain ⟨_, _, impossible⟩ := mem_map.mp member
  cases impossible

namespace Link

variable {p : Sender} {q : Receiver (List UInt8)} {toLeft toRight saved : List UInt8} (sent : List UInt8)
  {next : Receiver (List UInt8)} (bytes : List UInt8) {byte : UInt8} {errors : Nat} {ret : Ret}

lemma sender_reads {next : Sender} (step : p.step (some byte) = next) (waits : p.need = some 1)
    (goes : next.need ≠ none) (running : q.need ≠ none) (acts : next.acts = sent.map .send)
    (rest : Finishes ⟨next, q, toLeft, toRight ++ sent⟩ saved) : Finishes ⟨p, q, byte :: toLeft, toRight⟩ saved := by
  obtain ⟨k, final, run, ends⟩ := rest
  subst step
  refine ⟨k + 1, final, Network.Run.leftStep [byte] waits goes running ?_ ?_, ends⟩
  · exact (congrArg flushes acts).trans (flushes_send sent)
  · have bytes : sentBytes (p.step (some byte)).acts = sent := (congrArg sentBytes acts).trans (sentBytes_send sent)
    rw [← bytes] at run
    exact run

lemma receiver_reads
    (step : q.step keepAll { data := bytes, failed := false } = next) (waits : q.need = some bytes.length)
    (goes : next.need ≠ none) (running : p.need ≠ none) (acts : next.acts = sent.map .send)
    (rest : Finishes ⟨p, next, toLeft ++ sent, toRight⟩ saved) : Finishes ⟨p, q, toLeft, bytes ++ toRight⟩ saved := by
  obtain ⟨k, final, run, ends⟩ := rest
  subst step
  refine ⟨k + 1, final, Network.Run.rightStep bytes waits goes running ?_ ?_, ends⟩
  · exact (congrArg flushes acts).trans (flushes_send sent)
  · have read : sentBytes (q.step keepAll { data := bytes, failed := false }).acts = sent :=
      (congrArg sentBytes acts).trans (sentBytes_send sent)
    rw [← read] at run
    exact run

lemma need_frameHead (pc : q.pc = .frameHead errors) : q.need = some 1 := by
  unfold Receiver.need
  rw [pc]

lemma running (pc : q.pc = .frameHead errors) : q.need ≠ none := by
  rw [need_frameHead pc]
  exact Option.some_ne_none 1

lemma need_done (pc : q.pc = .done ret) : q.need = none := by
  unfold Receiver.need
  rw [pc]

lemma receiver_ends
    (step : q.step keepAll { data := bytes, failed := false } = next) (waits : q.need = some bytes.length)
    (done : next.pc = .done ret) (running : p.need ≠ none) (acts : sentBytes next.acts = sent)
    (rest : Finishes ⟨p, next, toLeft ++ sent, []⟩ saved) : Finishes ⟨p, q, toLeft, bytes ++ toRight⟩ saved := by
  obtain ⟨k, final, run, ends⟩ := rest
  subst step
  rw [← acts] at run
  exact ⟨k + 1, final, Network.Run.rightEnd bytes waits (need_done done) running run, ends⟩

lemma sender_ends {next : Sender} (step : p.step (some byte) = next) (waits : p.need = some 1)
    (done : next.pc = .done .ok) (finished : q.pc = .done .ok) (sink : q.sink = saved) :
    Finishes ⟨p, q, byte :: toLeft, toRight⟩ saved := by
  subst step
  have ends : (p.step (some byte)).need = none := by
    unfold Sender.need
    rw [done]
  exact ⟨1, _, Network.Run.leftLast [byte] waits ends (need_done finished), done, finished, sink⟩

section

variable (pc : q.pc = .frameHead 0) {head : UInt8} (seq : UInt8) {data : List UInt8}
  (size : headSize head = some data.length) (running : p.need ≠ none)
include pc size running

lemma receiver_reads_head
    (rest : Finishes ⟨p, { q.loaded [head] with pc := .frameRest 0 }, toLeft,
      (frameBytes q.crcType head seq data).tail ++ toRight⟩ saved) :
    Finishes ⟨p, q, toLeft, frameBytes q.crcType head seq data ++ toRight⟩ saved := by
  have known : (headSize head).isSome = true := by rw [size]; rfl
  refine receiver_reads [] [head] (Receiver.step_frameHead keepAll pc known) ?_ ?_ running rfl ?_
  · unfold Receiver.need
    rw [pc]
    rfl
  · exact Option.some_ne_none _
  · rw [append_nil]
    exact rest

lemma receiver_reads_frame
    (rest : ∀ tail, ∃ next, Receiver.frameProcessed keepAll 0 ({ q with
        frame := frameBytes q.crcType head seq data ++ tail, acts := [], pc := .frameRest 0 }.takeFrame keepAll data.length) =
          next ∧ next.pc = .frameHead 0 ∧ next.acts = sent.map .send ∧ Finishes ⟨p, next, toLeft ++ sent, toRight⟩ saved) :
    Finishes ⟨p, q, toLeft, frameBytes q.crcType head seq data ++ toRight⟩ saved := by
  obtain ⟨tail, read⟩ := Receiver.step_behindHead keepAll q 0 seq size
  obtain ⟨next, processed, again, acts, rest⟩ := rest tail
  refine receiver_reads_head pc seq size running ?_
  refine receiver_reads sent (frameBytes q.crcType head seq data).tail (read.trans processed) ?_ ?_ running acts rest
  · exact congrArg some (Receiver.remain_frame seq size rfl)
  · unfold Receiver.need
    rw [again]
    exact Option.some_ne_none 1

end

section

variable {crcType : CrcType} {file : File} {k i : Nat}

lemma finishes_endRequest (crc : p.crcType = crcType) (pc : p.pc = .endRequest i)
    (closing : q.Closing crcType saved .ending) : Finishes ⟨p, q, [crcType.request], []⟩ saved := by
  subst crc
  have sends := step_endRequest pc
  refine sender_reads (frameBytes p.crcType soh 0 (List.replicate sohSize 0)) sends (need_at pc nofun)
    (Option.some_ne_none 1) (running closing.pc) rfl ?_
  rw [nil_append, ← append_nil (frameBytes p.crcType soh 0 (List.replicate sohSize 0)), ← closing.crcType]
  have size : headSize soh = some (List.replicate sohSize (0 : UInt8)).length := rfl
  obtain ⟨tail, read⟩ := step_behindHead keepAll q 0 0 size
  obtain ⟨done, sink, acts⟩ := closing.endFrame tail
  refine receiver_reads_head closing.pc 0 size (Option.some_ne_none 1) ?_
  refine receiver_ends [ack] _ read (congrArg some (remain_frame 0 size rfl)) done (Option.some_ne_none 1)
    (congrArg sentBytes acts) ?_
  exact sender_ends (step_endAck rfl) rfl rfl done sink

lemma finishes_eot (crc : p.crcType = crcType) (pc : p.pc = .firstEot 0) (closing : q.Closing crcType saved .endofxfer) :
    Finishes ⟨p, q, [nak], [eot]⟩ saved := by
  obtain ⟨ending, acts⟩ := closing.eot (.inr (.inl rfl))
  obtain ⟨again, nothing⟩ := ending.eot (.inr (.inr rfl))
  refine sender_reads [eot] (step_firstEot_nak pc) (need_at pc nofun) (Option.some_ne_none 1)
    (running closing.pc) rfl ?_
  refine receiver_reads [ack, crcType.request] [eot] rfl (need_frameHead closing.pc) (running ending.pc)
    (Option.some_ne_none 1) acts ?_
  refine receiver_reads [] [eot] rfl (need_frameHead ending.pc) (running again.pc) (Option.some_ne_none 1) nothing ?_
  refine sender_reads [] (step_secondEot rfl) rfl (Option.some_ne_none 1) (running again.pc) rfl ?_
  exact finishes_endRequest crc rfl again

lemma finishes_overflow (crc : p.crcType = crcType) (pc : p.pc = .firstEot 0) (closing : q.Closing crcType saved .filexfer) :
    Finishes ⟨p, q, [], [eot]⟩ saved := by
  obtain ⟨asked, acts⟩ := closing.eot (.inl rfl)
  obtain ⟨ending, requests⟩ := asked.eot (.inr (.inl rfl))
  have waits := need_at pc nofun
  refine receiver_reads [nak] [eot] rfl (need_frameHead closing.pc) (running asked.pc)
    (by rw [waits]; exact Option.some_ne_none 1) acts ?_
  refine sender_reads [eot] (step_firstEot_nak pc) waits (Option.some_ne_none 1) (running asked.pc) rfl ?_
  refine receiver_reads [ack, crcType.request] [eot] rfl (need_frameHead asked.pc) (running ending.pc)
    (Option.some_ne_none 1) requests ?_
  refine sender_reads [] (step_secondEot rfl) rfl (Option.some_ne_none 1) (running ending.pc) rfl ?_
  exact finishes_endRequest crc rfl ending

lemma receiver_reads_block (pc : q.pc = .frameHead 0) (crc : q.crcType = crcType) (waits : p.need = some 1)
    (rest : ∀ tail, (q.processed file k tail).pc = .frameHead 0 ∧ (q.processed file k tail).acts = sent.map .send ∧
      Finishes ⟨p, q.processed file k tail, toLeft ++ sent, toRight⟩ saved) :
    Finishes ⟨p, q, toLeft, file.blockFrame crcType k ++ toRight⟩ saved := by
  subst crc
  refine receiver_reads_frame sent pc _ (file.blockHead_size k) (by rw [waits]; exact Option.some_ne_none 1) ?_
  intro tail
  rw [file.padded_length]
  exact ⟨_, rfl, rest tail⟩

lemma finishes_empty (sender : p.Sent file crcType k true) (complete : q.Complete file crcType k)
    (some : 0 < file.data.length) (full : stxSize * (k - 1) = file.data.length) :
    Finishes ⟨p, q, [nak], file.blockFrame crcType k⟩ file.data := by
  have waits : p.need = .some 1 := sender.need
  have again : p.step (.some nak) = { { p with acts := [] }.sendFrame with pc := .frameAck true 1 } :=
    step_frameNak sender.pc
  refine sender_reads (file.blockFrame crcType k) again waits (Option.some_ne_none 1) (running complete.pc)
    (congrArg (List.map Act.send) sender.frame) ?_
  refine receiver_reads_block [ack] complete.pc complete.crcType rfl fun tail => ?_
  obtain ⟨taken, acts⟩ := complete.empty tail some full
  refine ⟨taken.pc, acts, ?_⟩
  generalize q.processed file k tail = q at taken
  rw [← append_nil (file.blockFrame crcType k)]
  refine receiver_reads_block [ack] taken.pc taken.crcType rfl fun tail => ?_
  obtain ⟨repeated, acts⟩ := taken.repeated tail
  refine ⟨repeated.pc, acts, ?_⟩
  generalize q.processed file k tail = q at repeated
  obtain ⟨ending, requests⟩ := repeated.closing.eot (.inr (.inl rfl))
  have isYmodem : p.isYmodem = true := sender.ready.isYmodem
  refine sender_reads [eot] (step_emptyAck rfl isYmodem) rfl (Option.some_ne_none 1)
    (running repeated.pc) rfl ?_
  refine sender_reads [] (step_firstEot_ack rfl) rfl (Option.some_ne_none 1) (running repeated.pc) rfl ?_
  refine receiver_reads [ack, crcType.request] [eot] rfl (need_frameHead repeated.pc) (running ending.pc)
    (Option.some_ne_none 1) requests ?_
  refine sender_reads [] (step_endRequest_ack rfl) rfl (Option.some_ne_none 1) (running ending.pc) rfl ?_
  exact finishes_endRequest sender.ready.crcType rfl ending

end

section

variable {crcType : CrcType} {file : File} {k : Nat}

lemma finishes_last (sender : p.Sent file crcType k false) (complete : q.Complete file crcType (k + 1)) (positive : 0 < k)
    (inside : stxSize * (k - 1) < file.data.length) (all : file.data.length ≤ stxSize * k) :
    Finishes ⟨p, q, [ack, nak], []⟩ file.data := by
  have waits : p.need = some 1 := sender.need
  obtain ⟨next, step, ready, acts⟩ := sender.acknowledged
  by_cases full : file.data.length % stxSize = 0
  · have whole : stxSize * (k + 1 - 1) = file.data.length := by
      simp only [stxSize] at inside all full ⊢
      omega
    obtain ⟨again, frame⟩ := ready.nextFrame_full (Nat.succ_pos k) (by omega) (Nat.le_of_eq whole.symm) full
    rw [acts, nil_append] at frame
    refine sender_reads (file.blockFrame crcType (k + 1)) step waits ?_ (running complete.pc) frame ?_
    · rw [again.need]
      exact Option.some_ne_none 1
    · exact finishes_empty again complete (by omega) whole
  · have ends := ready.nextFrame_end all full
    refine sender_reads [eot] (step.trans ends) waits (Option.some_ne_none 1) (running complete.pc) ?_ ?_
    · exact congrArg (· ++ [Act.send eot]) acts
    · exact finishes_eot ready.crcType rfl complete.closing

lemma finishes_lastBlock (sender : p.Sent file crcType k false) (expects : q.Expects file crcType k) (positive : 0 < k)
    (inside : stxSize * (k - 1) < file.data.length) (all : file.data.length ≤ stxSize * k) :
    Finishes ⟨p, q, [], file.blockFrame crcType k⟩ file.received := by
  have waits : p.need = some 1 := sender.need
  rw [← append_nil (file.blockFrame crcType k)]
  by_cases fits : file.Fits
  · have room := (file.fits_iff inside all).mp fits
    rw [file.received_fits fits]
    refine receiver_reads_block [ack, nak] expects.pc expects.crcType waits fun tail => ?_
    obtain ⟨complete, acts⟩ := expects.last tail positive inside all room
    exact ⟨complete.pc, acts, finishes_last sender complete positive inside all⟩
  · have overflow := Nat.not_lt.mp ((not_congr (file.fits_iff inside all)).mp fits)
    have partly : file.data.length % stxSize ≠ 0 := by
      have small := file.small
      have field := file.fieldSize_cases k
      simp only [stxSize, sohSize] at inside all overflow field ⊢
      omega
    obtain ⟨next, step, ready, nothing⟩ := sender.acknowledged
    have ends := ready.nextFrame_end all partly
    refine receiver_reads_block [ack] expects.pc expects.crcType waits fun tail => ?_
    obtain ⟨closing, acts⟩ := expects.overflow tail positive inside overflow
    refine ⟨closing.pc, acts, ?_⟩
    refine sender_reads [eot] (step.trans ends) waits (Option.some_ne_none 1) (running closing.pc)
      (congrArg (· ++ [Act.send eot]) nothing) ?_
    rw [File.received, if_neg fits, file.lastBlock_eq inside all]
    exact finishes_overflow ready.crcType rfl closing

lemma finishes_blocks (left : Nat) : ∀ {p : Sender} {q : Receiver (List UInt8)} {k : Nat},
    file.data.length ≤ stxSize * (k + left) → p.Sent file crcType k false → q.Expects file crcType k → 0 < k →
    stxSize * (k - 1) < file.data.length → Finishes ⟨p, q, [], file.blockFrame crcType k⟩ file.received := by
  induction left with
  | zero =>
    intro p q k count sender expects positive inside
    exact finishes_lastBlock sender expects positive inside count
  | succ left ih =>
    intro p q k count sender expects positive inside
    by_cases all : file.data.length ≤ stxSize * k
    · exact finishes_lastBlock sender expects positive inside all
    have more := Nat.not_le.mp all
    have waits : p.need = some 1 := sender.need
    obtain ⟨next, step, ready, nothing⟩ := sender.acknowledged
    obtain ⟨sent, frame⟩ := ready.nextFrame_block (Nat.succ_pos k) more
    rw [nothing, nil_append] at frame
    rw [← append_nil (file.blockFrame crcType k)]
    refine receiver_reads_block [ack] expects.pc expects.crcType waits fun tail => ?_
    obtain ⟨expects, acts⟩ := expects.more tail positive inside more
    refine ⟨expects.pc, acts, ?_⟩
    refine sender_reads (file.blockFrame crcType (k + 1)) step waits ?_ (running expects.pc) frame ?_
    · rw [sent.need]
      exact Option.some_ne_none 1
    · refine ih ?_ sent expects (Nat.succ_pos k) more
      rw [Nat.add_assoc, Nat.add_comm 1]
      exact count

lemma finishes_answered (nonempty : 0 < file.data.length) (ready : p.Ready file crcType 1) (pc : p.pc = .infoAck 0)
    (expects : q.Expects file crcType 1) : Finishes ⟨p, q, [ack, crcType.request], []⟩ file.received := by
  obtain rfl := ready.crcType
  have waits := need_at pc nofun
  refine sender_reads [] (step_infoAck pc) waits (Option.some_ne_none 1) (running expects.pc) rfl ?_
  have asked : Sender.Ready { p with acts := [], pc := .infoRequest 0 } file p.crcType 1 :=
    ⟨ready.isYmodem, ready.source, ready.crcType, ready.seq, ready.offset⟩
  have requested := step_infoRequest (s := { p with acts := [], pc := .infoRequest 0 }) rfl
  obtain ⟨sent, frame⟩ := asked.nextFrame_block Nat.one_pos nonempty
  refine sender_reads (file.blockFrame p.crcType 1) requested rfl ?_ (running expects.pc) frame ?_
  · rw [sent.need]
    exact Option.some_ne_none 1
  · refine finishes_blocks file.data.length ?_ sent expects Nat.one_pos nonempty
    simp only [stxSize]
    omega

lemma finishes_info (short : file.name.length < infoMaxNameLen) (nonempty : 0 < file.data.length)
    (ready : p.Ready file crcType 1) (pc : p.pc = .infoAck 0) (waiting : q.pc = .handshake 0)
    (crc : q.crcType = crcType) (empty : q.sink = []) :
    Finishes ⟨p, q, [], frameBytes crcType soh 0 (fileInfo file.name file.data.length)⟩ file.received := by
  subst crc
  obtain ⟨_, _, length⟩ := fileInfo_eq short file.small
  have size : headSize soh = some (fileInfo file.name file.data.length).length := by
    rw [length]
    rfl
  have running : p.need ≠ none := by
    rw [Sender.need_at pc nofun]
    exact Option.some_ne_none 1
  have first : q.need = some 1 := by
    unfold Receiver.need
    rw [waiting]
  refine receiver_reads [] [soh] (Receiver.step_handshake keepAll waiting rfl) first (Option.some_ne_none _) running rfl ?_
  rw [append_nil, ← append_nil (List.append _ _)]
  have read := Receiver.step_firstRest keepAll (s := { q.loaded [soh] with pc := .firstRest 0 sendRetry }) 0 size rfl rfl
  rw [length] at read
  obtain ⟨expects, acts⟩ := Receiver.info_expects short nonempty 0 empty
    ((q.loaded [soh]).frame.drop (frameBytes q.crcType soh 0 (fileInfo file.name file.data.length)).length)
  refine receiver_reads [ack, q.crcType.request] _ read (congrArg some (Receiver.remain_frame 0 size rfl)) ?_ running acts ?_
  · exact Link.running expects.pc
  · exact finishes_answered nonempty ready pc expects

lemma finishes_start (crcType : CrcType) (xmodem1k : Bool) (file : File) (short : file.name.length < infoMaxNameLen)
    (nonempty : 0 < file.data.length) : Finishes (start crcType xmodem1k file) file.received := by
  have request : sentBytes (Receiver.start crcType ([] : List UInt8)).acts = [crcType.request] := by
    cases crcType
    · rfl
    · rfl
  have connects := Sender.step_handshake (s := Sender.start .auto true xmodem1k file) rfl crcType
  have ready : Sender.Ready ({ Sender.start .auto true xmodem1k file with acts := [] }.connected crcType) file crcType 1 :=
    ⟨rfl, rfl, rfl, rfl, (Nat.zero_min _).symm⟩
  unfold start
  rw [request]
  refine sender_reads (frameBytes crcType soh 0 (fileInfo file.name file.data.length)) connects rfl
    (Option.some_ne_none 1) ?_ rfl ?_
  · cases crcType
    · exact Option.some_ne_none 1
    · exact Option.some_ne_none 1
  · cases crcType
    all_goals exact finishes_info short nonempty ready rfl rfl rfl rfl

end

def after (crcType : CrcType) (xmodem1k : Bool) (file : File) (schedule : List Network.Side) : Link :=
  Network.execute senderProcess (receiverProcess keepAll) (start crcType xmodem1k file) schedule

abbrev Over (s : Link) : Prop := Network.Stuck senderProcess (receiverProcess keepAll) s

/-- In every schedule the number of moves is bounded, and when none is left both sides have returned success; what was saved
is the file exactly if its size lets no sum overflow. -/
theorem transfer_complete_iff (crcType : CrcType) (xmodem1k : Bool) (file : File)
    (short : file.name.length < infoMaxNameLen) (nonempty : 0 < file.data.length) :
    ∃ bound, ∀ schedule,
      Network.moves senderProcess (receiverProcess keepAll) (start crcType xmodem1k file) schedule ≤ bound ∧
      (Over (after crcType xmodem1k file schedule) →
        (after crcType xmodem1k file schedule).left.pc = .done .ok ∧
        (after crcType xmodem1k file schedule).right.pc = .done .ok ∧
        ((after crcType xmodem1k file schedule).right.sink = file.data ↔ file.Fits)) := by
  obtain ⟨k, final, run, sender, receiver, sink⟩ := finishes_start crcType xmodem1k file short nonempty
  refine ⟨k, fun schedule => ?_⟩
  obtain ⟨n, total, rest⟩ := run.execute schedule
  refine ⟨by omega, fun stopped => ?_⟩
  have ends : after crcType xmodem1k file schedule = final := rest.ends stopped
  rw [ends]
  refine ⟨sender, receiver, ?_⟩
  rw [sink]
  constructor
  · intro same
    by_contra beyond
    exact file.received_ne beyond same
  · exact file.received_fits

lemma letter_plain : (0 : UInt8) ∉ [0x66] := by decide

/-- Three bytes under the name `f`. -/
def threeBytes : File where
  name := [0x66]
  data := [1, 2, 3]
  plain := letter_plain
  small := by decide

theorem three_bytes_complete : ∃ schedule, Over (after .crc16 false threeBytes schedule) ∧
    (after .crc16 false threeBytes schedule).left.pc = .done .ok ∧
    (after .crc16 false threeBytes schedule).right.pc = .done .ok ∧
    (after .crc16 false threeBytes schedule).right.sink = threeBytes.data := by
  obtain ⟨_, _, run, -⟩ := finishes_start .crc16 false threeBytes (by decide) (by decide)
  obtain ⟨schedule, ends, stopped⟩ := run.schedule
  obtain ⟨_, complete⟩ := transfer_complete_iff .crc16 false threeBytes (by decide) (by decide)
  have same : after .crc16 false threeBytes schedule = _ := ends
  have stuck : Over (after .crc16 false threeBytes schedule) := by
    rw [same]
    exact stopped
  obtain ⟨sender, receiver, saved⟩ := (complete schedule).2 stuck
  exact ⟨schedule, stuck, sender, receiver, saved.mpr (by decide)⟩

def hugeFile : File where
  name := [0x66]
  data := List.replicate (2 ^ 31 - 1) 0
  plain := letter_plain
  small := by
    rw [length_replicate]
    decide

theorem huge_file_padded : ∃ schedule, Over (after .crc16 false hugeFile schedule) ∧
    (after .crc16 false hugeFile schedule).left.pc = .done .ok ∧
    (after .crc16 false hugeFile schedule).right.pc = .done .ok ∧
    (after .crc16 false hugeFile schedule).right.sink ≠ hugeFile.data := by
  have length : hugeFile.data.length = 2 ^ 31 - 1 := length_replicate
  have beyond : ¬ hugeFile.Fits := by
    unfold File.Fits
    rw [length]
    decide
  obtain ⟨_, _, run, sender, receiver, sink⟩ := finishes_start .crc16 false hugeFile (by decide) (by rw [length]; decide)
  obtain ⟨schedule, ends, stuck⟩ := run.schedule
  have same : after .crc16 false hugeFile schedule = _ := ends
  refine ⟨schedule, ?_⟩
  rw [same]
  exact ⟨stuck, sender, receiver, sink ▸ hugeFile.received_ne beyond⟩

end Link

end LL320D.Ymodem
