import LL320D.Library.CrcPolynomial
import LL320D.Proofs.OtaSession

/-! How the OTA flash module puts an image together from the pieces it is given: what buffer and flash hold after each
piece. -/

namespace LL320D.Dfu
open Library List OtaFlash

section

lemma Image.take_read (image : Image) (addr : Nat) {len more : Nat} (less : len ≤ more) :
    (image.read addr more).take len = image.read addr len := by
  unfold Image.read
  rw [← map_take, take_range, Nat.min_eq_left less]

lemma Image.read_write_behind (image : Image) (addr : Nat) (block : List UInt8) :
    (image.write addr block).read 0 (addr + block.length) = image.read 0 addr ++ block := by
  have front : (image.write addr block).read 0 addr = image.read 0 addr := by
    apply map_congr_left
    intro i inside
    have below : 0 + i < addr := by
      rw [Nat.zero_add]
      exact mem_range.mp inside
    exact if_neg fun within => Nat.not_le.mpr below within.1
  have split : (image.write addr block).read 0 (addr + block.length) =
      (image.write addr block).read 0 addr ++ (image.write addr block).read addr block.length := by
    unfold Image.read
    rw [range_add, map_append, map_map]
    congr 1
    apply map_congr_left
    intro i _
    exact congrArg _ (Nat.zero_add _)
  rw [split, front, Image.read_write]

lemma map_range_getD (data : List UInt8) : (List.range data.length).map (fun i => data.getD i 0) = data := by
  apply ext_getElem
  · rw [length_map, length_range]
  · intro i _ inside
    rw [getElem_map, getElem_range, getD_eq_getElem?_getD, List.getElem?_eq_getElem inside, Option.getD_some]

structure Collects (s : OtaFlash) (data : List UInt8) : Prop where
  busy : s.busy = true
  total : s.totalWritten = data.length
  offset : s.blockAddr + s.bufOffset = data.length
  room : s.bufOffset < otaBufferSize
  buf : s.buf.length = otaBufferSize
  content : s.image.read 0 s.blockAddr ++ s.buf.take s.bufOffset = data

variable {s : OtaFlash} {data chunk : List UInt8} {len : Nat}

lemma Collects.copied (collects : Collects s data) (bytes : Nat → UInt8) (fits : s.bufOffset + len ≤ otaBufferSize) :
    (s.copied bytes len).buf.length = otaBufferSize ∧
      (s.copied bytes len).buf.take (s.bufOffset + len) = s.buf.take s.bufOffset ++ (List.range len).map bytes := by
  have front : (s.buf.take s.bufOffset).length = s.bufOffset := by
    rw [length_take, collects.buf]
    exact Nat.min_eq_left (Nat.le_of_lt collects.room)
  simp only [OtaFlash.copied]
  constructor
  · rw [length_append, length_append, front, length_drop, collects.buf, length_map, length_range]
    omega
  · have length : s.bufOffset + len = (s.buf.take s.bufOffset ++ (List.range len).map bytes).length := by
      rw [length_append, front, length_map, length_range]
    nth_rewrite 1 [length]
    exact take_left

lemma Collects.stored (collects : Collects s data) {io : FlashIo} (stored : io.stored = none) (bytes : Nat → UInt8)
    (fits : s.bufOffset + len ≤ otaBufferSize) :
    ((s.copied bytes len).written io true).image.read 0 (s.blockAddr + otaBufferSize) =
      data ++ (List.range len).map bytes ++ List.replicate (otaBufferSize - (s.bufOffset + len)) 0xFF := by
  obtain ⟨length, taken⟩ := collects.copied bytes fits
  generalize filled : s.copied bytes len = next at length taken
  have addr : next.blockAddr = s.blockAddr := by rw [← filled]; rfl
  have offset : next.bufOffset = s.bufOffset + len := by rw [← filled]; rfl
  have image : next.image = s.image := by rw [← filled]; rfl
  have block := OtaFlash.block_length length (offset ▸ fits)
  have leaves : io.leaves next.block = next.block := by
    unfold FlashIo.leaves
    rw [stored]
  have whole := Image.read_write_behind next.image next.blockAddr next.block
  rw [block, addr] at whole
  unfold OtaFlash.written
  dsimp only
  rw [leaves, addr, whole, image, OtaFlash.block, offset, taken, ← append_assoc, ← append_assoc, collects.content]

lemma length_given (data : List UInt8) (bytes : Nat → UInt8) (len : Nat) :
    (data ++ (List.range len).map bytes).length = data.length + len := by
  rw [length_append, length_map, length_range]

variable (collects : Collects s data) {io : FlashIo}
include collects

lemma Collects.flushed (stored : io.stored = none) (bytes : Nat → UInt8) (fits : s.bufOffset + len ≤ otaBufferSize) :
    ((s.copied bytes len).written io true).image.read 0 (data.length + len) = data ++ (List.range len).map bytes := by
  have sum := collects.offset
  have less : data.length + len ≤ s.blockAddr + otaBufferSize := by omega
  rw [← Image.take_read _ 0 less, collects.stored stored bytes fits, ← length_given data bytes len]
  exact take_left

lemma Collects.keep (bytes : Nat → UInt8) (room : s.bufOffset + len < otaBufferSize) :
    Collects (s.copied bytes len) (data ++ (List.range len).map bytes) := by
  obtain ⟨length, front⟩ := collects.copied bytes (Nat.le_of_lt room)
  refine ⟨collects.busy, ?_, ?_, room, length, ?_⟩
  · rw [length_given, ← collects.total]
    rfl
  · rw [length_given, ← collects.offset, Nat.add_assoc]
    rfl
  · refine Eq.trans (congrArg (s.image.read 0 s.blockAddr ++ ·) front) ?_
    rw [← append_assoc, collects.content]

lemma Collects.fill (stored : io.stored = none) (bytes : Nat → UInt8) (full : s.bufOffset + len = otaBufferSize) :
    Collects { (s.copied bytes len).written io true with
      blockAddr := s.blockAddr + otaBufferSize, bufOffset := 0, buf := List.replicate otaBufferSize 0xFF }
      (data ++ (List.range len).map bytes) := by
  have sum := collects.offset
  have addr : s.blockAddr + otaBufferSize = data.length + len := by omega
  have read := collects.flushed stored bytes (Nat.le_of_eq full)
  refine ⟨collects.busy, ?_, ?_, Nat.zero_lt_succ _, length_replicate, ?_⟩
  · rw [length_given, ← collects.total]
    rfl
  · rw [length_given]
    exact addr
  · refine Eq.trans (append_nil _) ?_
    refine Eq.trans ?_ read
    rw [← addr]

end

def blockCount (size : Nat) : Nat := (size + (otaBufferSize - 1)) / otaBufferSize

def blockWrites (count : Nat) : List FlashOp := (List.range count).map fun i => .flush (i * otaBufferSize) true

def sectorCount (size : Nat) : Nat := (size + (flashSectorSize - 1)) / flashSectorSize

def sectorErases (size : Nat) : List FlashOp :=
  (List.range (sectorCount size)).map fun i => .erase (i * flashSectorSize) true

/-- An image of `size` bytes is put together since the accesses `ops`: its whole blocks are in flash, the rest is in
the buffer. -/
structure Aggregates (ops : List FlashOp) (size : Nat) (s : OtaFlash) (data : List UInt8) : Prop extends Collects s data where
  fileSize : s.fileSize = size
  more : data.length < size
  aligned : s.blockAddr = data.length / otaBufferSize * otaBufferSize
  written : s.ops = ops ++ blockWrites (data.length / otaBufferSize)

structure Complete (ops : List FlashOp) (s : OtaFlash) (data : List UInt8) : Prop where
  content : s.image.read 0 (blockCount data.length * otaBufferSize) =
    data ++ List.replicate (blockCount data.length * otaBufferSize - data.length) 0xFF
  flushed : s.bufOffset = 0
  written : s.ops = ops ++ blockWrites (blockCount data.length)

section

variable {ops : List FlashOp} {size : Nat} {s : OtaFlash} {data : List UInt8} {len : Nat} {start : Nat}

lemma blockWrites_succ (count : Nat) :
    blockWrites (count + 1) = blockWrites count ++ [.flush (count * otaBufferSize) true] := by
  simp only [blockWrites, range_succ, map_append, map_cons, map_nil]

lemma piece_end (fits : start % otaBufferSize + len ≤ otaBufferSize) : (start + len) / otaBufferSize =
      if start % otaBufferSize + len < otaBufferSize then start / otaBufferSize else start / otaBufferSize + 1 := by
  by_cases inside : start % otaBufferSize + len < otaBufferSize
  · rw [if_pos inside]
    simp only [otaBufferSize] at inside ⊢
    omega
  · rw [if_neg inside]
    simp only [otaBufferSize] at fits inside ⊢
    omega

lemma blockCount_piece (some : len ≠ 0) (fits : start % otaBufferSize + len ≤ otaBufferSize) :
    blockCount (start + len) = start / otaBufferSize + 1 := by
  simp only [blockCount, otaBufferSize] at fits ⊢
  omega

lemma le_blockCount (size : Nat) : size ≤ blockCount size * otaBufferSize := by
  simp only [blockCount, otaBufferSize]
  omega

variable (aggregates : Aggregates ops size s data)
include aggregates

lemma Aggregates.bufOffset : s.bufOffset = data.length % otaBufferSize := by
  have sum := aggregates.offset
  have parts := Nat.div_add_mod' data.length otaBufferSize
  rw [aggregates.aligned] at sum
  omega

section

variable (bytes : Nat → UInt8) (some : len ≠ 0) (fits : data.length % otaBufferSize + len ≤ otaBufferSize)
include bytes some fits

lemma Aggregates.piece (more : data.length + len < size) :
    (s.writeBlock .good bytes len).1 = (.ok, false) ∧
      Aggregates ops size (s.writeBlock .good bytes len).2 (data ++ (List.range len).map bytes) := by
  have addr := aggregates.aligned
  have ends := piece_end fits
  have length := length_given data bytes len
  rw [← aggregates.bufOffset] at fits ends
  have incomplete : ¬ s.fileSize ≤ s.totalWritten + len := by
    rw [aggregates.fileSize, aggregates.total]
    omega
  have answer : (s.writeBlock .good bytes len).1 = (.ok, decide (s.fileSize ≤ s.totalWritten + len)) :=
    writeBlock_good aggregates.busy aggregates.buf some fits
  rw [decide_eq_false incomplete] at answer
  refine ⟨answer, ?_⟩
  have writes := s.writeBlock_writes .good bytes len
  generalize s.writeBlock .good bytes len = result at writes answer ⊢
  cases writes with
  | closed | overflow | fault => cases answer
  | empty _ none => exact absurd none some
  | kept _ _ room _ =>
    rw [if_pos room] at ends
    refine ⟨aggregates.keep bytes room, aggregates.fileSize, length ▸ more, ?_, ?_⟩
    · rw [length, ends]
      exact addr
    · rw [length, ends]
      exact aggregates.written
  | flushed ret last after _ _ _ due isLast flushes =>
    rw [decide_eq_false incomplete] at isLast
    subst isLast
    have full : s.bufOffset + len = otaBufferSize := by
      rcases due with full | complete
      · exact Nat.le_antisymm fits full
      · cases complete
    rw [if_neg (by omega)] at ends
    cases flushes with
    | idle empty => exact absurd (Nat.eq_zero_of_add_eq_zero_left empty) some
    | failed => cases answer
    | flushed =>
      refine ⟨aggregates.fill rfl bytes full, aggregates.fileSize, length ▸ more, ?_, ?_⟩
      · rw [length, ends, Nat.succ_mul, ← addr]
        rfl
      · rw [length, ends, blockWrites_succ, ← append_assoc, ← aggregates.written, ← addr]
        rfl

lemma Aggregates.last (reaches : size ≤ data.length + len) :
    (s.writeBlock .good bytes len).1 = (.ok, true) ∧
      Complete ops (s.writeBlock .good bytes len).2 (data ++ (List.range len).map bytes) := by
  have addr := aggregates.aligned
  have count := blockCount_piece some fits
  have length := length_given data bytes len
  rw [← aggregates.bufOffset] at fits
  have complete : s.fileSize ≤ s.totalWritten + len := by
    rw [aggregates.fileSize, aggregates.total]
    exact reaches
  have answer : (s.writeBlock .good bytes len).1 = (.ok, decide (s.fileSize ≤ s.totalWritten + len)) :=
    writeBlock_good aggregates.busy aggregates.buf some fits
  rw [decide_eq_true complete] at answer
  refine ⟨answer, ?_⟩
  have stored := aggregates.stored (rfl : FlashIo.good.stored = none) bytes fits
  have writes := s.writeBlock_writes .good bytes len
  generalize s.writeBlock .good bytes len = result at writes answer ⊢
  cases writes with
  | closed | overflow | fault | kept => cases answer
  | empty _ none => exact absurd none some
  | flushed ret last after busy _ _ due isLast flushes =>
    rw [decide_eq_true complete] at isLast
    subst isLast
    cases flushes with
    | idle _ more => cases more
    | failed => cases answer
    | flushed =>
      refine ⟨?_, rfl, ?_⟩
      · have stop : blockCount (data.length + len) * otaBufferSize = s.blockAddr + otaBufferSize := by
          rw [count, Nat.succ_mul, ← addr]
        have sum := aggregates.offset
        have left : s.blockAddr + otaBufferSize - (data.length + len) = otaBufferSize - (s.bufOffset + len) := by omega
        rw [length, stop, left]
        exact stored
      · rw [length, count, blockWrites_succ, ← append_assoc, ← aggregates.written, ← addr]
        rfl

end

lemma Aggregates.refused (bytes : Nat → UInt8) (large : len ≤ otaBufferSize)
    (beyond : otaBufferSize < data.length % otaBufferSize + len) :
    (s.writeBlock .good bytes len).1 = (.err .eoverflow, false) := by
  have unit : otaBufferSize = 1024 := rfl
  rw [← aggregates.bufOffset] at beyond
  have room := aggregates.room
  have writes := s.writeBlock_writes .good bytes len
  generalize s.writeBlock .good bytes len = result at writes ⊢
  cases writes with
  | closed closed => exact nomatch closed.symm.trans aggregates.busy
  | overflow => rfl
  | empty | fault | kept | flushed => omega

end

section

variable (io : FlashIo) {size : Nat}

lemma sectorCount_zero : sectorCount 0 = 0 := by decide

lemma sectorCount_more (more : flashSectorSize < size) :
    sectorCount size = sectorCount (size - flashSectorSize) + 1 := by
  simp only [sectorCount, flashSectorSize] at more ⊢
  omega

lemma sectorCount_one (some : size ≠ 0) (one : size ≤ flashSectorSize) : sectorCount size = 1 := by
  simp only [sectorCount, flashSectorSize] at one ⊢
  omega

lemma erases_succ (addr unit count : Nat) :
    (List.range (count + 1)).map (fun i => FlashOp.erase (addr + i * unit) true) =
      FlashOp.erase addr true :: (List.range count).map fun i => .erase (addr + unit + i * unit) true := by
  rw [range_succ_eq_map, map_cons, map_map, Nat.zero_mul, Nat.add_zero]
  refine congrArg (_ :: ·) (map_congr_left fun i _ => ?_)
  rw [Function.comp_apply, Nat.succ_mul, Nat.add_assoc, Nat.add_comm unit]

lemma eraseLoop_ok : ∀ (fuel addr size : Nat) (s : OtaFlash), size ≤ fuel * flashSectorSize →
    (eraseLoop io fuel addr size s).1 = .ok → (eraseLoop io fuel addr size s).2.ops = s.ops ++
      (List.range (sectorCount size)).map fun i => .erase (addr + i * flashSectorSize) true := by
  intro fuel
  induction fuel with
  | zero =>
    intro addr size s enough _
    rw [Nat.zero_mul] at enough
    rw [Nat.le_zero.mp enough, sectorCount_zero, range_zero, map_nil, append_nil]
    rfl
  | succ fuel ih =>
    intro addr size s enough erased
    simp only [eraseLoop] at erased ⊢
    by_cases none : size = 0
    · rw [if_pos none, none, sectorCount_zero, range_zero, map_nil, append_nil]
    rw [if_neg none] at erased ⊢
    by_cases done : io.erase addr = true
    case neg =>
      rw [if_neg done] at erased
      cases erased
    rw [if_pos done] at erased ⊢
    by_cases more : flashSectorSize < size
    · have left : size - flashSectorSize ≤ fuel * flashSectorSize := by
        rw [Nat.succ_mul] at enough
        omega
      rw [if_pos more] at erased ⊢
      rw [ih _ _ _ left erased, sectorCount_more more, erases_succ, append_assoc, singleton_append]
    · rw [if_neg more, sectorCount_one none (Nat.not_lt.mp more), range_one, map_cons, map_nil,
        Nat.zero_mul, Nat.add_zero]

lemma openFile_ok {s : OtaFlash} (opened : (s.openFile io size).1 = .ok) :
    (s.openFile io size).2.ops = s.ops ++ sectorErases size ∧
      Aggregates (s.openFile io size).2.ops size (s.openFile io size).2 [] := by
  have erases := eraseLoop_ok io (size / flashSectorSize + 1) 0 size s
  have opens := s.openFile_opens io size
  have shape : (s.openFile io size).1 = .ok → (s.erase io size).1 = .ok ∧
      (s.openFile io size).2.ops = (s.erase io size).2.ops := by
    simp only [openFile]
    split
    · exact nofun
    split
    · exact nofun
    split
    · exact nofun
    generalize s.erase io size = result
    obtain ⟨ret, erased⟩ := result
    cases ret with
    | ok => exact fun _ => ⟨rfl, rfl⟩
    | err | fault => exact nofun
  obtain ⟨finished, same⟩ := shape opened
  have ops : (s.openFile io size).2.ops = s.ops ++ sectorErases size := by
    have enough : size ≤ (size / flashSectorSize + 1) * flashSectorSize := by
      rw [Nat.succ_mul]
      exact Nat.le_of_lt (Nat.lt_div_mul_add (by decide))
    refine same.trans ((erases enough finished).trans ?_)
    simp only [Nat.zero_add]
    rfl
  refine ⟨ops, ?_⟩
  generalize s.openFile io size = result at opens opened ⊢
  cases opens with
  | refused | failed => cases opened
  | opened erased busy nonempty _ erases =>
    refine ⟨⟨?_, rfl, rfl, Nat.zero_lt_succ _, length_replicate, rfl⟩, rfl, nonempty, rfl, ?_⟩
    · exact erases.busy.trans busy
    · exact (append_nil _).symm

end

section

def writePiece (s : OtaFlash) (piece : List UInt8) : (Ret × Bool) × OtaFlash :=
  s.writeBlock .good (fun i => piece.getD i 0) piece.length

/-- No piece reaches over the end of its block, if the first of them follows `written` bytes. -/
def WithinBlocks : Nat → List (List UInt8) → Prop
  | _, [] => True
  | written, piece :: rest =>
    written % otaBufferSize + piece.length ≤ otaBufferSize ∧ WithinBlocks (written + piece.length) rest

def FlashOp.InErased (erases : List FlashOp) (op : FlashOp) : Prop :=
  ∃ addr sector, op = .flush addr true ∧ .erase sector true ∈ erases ∧ sector ≤ addr ∧
    addr + otaBufferSize ≤ sector + flashSectorSize

/-- The pieces have become the image: every call succeeds and the last one completes it; flash holds it, filled up with
`0xFF`; every block lies in a sector that was erased when the image was opened. -/
structure Assembled (s opened : OtaFlash) (size : Nat) (pieces : List (List UInt8)) : Prop where
  answers : (execute writePiece opened pieces).1 = List.replicate (pieces.length - 1) (.ok, false) ++ [(.ok, true)]
  image : (execute writePiece opened pieces).2.image.read 0 size = pieces.flatten
  filled : ∀ a, size ≤ a → a < blockCount size * otaBufferSize → (execute writePiece opened pieces).2.image a = 0xFF
  offset : ∀ k < pieces.length, (execute writePiece opened (pieces.take k)).2.blockAddr +
    (execute writePiece opened (pieces.take k)).2.bufOffset = (pieces.take k).flatten.length
  erased : ∀ k, ∀ op ∈ (execute writePiece opened (pieces.take k)).2.ops.drop opened.ops.length,
    op.InErased (opened.ops.drop s.ops.length)

variable {ops : List FlashOp} {size : Nat} {s : OtaFlash}

lemma Aggregates.writePiece {data piece : List UInt8} (aggregates : Aggregates ops size s data)
    (some : piece ≠ []) (fits : data.length % otaBufferSize + piece.length ≤ otaBufferSize) :
    (data.length + piece.length < size → (Dfu.writePiece s piece).1 = (.ok, false) ∧
        Aggregates ops size (Dfu.writePiece s piece).2 (data ++ piece)) ∧
      (size ≤ data.length + piece.length → (Dfu.writePiece s piece).1 = (.ok, true) ∧
        Complete ops (Dfu.writePiece s piece).2 (data ++ piece)) := by
  have nonempty : piece.length ≠ 0 := fun empty => some (length_eq_zero_iff.mp empty)
  have next := aggregates.piece (fun i => piece.getD i 0) nonempty fits
  have last := aggregates.last (fun i => piece.getD i 0) nonempty fits
  rw [map_range_getD] at next last
  exact ⟨next, last⟩

lemma Aggregates.pieces {pieces : List (List UInt8)} : ∀ {s : OtaFlash} {data : List UInt8},
    Aggregates ops size s data → (∀ piece ∈ pieces, piece ≠ []) → data.length + pieces.flatten.length = size →
    WithinBlocks data.length pieces →
    (execute Dfu.writePiece s pieces).1 = List.replicate (pieces.length - 1) (.ok, false) ++ [(.ok, true)] ∧
      Complete ops (execute Dfu.writePiece s pieces).2 (data ++ pieces.flatten) ∧
      ∀ k < pieces.length, Aggregates ops size (execute Dfu.writePiece s (pieces.take k)).2 (data ++ (pieces.take k).flatten) := by
  induction pieces with
  | nil =>
    intro s data aggregates _ total _
    exact absurd total (Nat.ne_of_lt aggregates.more)
  | cons piece pieces ih =>
    intro s data aggregates nonempty total within
    obtain ⟨next, last⟩ := aggregates.writePiece (nonempty piece mem_cons_self) within.1
    rw [flatten_cons, length_append] at total
    cases pieces with
    | nil =>
      obtain ⟨answer, complete⟩ := last (by rw [← total]; exact Nat.le_refl _)
      refine ⟨congrArg (· :: []) answer, ?_, ?_⟩
      · rw [flatten_cons, flatten_nil, append_nil]
        exact complete
      · intro k less
        cases Nat.lt_one_iff.mp less
        exact (append_nil data).symm ▸ aggregates
    | cons second pieces =>
      have later : ∀ piece ∈ second :: pieces, piece ≠ [] := fun _ member => nonempty _ (mem_cons_of_mem _ member)
      have some : 0 < (second :: pieces).flatten.length := by
        rw [flatten_cons, length_append]
        exact Nat.add_pos_left (length_pos_iff.mpr (later second mem_cons_self)) _
      obtain ⟨answer, stepped⟩ := next (by omega)
      have length : (data ++ piece).length = data.length + piece.length := length_append
      obtain ⟨answers, complete, states⟩ := ih stepped later (by omega) (length ▸ within.2)
      refine ⟨?_, ?_, ?_⟩
      · exact congr (congrArg List.cons answer) answers
      · rw [flatten_cons, ← append_assoc]
        exact complete
      · intro k less
        cases k with
        | zero => exact (append_nil data).symm ▸ aggregates
        | succ k =>
          rw [take_succ_cons, flatten_cons, ← append_assoc]
          exact states k (Nat.lt_of_succ_lt_succ less)

lemma Aggregates.straddles (aggregates : Aggregates ops size s []) (first second : List UInt8)
    (some : first ≠ []) (more : first.length < size) (fits : first.length < otaBufferSize)
    (large : second.length ≤ otaBufferSize) (beyond : otaBufferSize < first.length + second.length) :
    (execute Dfu.writePiece s [first, second]).1 = [(.ok, false), (.err .eoverflow, false)] := by
  have within : ([] : List UInt8).length % otaBufferSize + first.length ≤ otaBufferSize := by
    rw [length_nil, Nat.zero_mod, Nat.zero_add]
    exact Nat.le_of_lt fits
  obtain ⟨answer, next⟩ := (aggregates.writePiece some within).1 (by rw [length_nil, Nat.zero_add]; exact more)
  rw [nil_append] at next
  have refused := next.refused (fun i => second.getD i 0) large (by rw [Nat.mod_eq_of_lt fits]; exact beyond)
  exact congr (congrArg (fun first second => [first, second]) answer) refused

lemma Aggregates.within {pieces : List (List UInt8)} : ∀ {s : OtaFlash} {data : List UInt8},
    Aggregates ops size s data → (∀ piece ∈ pieces, piece ≠ [] ∧ piece.length ≤ otaBufferSize) →
    data.length + pieces.flatten.length = size →
    (∀ answer ∈ (execute Dfu.writePiece s pieces).1, answer.1 = .ok) → WithinBlocks data.length pieces := by
  induction pieces with
  | nil => exact fun _ _ _ _ => trivial
  | cons piece pieces ih =>
    intro s data aggregates sizes total answers
    have first : (Dfu.writePiece s piece).1.1 = .ok := answers _ mem_cons_self
    have fits : data.length % otaBufferSize + piece.length ≤ otaBufferSize := by
      rw [← Nat.not_lt]
      intro beyond
      have refused := aggregates.refused (fun i => piece.getD i 0) (sizes piece mem_cons_self).2 beyond
      cases (congrArg Prod.fst refused).symm.trans first
    refine ⟨fits, ?_⟩
    cases pieces with
    | nil => trivial
    | cons second pieces =>
      have later : ∀ piece ∈ second :: pieces, piece ≠ [] ∧ piece.length ≤ otaBufferSize :=
        fun _ member => sizes _ (mem_cons_of_mem _ member)
      have some := length_pos_iff.mpr (later second mem_cons_self).1
      rw [flatten_cons, flatten_cons, length_append, length_append] at total
      obtain ⟨-, stepped⟩ := (aggregates.writePiece (sizes piece mem_cons_self).1 fits).1 (by omega)
      have length : (data ++ piece).length = data.length + piece.length := length_append
      rw [← length]
      refine ih stepped later ?_ (fun _ member => answers _ (mem_cons_of_mem _ member))
      rw [flatten_cons, length_append, length_append]
      omega

lemma blockWrites_erased {count : Nat} (inside : count ≤ blockCount size) :
    ∀ op ∈ blockWrites count, op.InErased (sectorErases size) := by
  intro op member
  obtain ⟨i, less, rfl⟩ := mem_map.mp member
  rw [mem_range] at less
  -- four blocks are one sector
  refine ⟨_, i / 4 * flashSectorSize, rfl, mem_map.mpr ⟨i / 4, mem_range.mpr ?_, rfl⟩, ?_⟩
  · simp only [blockCount, otaBufferSize, sectorCount, flashSectorSize] at inside ⊢
    omega
  · simp only [otaBufferSize, flashSectorSize]
    omega

/-- An image that was opened is put together from its pieces exactly if no piece reaches over the end of its block of
1 KB. -/
theorem assembled_iff {s : OtaFlash} {io : FlashIo} (opened : (s.openFile io size).1 = .ok) {pieces : List (List UInt8)}
    (sizes : ∀ piece ∈ pieces, piece ≠ [] ∧ piece.length ≤ otaBufferSize) (total : pieces.flatten.length = size) :
    Assembled s (s.openFile io size).2 size pieces ↔ WithinBlocks 0 pieces := by
  obtain ⟨erases, aggregates⟩ := openFile_ok io opened
  generalize (s.openFile io size).2 = start at erases aggregates ⊢
  have whole : ([] : List UInt8).length + pieces.flatten.length = size := (Nat.zero_add _).trans total
  constructor
  · intro assembled
    refine aggregates.within sizes whole ?_
    rw [assembled.answers]
    intro answer member
    rcases mem_append.mp member with earlier | last
    · rw [eq_of_mem_replicate earlier]
    · rw [mem_singleton.mp last]
  · intro within
    obtain ⟨answers, complete, states⟩ := aggregates.pieces (fun piece member => (sizes piece member).1) whole within
    simp only [nil_append] at complete states
    have content := complete.content
    rw [total] at content
    refine ⟨answers, ?_, ?_, ?_, ?_⟩
    · rw [← Image.take_read _ 0 (le_blockCount size), content, ← total]
      exact take_left
    · intro a above below
      have byte := congrArg (fun bytes => bytes[a]?) content
      simp only [Image.read] at byte
      rw [List.getElem?_map, List.getElem?_range below, List.getElem?_append_right (total ▸ above),
        List.getElem?_replicate_of_lt (by omega)] at byte
      exact (congrArg _ (Nat.zero_add a)).symm.trans (Option.some.inj byte)
    · exact fun k less => (states k less).offset
    · intro k op member
      have erased : start.ops.drop s.ops.length = sectorErases size := by rw [erases, drop_left]
      rw [erased]
      by_cases less : k < pieces.length
      · have part := (pieces.take_prefix k).flatten.length_le
        rw [(states k less).written, drop_left] at member
        refine blockWrites_erased ?_ op member
        refine Nat.div_le_div_right ?_
        omega
      · rw [take_of_length_le (Nat.not_lt.mp less), complete.written, drop_left, total] at member
        exact blockWrites_erased (Nat.le_refl _) op member

def occupiedFlash : OtaFlash := { OtaFlash.init (fun _ => 0xFF) with busy := true }

theorem three_bytes_assembled : Assembled occupiedFlash (occupiedFlash.openFile .good 3).2 3 [[1, 2], [3]] := by
  have opened : (occupiedFlash.openFile .good 3).1 = .ok := rfl
  have sizes : ∀ piece ∈ [[1, 2], [3]], piece ≠ ([] : List UInt8) ∧ piece.length ≤ otaBufferSize := by decide
  exact (assembled_iff opened sizes rfl).mpr ⟨by decide, by decide, trivial⟩

theorem straddling_piece_refused :
    let pieces := [List.replicate 128 1, List.replicate 1024 2]
    (occupiedFlash.openFile .good 1152).1 = .ok ∧ pieces.flatten.length = 1152 ∧
      (execute writePiece (occupiedFlash.openFile .good 1152).2 pieces).1 = [(.ok, false), (.err .eoverflow, false)] ∧
      ¬ Assembled occupiedFlash (occupiedFlash.openFile .good 1152).2 1152 pieces := by
  have opened : (occupiedFlash.openFile .good 1152).1 = .ok := rfl
  obtain ⟨-, aggregates⟩ := openFile_ok .good opened
  have first : (List.replicate 128 (1 : UInt8)).length = 128 := length_replicate
  have second : (List.replicate 1024 (2 : UInt8)).length = 1024 := length_replicate
  have answers := aggregates.straddles (List.replicate 128 1) (List.replicate 1024 2) nofun (by rw [first]; decide)
    (by rw [first]; decide) (by rw [second]; decide) (by rw [first, second]; decide)
  refine ⟨opened, ?_, answers, ?_⟩
  · rw [flatten_cons, flatten_cons, length_append, length_append, first, second]
    rfl
  intro assembled
  cases answers.symm.trans assembled.answers

end

open Polynomial

theorem crc32_chunks_remainder (chunks : List (List UInt8)) :
    crc32Final (chunks.foldl crc32Update crc32Init) = crc32 chunks.flatten ∧
      Crc.ofRegister (crc32 chunks.flatten ^^^ BitVec.allOnes 32) =
        (X ^ (8 * chunks.flatten.length) * Crc.ofRegister (BitVec.allOnes 32) + X ^ 32 * Crc.message chunks.flatten) %ₘ
          Crc.divisor 0xEDB88320#32 := by
  have whole (crc) : chunks.foldl crc32Update crc = crc32Update crc chunks.flatten := by
    induction chunks generalizing crc with
    | nil => rfl
    | cons chunk chunks ih =>
      rw [foldl_cons, ih, flatten_cons]
      exact (Crc.reflected_append ..).symm
  refine ⟨congrArg crc32Final (whole _), ?_⟩
  have inverted : crc32 chunks.flatten ^^^ BitVec.allOnes 32 = crc32Update crc32Init chunks.flatten := by
    rw [crc32, crc32Final, BitVec.xor_allOnes, BitVec.not_not]
  have ones : crc32Init = BitVec.allOnes 32 := by decide
  rw [inverted, crc32Update, ones]
  exact Crc.reflected_remainder _ _ (by decide) _

end LL320D.Dfu
