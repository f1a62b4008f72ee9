import LL320D.Library.Machine
import LL320D.Proofs.YmodemSteps

/-! The receiver stays inside its buffers. The frame buffer and the name are never left, whatever arrives. The
file is complete at the end of a transfer only if the second `EOT` comes no earlier. -/

namespace LL320D.Ymodem
open Library List

variable {len : Int} {data text : List UInt8} {outBufSize : Nat} {sink : Store} {test : UInt8 → Bool}

/-! The text of the size -/

lemma zero_mem_dropWhile (zero : 0 ∈ text) (plain : test 0 = false) : 0 ∈ text.dropWhile test := by
  induction text with
  | nil => exact zero
  | cons byte text ih =>
    rw [dropWhile_cons]
    split
    · next dropped =>
      rcases mem_cons.mp zero with rfl | later
      · exact nomatch dropped.symm.trans plain
      · exact ih later
    · exact zero

lemma strtolRest_ne_nil (zero : 0 ∈ text) : strtolRest text ≠ [] := by
  have left := zero_mem_dropWhile zero (show isSpace 0 = false by decide)
  refine ne_nil_of_mem (a := 0) (zero_mem_dropWhile ?_ (show Decimal.isDigit 0 = false by decide))
  split
  · next signed =>
    cases spaces : text.dropWhile isSpace with
    | nil =>
      rw [spaces] at left
      nomatch left
    | cons first more =>
      rw [spaces] at left signed
      rcases mem_cons.mp left with rfl | later
      · exact absurd signed (by simp)
      · exact later
  · exact left

lemma dropWhile_append_left (stops : text.dropWhile test ≠ [])
    (tail : List UInt8) : (text ++ tail).dropWhile test = text.dropWhile test ++ tail := by
  rw [dropWhile_append, if_neg (by simpa using stops)]

lemma takeWhile_append_left (stops : text.dropWhile test ≠ [])
    (tail : List UInt8) : (text ++ tail).takeWhile test = text.takeWhile test := by
  rw [takeWhile_append, if_neg]
  intro whole
  have parts := congrArg List.length (takeWhile_append_dropWhile (p := test) (l := text))
  rw [length_append] at parts
  exact stops (length_eq_zero_iff.mp (by omega))

lemma strtol_append (stops : strtolRest text ≠ []) (tail : List UInt8) : strtol (text ++ tail) = strtol text := by
  unfold strtolRest at stops
  have spaces : text.dropWhile isSpace ≠ [] := by
    intro none
    rw [none] at stops
    exact stops rfl
  unfold strtol
  dsimp only at stops ⊢
  rw [dropWhile_append_left spaces]
  cases first : text.dropWhile isSpace with
  | nil => exact absurd first spaces
  | cons byte more =>
    rw [first] at stops
    simp only [cons_append, List.head?_cons, tail_cons] at stops ⊢
    by_cases signed : some byte = some 0x2D ∨ some byte = some 0x2B
    · simp only [signed, if_true] at stops ⊢
      rw [takeWhile_append_left stops]
    · simp only [signed, if_false] at stops ⊢
      rw [← cons_append, takeWhile_append_left stops]

lemma infoName_length_le (data) : (infoName data).length ≤ sohSize - 1 :=
  ( takeWhile_prefix _).length_le.trans (length_take_le _ _)

lemma infoName_append (long : sohSize ≤ data.length) (tail : List UInt8) :
    infoName (data ++ tail) = infoName data := by
  unfold infoName
  rw [take_append_of_le_length (Nat.le_trans (Nat.sub_le _ _) long)]

lemma info_append (long : sohSize ≤ data.length) (stops : strtolRest (sizeText data) ≠ [])
    (tail : List UInt8) : infoName (data ++ tail) = infoName data ∧ infoSize (data ++ tail) = infoSize data := by
  have name := infoName_append long tail
  have short := infoName_length_le data
  refine ⟨name, ?_⟩
  unfold infoSize
  have inside : (infoName data).length + 1 ≤ data.length := by
    simp only [sohSize] at short long
    omega
  rw [name, drop_append_of_le_length inside]
  unfold sizeText at stops
  rw [strtol_append stops]

/-! What the saves keep -/

section

variable {outBuf : Option Nat} {t : Turn} {st after : Store}

lemma turnIo_opens {name} {size : Int} {done : Bool}
    (opening : (turnIo outBuf t).saveOpen st name size = (done, after)) :
    after = st.opened ∧ (done = false → outBuf = none ∧ t.opens = false) := by
  cases outBuf with
  | some outBufSize =>
    cases opening
    exact ⟨rfl, nofun⟩
  | none =>
    cases opening
    exact ⟨rfl, fun refused => ⟨rfl, refused⟩⟩

lemma turnIo_closes (outBuf t st) : (turnIo outBuf t).saveClose st = st := by
  cases outBuf <;> rfl

lemma turnIo_saves (saving : (turnIo outBuf t).saveWrite st data len = (true, after)) :
    after.saved = st.saved + len ∧ after.lens = st.lens ++ [len] ∧
      ((outBuf = none ∧ after.copies = st.copies) ∨ ∃ outBufSize, outBuf = some outBufSize ∧
        int32 (int32 st.saved + len) ≤ outBufSize ∧ after.copies = st.copies ++ [(int32 st.saved, len)]) := by
  cases outBuf with
  | some outBufSize =>
    change (if (outBufSize : Int) < int32 (int32 st.saved + len) then _ else _) = _ at saving
    split at saving
    · cases saving
    · next room =>
      cases saving
      exact ⟨rfl, rfl, .inr ⟨outBufSize, rfl, Int.not_lt.mp room, rfl⟩⟩
  | none =>
    change (t.saves, if t.saves then st.kept len else st.refused len) = (true, after) at saving
    obtain ⟨saves, kept⟩ := Prod.mk.inj saving
    rw [if_pos saves] at kept
    subst kept
    exact ⟨rfl, rfl, .inl ⟨rfl, rfl⟩⟩

lemma turnIo_refuses (saving : (turnIo outBuf t).saveWrite st data len = (false, after)) :
    after = st.refused len := by
  cases outBuf with
  | some outBufSize =>
    change (if (outBufSize : Int) < int32 (int32 st.saved + len) then _ else _) = _ at saving
    split at saving
    · cases saving
      rfl
    · cases saving
  | none =>
    change (t.saves, if t.saves then st.kept len else st.refused len) = (false, after) at saving
    obtain ⟨fails, kept⟩ := Prod.mk.inj saving
    rw [fails] at kept
    exact kept.symm

/-- The lengths that were passed to `receiver_save_data`, and the copies into `out_buf`. -/
structure Store.Inside (outBuf : Option Nat) (st : Store) : Prop where
  lens : ∀ len ∈ st.lens, 0 ≤ len ∧ len ≤ stxSize
  copies : ∀ copy ∈ st.copies, ∀ outBufSize : Nat, outBuf = some outBufSize →
    0 ≤ copy.1 ∧ 0 ≤ copy.2 ∧ copy.1 + copy.2 ≤ outBufSize

lemma Store.Inside.refused (inside : st.Inside outBuf) (low : 0 ≤ len) (high : len ≤ stxSize) :
    (st.refused len).Inside outBuf := by
  refine ⟨fun other member => ?_, inside.copies⟩
  rcases mem_append.mp member with before | new
  · exact inside.lens other before
  · rw [mem_singleton.mp new]
    exact ⟨low, high⟩

end

namespace Progress
open Receiver (int32_small)

variable {outBuf : Option Nat} {t : Turn} {p : Progress Store}

def Known {σ : Type*} (p : Progress σ) : Prop := p.isYmodem = true ∧ 0 < p.fileSize

instance {σ : Type*} (p : Progress σ) : Decidable p.Known := inferInstanceAs (Decidable (_ ∧ _))

structure Fit (outBuf : Option Nat) (p : Progress Store) : Prop where
  inside : p.sink.Inside outBuf
  counted : p.Known ∨ outBuf ≠ none → p.written = p.sink.saved ∧ 0 ≤ p.sink.saved
  known : p.Known → p.sink.saved ≤ p.fileSize
  buffer : ∀ outBufSize : Nat, outBuf = some outBufSize → p.sink.saved ≤ outBufSize

structure Blank (outBuf : Option Nat) (p : Progress Store) : Prop where
  inside : p.sink.Inside outBuf
  written : p.written = 0
  saved : p.sink.saved = 0

lemma Blank.fit (blank : Blank outBuf p) : Fit outBuf p := by
  refine ⟨blank.inside, fun _ => ?_, fun known => ?_, fun outBufSize _ => ?_⟩
  · rw [blank.written, blank.saved]
    exact ⟨rfl, Int.le_refl _⟩
  · rw [blank.saved]
    exact Int.le_of_lt known.2
  · rw [blank.saved]
    exact Int.natCast_nonneg _

lemma Fit.stored (fit : Fit outBuf p) (frame) : Fit outBuf { p with frame } := { fit with }

lemma Blank.stored (blank : Blank outBuf p) (frame) : Blank outBuf { p with frame } := { blank with }

/-- `int` has room for one more block behind the file and behind the buffer. -/
structure Roomy (outBuf : Option Nat) (p : Progress Store) : Prop where
  file : p.Known → p.fileSize + stxSize < 2 ^ 31
  buffer : ∀ outBufSize : Nat, outBuf = some outBufSize → (outBufSize : Int) + stxSize < 2 ^ 31

section

variable (fit : Fit outBuf p)
include fit

lemma Fit.saveSize (roomy : Roomy outBuf p) {size : Nat} (small : size ≤ stxSize) :
    0 ≤ p.saveSize size ∧ p.saveSize size ≤ stxSize ∧ (p.Known → p.sink.saved + p.saveSize size ≤ p.fileSize) := by
  unfold Progress.saveSize
  by_cases known : p.Known
  · obtain ⟨written, low⟩ := fit.counted (.inl known)
    have high := fit.known known
    have room := roomy.file known
    simp only [stxSize] at small room ⊢
    rw [written, int32_small (by omega) (by omega), int32_small (by omega) (by omega)]
    split
    · exact ⟨by omega, by omega, fun _ => by omega⟩
    · next part =>
      have whole : ¬ p.fileSize < p.sink.saved + size := fun less => part ⟨known.1, known.2, less⟩
      exact ⟨by omega, by omega, fun _ => by omega⟩
  · rw [if_neg fun cut => known ⟨cut.1, cut.2.1⟩]
    exact ⟨Int.natCast_nonneg _, Int.ofNat_le.mpr small, fun holds => absurd holds known⟩

lemma Fit.buffered (roomy : Roomy outBuf p) (memory : outBuf = some outBufSize) :
    0 ≤ p.sink.saved ∧ p.sink.saved ≤ outBufSize ∧ (outBufSize : Int) + stxSize < 2 ^ 31 := by
  obtain ⟨-, some⟩ := fit.counted (.inr (by rw [memory]; exact nofun))
  exact ⟨some, fit.buffer _ memory, roomy.buffer _ memory⟩

lemma Fit.fits (roomy : Roomy outBuf p)
    (low : 0 ≤ len) (high : len ≤ stxSize) (saving : (turnIo outBuf t).saveWrite p.sink data len = (true, sink))
    (memory : outBuf = some outBufSize) :
    int32 p.sink.saved = p.sink.saved ∧ p.sink.saved + len ≤ outBufSize := by
  obtain ⟨some, most, bound⟩ := fit.buffered roomy memory
  simp only [stxSize] at high bound
  have same : int32 p.sink.saved = p.sink.saved := int32_small (by omega) (by omega)
  refine ⟨same, ?_⟩
  obtain ⟨-, -, ⟨none, -⟩ | ⟨other, memory', fits, -⟩⟩ := turnIo_saves saving
  · exact nomatch memory.symm.trans none
  · cases Option.some.inj (memory.symm.trans memory')
    rwa [same, int32_small (by omega) (by omega)] at fits

lemma Fit.saved (roomy : Roomy outBuf p)
    (low : 0 ≤ len) (high : len ≤ stxSize) (within : p.Known → p.sink.saved + len ≤ p.fileSize)
    (saving : (turnIo outBuf t).saveWrite p.sink data len = (true, sink)) :
    Fit outBuf { p with sink, written := int32 (p.written + len) } := by
  obtain ⟨saved, lens, copies⟩ := turnIo_saves saving
  refine ⟨⟨fun other member => ?_, fun copy member outBufSize memory => ?_⟩, fun tracked => ?_, fun known => ?_,
    fun outBufSize memory => ?_⟩
  · rw [lens] at member
    rcases mem_append.mp member with before | new
    · exact fit.inside.lens other before
    · rw [mem_singleton.mp new]
      exact ⟨low, high⟩
  · obtain ⟨same, fits⟩ := fit.fits roomy low high saving memory
    rcases copies with ⟨none, -⟩ | ⟨-, -, -, copies⟩
    · exact nomatch memory.symm.trans none
    · rw [copies] at member
      rcases mem_append.mp member with before | new
      · exact fit.inside.copies copy before _ memory
      · rw [mem_singleton.mp new, same]
        exact ⟨(fit.buffered roomy memory).1, low, fits⟩
  · obtain ⟨written, some⟩ := fit.counted tracked
    have bound : p.sink.saved + len < 2 ^ 31 := by
      rcases tracked with known | memory
      · have whole := within known
        have file := roomy.file known
        simp only [stxSize] at file
        change p.sink.saved + len ≤ p.fileSize at whole
        change p.fileSize + _ < _ at file
        omega
      · obtain ⟨outBufSize, memory⟩ := Option.ne_none_iff_exists'.mp memory
        have fits := (fit.fits roomy low high saving memory).2
        have bound := (fit.buffered roomy memory).2.2
        simp only [stxSize] at bound
        omega
    change int32 (p.written + len) = sink.saved ∧ 0 ≤ sink.saved
    rw [saved, written, int32_small (by omega) (by omega)]
    exact ⟨rfl, by omega⟩
  · change sink.saved ≤ p.fileSize
    rw [saved]
    exact within known
  · change sink.saved ≤ outBufSize
    rw [saved]
    exact (fit.fits roomy low high saving memory).2

lemma Fit.unsaved (low : 0 ≤ len) (high : len ≤ stxSize)
    (saving : (turnIo outBuf t).saveWrite p.sink data len = (false, sink)) : Fit outBuf { p with sink } := by
  rw [turnIo_refuses saving]
  exact { fit with inside := fit.inside.refused low high }

lemma Fit.completed : Fit outBuf p.completed := by
  unfold Progress.completed
  split
  · exact { fit with }
  · exact fit

lemma Fit.advances (roomy : Roomy outBuf p) (reopens : p.state = .ending → outBuf = none → t.opens = true)
    {after} (advances : Advances (turnIo outBuf t) p after) : Fit outBuf after := by
  cases advances with
  | waits => exact fit
  | firstEot | secondEot => exact { fit with }
  | xmodemEot | ends =>
    rw [turnIo_closes]
    exact { fit with }
  | saved small saving =>
    obtain ⟨low, high, within⟩ := fit.saveSize roomy small
    exact (fit.saved roomy low high within saving).completed
  | unsaved small saving =>
    obtain ⟨low, high, -⟩ := fit.saveSize roomy small
    exact fit.unsaved low high saving
  | nextFile isYmodem state opening =>
    rw [turnIo_closes] at opening
    obtain ⟨rfl, -⟩ := turnIo_opens opening
    have blank : Blank outBuf { p with written := 0, sink := p.sink.opened } := ⟨{ fit.inside with }, rfl, rfl⟩
    exact Blank.fit { blank with }
  | refused isYmodem state opening =>
    obtain ⟨-, fails⟩ := turnIo_opens opening
    obtain ⟨none, closed⟩ := fails rfl
    exact nomatch closed.symm.trans (reopens state none)

end

lemma Blank.opened (blank : Blank outBuf p) : Blank outBuf { p with written := 0, sink := p.sink.opened } :=
  ⟨{ blank.inside with }, rfl, rfl⟩

lemma Blank.waits (blank : Blank outBuf p) {after} (begins : Begins (turnIo outBuf t) p after false) :
    Blank outBuf after := by
  cases begins with
  | waits => exact blank
  | noFile => exact { blank with }
  | refused isYmodem opening =>
    obtain ⟨rfl, -⟩ := turnIo_opens opening
    exact { blank.opened with written := blank.written }
  | unsaved small opening saving =>
    obtain ⟨rfl, -⟩ := turnIo_opens opening
    rw [turnIo_refuses saving]
    exact ⟨blank.opened.inside.refused (Int.natCast_nonneg _) (Int.ofNat_le.mpr small), rfl, rfl⟩

lemma Blank.enters (blank : Blank outBuf p)
    (buffer : ∀ outBufSize : Nat, outBuf = some outBufSize → (outBufSize : Int) + stxSize < 2 ^ 31)
    {after} (begins : Begins (turnIo outBuf t) p after true) : Fit outBuf after := by
  cases begins with
  | file opening =>
    obtain ⟨rfl, -⟩ := turnIo_opens opening
    exact Blank.fit { blank.opened with }
  | @block _ _ fileSize _ _ _ small opening saving =>
    obtain ⟨rfl, -⟩ := turnIo_opens opening
    have fit : Fit outBuf { p with
        state := .filexfer, isYmodem := false, fileSize, written := 0, sink := p.sink.opened } :=
      Blank.fit { blank.opened with }
    refine fit.saved ⟨fun known => ?_, buffer⟩ (Int.natCast_nonneg _) (Int.ofNat_le.mpr small) (fun known => ?_) saving
    · exact nomatch known.1
    · exact nomatch known.1

end Progress

/-! The frame buffer -/

structure Framed (frame : List UInt8) : Prop where
  length : frame.length = frameBufSize
  ends : frame[frameBufSize - 1]? = some 0

namespace Receiver

variable {σ : Type*} {s : Receiver σ}

lemma store_framed (framed : Framed s.frame) {off : Nat} (fits : off + data.length < frameBufSize) :
    Framed (s.store off data).frame := by
  have length := framed.length
  have front : (s.frame.take off ++ data).length = off + data.length := by
    rw [length_append, length_take, Nat.min_eq_left (by omega)]
  refine ⟨?_, ?_⟩
  · change (s.frame.take off ++ data ++ s.frame.drop (off + data.length)).length = _
    rw [length_append, front, length_drop]
    omega
  · change (s.frame.take off ++ data ++ s.frame.drop (off + data.length))[_]? = _
    rw [List.getElem?_append_right (by omega), front, List.getElem?_drop, Nat.add_sub_cancel' (by omega)]
    exact framed.ends

lemma remain_le (s : Receiver σ) : 1 + s.remain < frameBufSize := by
  have size := size_le s.head
  have check : s.crcType.len ≤ 2 := by
    cases s.crcType <;> decide
  simp only [remain, stxSize, frameBufSize] at size ⊢
  omega

lemma frameEnd_le (s : Receiver σ) : s.frameEnd ≤ frameBufSize := by
  unfold frameEnd
  have one : 1 ≤ frameBufSize := by decide
  have rest := Nat.le_of_lt s.remain_le
  split
  · exact one
  · exact one
  · exact one
  · exact rest
  · exact rest
  · exact Nat.zero_le _

lemma received_framed (framed : Framed s.frame) (r) : Framed (s.received r).frame := by
  have one : 0 + (r.data.take 1).length < frameBufSize := by
    rw [length_take, Nat.zero_add]
    exact Nat.lt_of_le_of_lt (Nat.min_le_left _ _) (by decide)
  have rest : 1 + (r.data.take s.remain).length < frameBufSize := by
    rw [length_take]
    exact Nat.lt_of_le_of_lt (Nat.add_le_add_left (Nat.min_le_left _ _) _) s.remain_le
  have quiet : Framed ({ s with acts := [] } : Receiver σ).frame := framed
  unfold received
  split
  · exact store_framed quiet one
  · exact store_framed quiet one
  · exact store_framed quiet one
  · exact store_framed quiet rest
  · exact store_framed quiet rest
  · exact framed

lemma info_inside (framed : Framed s.frame) :
    dataOff + infoEnd s.dataField ≤ frameBufSize ∧ (infoName s.dataField).length < maxPathLen := by
  have short := infoName_length_le s.dataField
  have length : s.dataField.length = frameBufSize - dataOff := by rw [dataField, length_drop, framed.length]
  have inside : (infoName s.dataField).length < maxPathLen := Nat.lt_of_le_of_lt short (by decide)
  refine ⟨?_, inside⟩
  have zero : 0 ∈ sizeText s.dataField := by
    apply mem_of_getElem? (i := frameBufSize - 1 - dataOff - ((infoName s.dataField).length + 1))
    have bound : (infoName s.dataField).length + 1 ≤ frameBufSize - 1 - dataOff :=
      Nat.le_trans (Nat.succ_le_succ short) (by decide)
    rw [sizeText, List.getElem?_drop, Nat.add_sub_cancel' bound, dataField, List.getElem?_drop]
    exact framed.ends
  have some := length_pos_iff.mpr (strtolRest_ne_nil zero)
  unfold infoEnd
  rw [length]
  simp only [frameBufSize, dataOff]
  omega

def InFrame (s : Receiver σ) : Prop := s.Stands (fun p => Framed p.frame) (fun p => Framed p.frame)

lemma InFrame.framed (inFrame : s.InFrame) : Framed s.frame := Stands.either inFrame |>.elim id id

lemma InFrame.step {io : SaveIo σ} (inFrame : s.InFrame) (closes : ∀ sink, io.saveClose sink = sink) (r) :
    (s.step io r).InFrame := by
  have stored := received_framed inFrame.framed r
  refine Stands.step inFrame closes r (fun after _ begins => ?_) (fun after _ begins => ?_) (fun after _ advances => ?_)
  · rw [begins.frame]
    exact stored
  · rw [begins.frame]
    exact stored
  · rw [advances.frame]
    exact stored

lemma fresh_inFrame (crcType) : (fresh crcType).InFrame := by
  refine enterHandshake_stands ⟨length_replicate, ?_⟩ 0
  exact List.getElem?_replicate_of_lt (by decide)

/-! Sessions -/

/-- What the receiver reads and writes of the frame buffer and the name before the next call of `recv_data`. -/
structure FrameSafe (s : Receiver Store) (t : Turn) : Prop where
  length : s.frame.length = frameBufSize
  received : s.frameEnd ≤ frameBufSize
  info : s.takesInfo t.recv → dataOff + infoEnd (s.received t.recv).dataField ≤ frameBufSize ∧
    (infoName (s.received t.recv).dataField).length < maxPathLen

/-- The bounds on what is taken from the peer: name and size are those of the data area; what is saved lies in the frame
and goes into the buffer, and the counter keeps to the buffer and the file. -/
structure Bounded (outBuf : Option Nat) (s : Receiver Store) (t : Turn) : Prop where
  info : s.takesInfo t.recv → ∀ tail, infoName ((s.received t.recv).dataArea ++ tail) = infoName (s.received t.recv).dataField ∧
    infoSize ((s.received t.recv).dataArea ++ tail) = infoSize (s.received t.recv).dataField
  lens : ∀ len ∈ (s.turn outBuf t).sink.lens, 0 ≤ len ∧ dataOff + len ≤ frameBufSize
  copies : ∀ copy ∈ (s.turn outBuf t).sink.copies, ∀ outBufSize : Nat, outBuf = some outBufSize →
    0 ≤ copy.1 ∧ 0 ≤ copy.2 ∧ copy.1 + copy.2 ≤ outBufSize
  buffer : ∀ outBufSize : Nat, outBuf = some outBufSize → (s.turn outBuf t).written ≤ outBufSize
  file : (s.turn outBuf t).progress.Known → (s.turn outBuf t).written ≤ (s.turn outBuf t).fileSize

/-- `int` has room for a block behind the file and the buffer, a further file of a batch can be opened, and the digits of
a size end in the data area. -/
structure Careful (outBuf : Option Nat) (s : Receiver Store) (t : Turn) : Prop where
  roomy : s.progress.Roomy outBuf
  reopens : s.state = .ending → outBuf = none → t.opens = true
  digits : s.takesInfo t.recv → strtolRest (sizeText (s.received t.recv).dataArea) ≠ []

structure Sound (outBuf : Option Nat) (s : Receiver Store) : Prop where
  stands : s.Stands (Progress.Blank outBuf) (Progress.Fit outBuf)
  inFrame : s.InFrame

variable {outBuf : Option Nat} {q : Receiver Store} {t : Turn}

lemma InFrame.safe (inFrame : q.InFrame) (t) : q.FrameSafe t :=
  ⟨inFrame.framed.length, q.frameEnd_le, fun _ => info_inside (received_framed inFrame.framed t.recv)⟩

lemma Stands.turn (stands : q.Stands (Progress.Blank outBuf) (Progress.Fit outBuf)) (roomy : q.progress.Roomy outBuf)
    (reopens : q.state = .ending → outBuf = none → t.opens = true) :
    (q.turn outBuf t).Stands (Progress.Blank outBuf) (Progress.Fit outBuf) := by
  have same := received_progress q t.recv
  refine stands.step (turnIo_closes outBuf t) t.recv (fun after blank begins => ?_) (fun after blank begins => ?_)
    (fun after fit advances => ?_)
  · rw [same] at begins
    exact (blank.stored _).waits begins
  · rw [same] at begins
    exact (blank.stored _).enters roomy.buffer begins
  · rw [same] at advances
    have room : Progress.Roomy outBuf { q.progress with frame := (q.received t.recv).frame } := { roomy with }
    exact (fit.stored _).advances room reopens advances

lemma Sound.turn (sound : q.Sound outBuf) (careful : q.Careful outBuf t) : (q.turn outBuf t).Sound outBuf :=
  ⟨sound.stands.turn careful.roomy careful.reopens, sound.inFrame.step (turnIo_closes outBuf t) t.recv⟩

lemma Sound.fit (sound : q.Sound outBuf) : q.progress.Fit outBuf := sound.stands.either.elim Progress.Blank.fit id

lemma info_area {s : Receiver σ} (framed : Framed s.frame) (stops : strtolRest (sizeText s.dataArea) ≠ [])
    (tail : List UInt8) :
    infoName (s.dataArea ++ tail) = infoName s.dataField ∧ infoSize (s.dataArea ++ tail) = infoSize s.dataField := by
  have whole : s.dataField = s.dataArea ++ s.dataField.drop s.size := (take_append_drop _ _).symm
  have long : sohSize ≤ s.dataArea.length := by
    have length : s.dataField.length = frameBufSize - dataOff := by rw [dataField, length_drop, framed.length]
    rw [dataArea, length_take, length]
    unfold size headSize
    split
    · decide
    · split
      · decide
      · next soh stx =>
        have none : s.dataArea = [] := by
          rw [dataArea, size, headSize, if_neg soh, if_neg stx]
          rfl
        rw [none] at stops
        exact absurd rfl stops
  obtain ⟨name, value⟩ := info_append long stops tail
  obtain ⟨fieldName, fieldValue⟩ := info_append long stops (s.dataField.drop s.size)
  rw [← whole] at fieldName fieldValue
  exact ⟨name.trans fieldName.symm, value.trans fieldValue.symm⟩

lemma Sound.bounded (sound : q.Sound outBuf) (careful : q.Careful outBuf t) : q.Bounded outBuf t := by
  have fit := (sound.turn careful).fit
  refine ⟨fun takes tail => ?_, fun len member => ?_, fit.inside.copies, fun outBufSize memory => ?_, fun known => ?_⟩
  · exact info_area (received_framed sound.inFrame.framed t.recv) (careful.digits takes) tail
  · obtain ⟨low, high⟩ := fit.inside.lens len member
    refine ⟨low, ?_⟩
    simp only [stxSize, dataOff, frameBufSize] at high ⊢
    omega
  · obtain ⟨written, -⟩ := fit.counted (.inr (by rw [memory]; rintro ⟨⟩))
    exact written.trans_le (fit.buffer _ memory)
  · obtain ⟨written, -⟩ := fit.counted (.inl known)
    exact written.trans_le (fit.known known)

lemma fresh_sound (outBuf crcType) : (fresh crcType).Sound outBuf := by
  refine ⟨enterHandshake_stands ?_ 0, fresh_inFrame crcType⟩
  exact ⟨⟨nofun, nofun⟩, rfl, rfl⟩

theorem receiver_bounded (crcType : CrcType) (outBuf : Option Nat) (turns : List Turn) :
    Along (turn outBuf) FrameSafe (fresh crcType) turns ∧ (Along (turn outBuf) (Careful outBuf) (fresh crcType) turns →
        Along (turn outBuf) (Bounded outBuf) (fresh crcType) turns) := by
  refine ⟨?_, fun careful => ?_⟩
  · have always : Along (turn outBuf) (fun _ _ => True) (fresh crcType) turns := along_true _ _
    exact always.imp InFrame (fun q t inFrame _ => inFrame.step (turnIo_closes outBuf t) t.recv)
      (fun q t inFrame _ => inFrame.safe t) (fresh_inFrame crcType)
  · exact careful.imp (Sound outBuf) (fun q t sound careful => sound.turn careful)
      (fun q t sound careful => sound.bounded careful) (fresh_sound outBuf crcType)

def unanswered : List Turn := List.replicate 5 ⟨⟨[], true⟩, true, true⟩

def frameTurns (head seq : UInt8) (data : List UInt8) (opens : Bool) : List Turn :=
  [⟨⟨[head], false⟩, opens, true⟩, ⟨⟨(frameBytes .checksum head seq data).tail, false⟩, opens, true⟩]

def eotTurn : Turn := ⟨⟨[eot], false⟩, true, true⟩

theorem file_information_bounded :
    Along (turn none) (Bounded none) (fresh .checksum) (frameTurns soh 0 (fileInfo [0x61] 5) true) := by
  refine (receiver_bounded .checksum none _).2 ⟨⟨⟨fun known => ?_, nofun⟩, nofun, fun takes => ?_⟩,
    ⟨⟨fun known => ?_, nofun⟩, nofun, fun _ => ?_⟩, trivial⟩
  · exact nomatch known.1
  · exact takes.2.2.2.elim
  · exact nomatch known.1
  · decide +kernel

/-- The second file of a batch cannot be opened. Its information is kept beside the counter of the first file, and the
length of the next block is negative. -/
theorem negative_length_saved :
    let s := (unanswered ++ frameTurns soh 0 (fileInfo [0x61] 200) true ++
      frameTurns soh 1 (List.replicate 128 7) true ++ [eotTurn, eotTurn] ++ frameTurns soh 0 (fileInfo [0x62] 100) false ++
      frameTurns soh 1 (List.replicate 128 7) true).foldl (turn none) (fresh .crc16)
    s.sink.lens = [128, -28] := by
  decide +kernel

end Receiver

namespace Progress

variable {outBuf : Option Nat} {t : Turn} {p : Progress Store}

/-- Behind the second `EOT` all of the file is saved. -/
def Whole (p : Progress Store) : Prop := p.state = .ending ∨ p.state = .ended → p.Known → p.sink.saved = p.fileSize

lemma Whole.stored (whole : p.Whole) (frame : List UInt8) : Whole { p with frame } := whole

lemma Begins.whole {after : Progress Store} (begins : Begins (turnIo outBuf t) p after true) : after.Whole := by
  cases begins with
  | file | block => exact fun ends => nomatch ends

lemma Whole.completed (whole : p.Whole) : p.completed.Whole := by
  unfold Progress.completed
  split
  · exact fun ends => nomatch ends
  · exact whole

lemma Whole.advances (whole : p.Whole) (fit : Fit outBuf p) (roomy : Roomy outBuf p)
    (reopens : p.state = .ending → outBuf = none → t.opens = true) {after : Progress Store}
    (advances : Advances (turnIo outBuf t) p after)
    (last : p.state = .endofxfer → after.state = .ending → p.Known → p.sink.saved = p.fileSize) : after.Whole := by
  cases advances with
  | waits => exact whole
  | firstEot => exact fun ends => nomatch ends
  | secondEot _ state => exact fun _ known => last state rfl known
  | xmodemEot xmodem => exact fun _ known => nomatch xmodem.symm.trans known.1
  | @saved data size sink small saving =>
    apply Whole.completed
    intro ends known
    have before := whole ends known
    obtain ⟨low, -, within⟩ := fit.saveSize roomy small
    have most := within known
    change sink.saved = p.fileSize
    rw [(turnIo_saves saving).1]
    omega
  | unsaved small saving =>
    rw [turnIo_refuses saving]
    exact whole
  | ends _ state =>
    rw [turnIo_closes]
    exact fun _ known => whole (.inl state) known
  | nextFile => exact fun ends => nomatch ends
  | refused isYmodem state opening =>
    obtain ⟨-, fails⟩ := turnIo_opens opening
    obtain ⟨none, closed⟩ := fails rfl
    exact nomatch closed.symm.trans (reopens state none)

end Progress

namespace Receiver
open Progress

variable {outBuf : Option Nat} {q : Receiver Store} {t : Turn} {errors : Nat}

def Completed (s : Receiver Store) : Prop :=
  s.pc = .done .ok → s.isYmodem = true → 0 < s.fileSize → s.sink.saved = s.fileSize

section
variable {σ : Type*} {io : SaveIo σ} {s : Receiver σ} {recv : Recv}

def awaitsFrame (s : Receiver σ) : Bool :=
  match s.pc with
  | .frameHead _ => true
  | _ => false

/-- The receiver waits for the first byte of a frame, and what arrives is `EOT`. -/
def HearsEot (s : Receiver σ) (recv : Recv) : Prop := s.awaitsFrame ∧ recv.failed = false ∧ recv.data.head? = some eot

instance : Decidable (s.HearsEot recv) := inferInstanceAs (Decidable (_ ∧ _))

lemma frameProcessed_state (errors) (result : Ret × Receiver σ) : (frameProcessed io errors result).state = result.2.state := by
  unfold frameProcessed
  split
  · split <;> rfl
  · split
    · rfl
    · split <;> rfl

lemma saveData_state (io) (s : Receiver σ) (len : Int) : (s.saveData io len).2.state = s.state := by
  unfold saveData
  split <;> rfl

lemma takeData_state (state : s.state = .endofxfer) (size : Nat) : (s.takeData io size).2.state = .endofxfer := by
  have kept := saveData_state io s (s.saveSize size)
  unfold takeData
  split
  next saved =>
    rw [saved] at kept
    dsimp only
    split
    · rfl
    · exact kept.trans state
  next unsaved =>
    rw [unsaved] at kept
    exact kept.trans state

lemma processFrame_state (state : s.state = .endofxfer) (size complete) :
    (s.processFrame io size complete).2.state = .endofxfer := by
  unfold processFrame takeFrame
  repeat' split
  next ends => cases state.symm.trans ends.2.1
  · exact takeData_state (s := { s with expectedSeq := s.expectedSeq + 1 }) state size
  all_goals exact state

lemma processFirstFrame_state (state : s.state = .endofxfer) (size complete) :
    (s.processFirstFrame io size complete).2.state ≠ .ending := by
  have opened (s : Receiver σ) : (s.openFirst io size).2.state = .connected := by
    unfold openFirst openFile
    cases io.saveOpen s.sink s.fileName s.fileSize with
    | mk opens sink =>
      cases opens with
      | false => rfl
      | true =>
        dsimp only
        split
        · rfl
        · have kept := saveData_state io { s with state := .connected, sink, written := 0 } size
          split
          next saved => exact (congrArg (·.2.state) saved).symm.trans kept
          next unsaved => exact (congrArg (·.2.state) unsaved).symm.trans kept
  have other : s.state ≠ .ending := by
    rw [state]
    exact State.noConfusion
  unfold processFirstFrame takeFirstFrame
  repeat' split
  · rw [opened]
    exact State.noConfusion
  · exact other
  · rw [opened]
    exact State.noConfusion
  all_goals exact other

/-- Only an `EOT` leads to the end of a session. -/
lemma hearsEot_of_ending (state : s.state = .endofxfer) (ends : (s.step io recv).state = .ending) : s.HearsEot recv := by
  have stays {after : Receiver σ} (ends : after.state = .ending) : after.state ≠ .endofxfer := by
    rw [ends]
    exact State.noConfusion
  have handshake (s : Receiver σ) (i : Nat) : (s.enterHandshake i).state = s.state := by
    unfold enterHandshake
    dsimp only
    split
    · split <;> rfl
    · rfl
  unfold step at ends
  cases pc : s.pc with
  | handshake i | firstHead i retry =>
    simp only [pc] at ends
    split at ends
    · refine absurd ?_ (stays ends)
      rw [handshake]
      exact state
    · exact absurd state (stays ends)
  | firstRest i retry =>
    simp only [pc] at ends
    unfold firstProcessed at ends
    split at ends
    · cases ends
    next ret after _ processed =>
      have other : (ret, after).2.state ≠ .ending := by
        rw [← processed]
        refine processFirstFrame_state ?_ _ _
        exact state
      split at ends <;> exact absurd ends other
  | frameHead errors =>
    simp only [pc] at ends
    split at ends
    · rw [frameProcessed_state] at ends
      exact absurd state (stays ends)
    next heard =>
      obtain ⟨first, rest, data⟩ := exists_cons_of_ne_nil (not_or.mp heard).2
      refine ⟨by rw [awaitsFrame, pc], eq_false_of_ne_true (not_or.mp heard).1, ?_⟩
      unfold enterFrame at ends
      split at ends
      next isEot =>
        rw [data, take_succ_cons, take_zero] at isEot
        rw [data]
        exact congrArg some isEot
      · split at ends
        · exact absurd state (stays ends)
        · rw [frameProcessed_state] at ends
          exact absurd state (stays ends)
  | frameRest errors =>
    simp only [pc, frameProcessed_state] at ends
    refine absurd ?_ (stays ends)
    refine processFrame_state ?_ _ _
    exact state
  | done ret =>
    simp only [pc] at ends
    exact absurd state (stays ends)

end

/-- `int` has room for a block behind the file, a further file of a batch can be opened, and no second `EOT` comes while
fewer bytes are written than the size that is known. -/
structure Attentive (outBuf : Option Nat) (s : Receiver Store) (t : Turn) : Prop where
  roomy : s.progress.Roomy outBuf
  reopens : s.state = .ending → outBuf = none → t.opens = true
  last : s.state = .endofxfer → s.HearsEot t.recv → s.progress.Known → s.fileSize ≤ s.written

def Keeping (outBuf : Option Nat) (s : Receiver Store) : Prop := s.Stands (Blank outBuf) fun p => p.Fit outBuf ∧ p.Whole

lemma Keeping.turn (keeping : q.Keeping outBuf) (attentive : q.Attentive outBuf t) :
    (q.turn outBuf t).Keeping outBuf := by
  have same := received_progress q t.recv
  have room : Roomy outBuf { q.progress with frame := (q.received t.recv).frame } := { attentive.roomy with }
  have stands : (q.turn outBuf t).Stands (Blank outBuf) fun after => after.Fit outBuf ∧
      ((q.state = .endofxfer → after.state = .ending → q.progress.Known → q.sink.saved = q.fileSize) → after.Whole) := by
    refine Stands.step keeping (turnIo_closes outBuf t) t.recv (fun after blank begins => ?_)
      (fun after blank begins => ?_) (fun after ⟨fit, whole⟩ advances => ?_)
    · rw [same] at begins
      exact (blank.stored _).waits begins
    · rw [same] at begins
      exact ⟨(blank.stored _).enters attentive.roomy.buffer begins, fun _ => begins.whole⟩
    · rw [same] at advances
      exact ⟨(fit.stored _).advances room attentive.reopens advances,
        (whole.stored _).advances (fit.stored _) room attentive.reopens advances⟩
  refine stands.imp id fun ⟨fit, whole⟩ => ⟨fit, whole fun state ends known => ?_⟩
  have fit := (keeping.imp Blank.fit fun ⟨fit, _⟩ => fit).either.elim id id
  have full := attentive.last state (hearsEot_of_ending state ends) known
  have counted := (fit.counted (.inl known)).1
  have most := fit.known known
  change q.written = q.sink.saved at counted
  change q.sink.saved ≤ q.fileSize at most
  omega

lemma Keeping.completed (keeping : q.Keeping outBuf) : q.Completed := by
  intro ended isYmodem positive
  unfold Keeping Stands at keeping
  rw [ended] at keeping
  obtain ⟨⟨-, whole⟩, state⟩ := keeping.2 rfl
  exact whole (.inr state) ⟨isYmodem, positive⟩

/-! A second `EOT` that comes too early -/

/-- An empty frame behind the second `EOT`. -/
def endTurns (crcType : CrcType) : List Turn :=
  [⟨⟨[soh], false⟩, true, true⟩, ⟨⟨(frameBytes crcType soh 0 (List.replicate sohSize 0)).tail, false⟩, true, true⟩]

lemma empty_frame {s : Receiver Store} {tail : List UInt8}
    (frame : s.frame = frameBytes s.crcType soh 0 (List.replicate sohSize 0) ++ tail) : s.dataField.getD 0 0 = 0 := by
  rw [dataField_frame frame]
  rfl

lemma ends_empty (pc : q.pc = .frameHead errors) (isYmodem : q.isYmodem = true) (state : q.state = .ending)
    (outBuf : Option Nat) :
    let s := (endTurns q.crcType).foldl (turn outBuf) q
    s.pc = .done .ok ∧ s.isYmodem = true ∧ s.fileSize = q.fileSize ∧ s.sink = q.sink := by
  have closes := turnIo_closes outBuf ⟨⟨(frameBytes q.crcType soh 0 (List.replicate sohSize 0)).tail, false⟩, true, true⟩
  have size : headSize soh = some (List.replicate sohSize (0 : UInt8)).length := by rw [length_replicate]; rfl
  obtain ⟨tail, step⟩ := step_behindHead (turnIo outBuf
    ⟨⟨(frameBytes q.crcType soh 0 (List.replicate sohSize 0)).tail, false⟩, true, true⟩) q errors 0 size
  simp only [endTurns, foldl_cons, foldl_nil, turn]
  rw [step_frameHead _ pc rfl, step]
  generalize turnIo outBuf _ = io at closes ⊢
  unfold takeFrame
  rw [if_pos ⟨isYmodem, state, rfl⟩, takeEndFrame, if_pos (empty_frame rfl)]
  refine ⟨rfl, isYmodem, rfl, ?_⟩
  exact (closes _).trans (closes _)

lemma ends_early (pc : q.pc = .frameHead errors) (isYmodem : q.isYmodem = true)
    (state : q.state = .endofxfer) (outBuf : Option Nat) :
    let s := (eotTurn :: endTurns q.crcType).foldl (turn outBuf) q
    s.pc = .done .ok ∧ s.isYmodem = true ∧ s.fileSize = q.fileSize ∧ s.sink = q.sink := by
  have second : (q.loaded [eot]).processEot (turnIo outBuf eotTurn) =
      (.ok, ({ q.loaded [eot] with state := .ending }.sendByte ack).sendRequest) := by
    have here : (q.loaded [eot]).isYmodem = true := isYmodem
    have there : (q.loaded [eot]).state = .endofxfer := state
    simp only [processEot, if_pos here, there]
  have step : q.turn outBuf eotTurn =
      { ({ q.loaded [eot] with state := .ending }.sendByte ack).sendRequest with pc := .frameHead 0 } := by
    have taken := step_eot (turnIo outBuf eotTurn) pc
    rw [second, frameProcessed_ok _ _ fun ended => State.noConfusion ended] at taken
    exact taken
  simp only [foldl_cons]
  rw [step]
  exact ends_empty (q := { ({ q.loaded [eot] with state := .ending }.sendByte ack).sendRequest with pc := .frameHead 0 })
    rfl isYmodem rfl outBuf

/-- After every session that ends well, all of the file is saved, if each step was taken with care: with bytes missing a
second `EOT` ends the session without them. -/
theorem completed_if_attentive (crcType : CrcType) (outBuf : Option Nat) (turns : List Turn) :
    let s := turns.foldl (turn outBuf) (fresh crcType)
    (Along (turn outBuf) (Attentive outBuf) (fresh crcType) turns → s.Completed) ∧
    (∀ errors, s.pc = .frameHead errors → s.state = .endofxfer → s.progress.Known → s.sink.saved ≠ s.fileSize →
      ∃ more, ¬ ((turns ++ more).foldl (turn outBuf) (fresh crcType)).Completed) := by
  refine ⟨fun attentive => ?_, fun errors pc state known missing => ?_⟩
  · have start : (fresh crcType).Keeping outBuf := enterHandshake_stands ⟨⟨nofun, nofun⟩, rfl, rfl⟩ 0
    exact (attentive.invariant (Keeping outBuf) (fun q t keeping careful => keeping.turn careful) start).completed
  · obtain ⟨ended, isYmodem, fileSize, sink⟩ := ends_early pc known.1 state outBuf
    refine ⟨eotTurn :: endTurns (turns.foldl (turn outBuf) (fresh crcType)).crcType, fun completed => ?_⟩
    rw [foldl_append] at completed
    have saved := completed ended isYmodem (by rw [fileSize]; exact known.2)
    rw [fileSize, sink] at saved
    exact missing saved

theorem five_bytes_completed :
    ((frameTurns soh 0 (fileInfo [0x61] 5) true ++ frameTurns soh 1 (List.replicate 128 7) true ++ [eotTurn] ++
      frameTurns soh 0 (List.replicate 128 0) true).foldl (turn none) (fresh .checksum)).Completed := by
  refine (completed_if_attentive .checksum none _).1 ⟨⟨⟨?_, nofun⟩, fun _ _ => rfl, ?_⟩,
    ⟨⟨?_, nofun⟩, fun _ _ => rfl, ?_⟩, ⟨⟨?_, nofun⟩, fun _ _ => rfl, ?_⟩, ⟨⟨?_, nofun⟩, fun _ _ => rfl, ?_⟩,
    ⟨⟨?_, nofun⟩, fun _ _ => rfl, ?_⟩, ⟨⟨?_, nofun⟩, fun _ _ => rfl, ?_⟩, ⟨⟨?_, nofun⟩, fun _ _ => rfl, ?_⟩, trivial⟩
  all_goals decide +kernel

theorem five_bytes_missing :
    let s := (unanswered ++ frameTurns soh 0 (fileInfo [0x61] 5) true ++ [eotTurn, eotTurn] ++
      frameTurns soh 0 (List.replicate 128 0) true).foldl (turn none) (fresh .crc16)
    s.pc = .done .ok ∧ s.isYmodem = true ∧ s.fileSize = 5 ∧ s.sink.saved = 0 := by
  decide +kernel

end Receiver

end LL320D.Ymodem
