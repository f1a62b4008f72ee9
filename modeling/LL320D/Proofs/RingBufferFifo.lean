import LL320D.Library.Ring
import LL320D.RingBuffer

/-! The ring buffer is a bounded queue of bytes: call by call, and with a writer and a reader interleaved access by
access. -/

namespace LL320D.Uart
open Library List

/-- The buffer holds the queue: its bytes lie in order from `tail` on, one cell stays free, and no access
was out of bounds. -/
structure RingBuffer.Holds (rb : RingBuffer) (size : Nat) (queue : List UInt8) : Prop where
  sized : rb.size = size
  small : size < 2 ^ 31
  tail : rb.tail < size
  room : queue.length < size
  head : rb.head = (rb.tail + queue.length) % size
  bytes : window rb.buf size rb.tail queue.length = queue
  inside : ∀ i ∈ rb.accesses, i < size

lemma RingBuffer.store_head (rb : RingBuffer) (byte) : (rb.store byte).buf (rb.store byte).head = byte := by
  unfold store
  exact Function.update_self _ _ _

namespace RingBuffer.Holds

variable {rb : RingBuffer} {size : Nat} {queue : List UInt8} (holds : rb.Holds size queue)
include holds

lemma positive : 0 < size := Nat.lt_of_le_of_lt (Nat.zero_le _) holds.tail

lemma head_lt : rb.head < size := by
  rw [holds.head]
  exact Nat.mod_lt _ holds.positive

lemma next_eq {index : Nat} (inside : index < size) : u32 (index + 1) % rb.size = (index + 1) % size := by
  have small := holds.small
  have word : u32 (index + 1) = index + 1 := Nat.mod_eq_of_lt (by omega)
  rw [word, holds.sized]

lemma nextHead_eq : rb.nextHead = (rb.tail + (queue.length + 1)) % size := by
  rw [nextHead, holds.next_eq holds.head_lt, holds.head, Nat.mod_add_mod, Nat.add_assoc]

lemma nextTail_eq : rb.nextTail = (rb.tail + 1) % size := holds.next_eq holds.tail

lemma full_iff : rb.nextHead = rb.tail ↔ queue.length + 1 = size := by
  rw [holds.nextHead_eq]
  rcases Nat.lt_or_ge (queue.length + 1) size with fits | full
  · rw [ring_end_eq_start holds.tail fits]
    omega
  · have all : queue.length + 1 = size := Nat.le_antisymm holds.room full
    rw [all, Nat.add_mod_right, Nat.mod_eq_of_lt holds.tail]
    exact iff_of_true rfl rfl

lemma empty_iff : rb.head = rb.tail ↔ queue = [] := by
  rw [holds.head, ring_end_eq_start holds.tail holds.room, length_eq_zero_iff]

lemma usedSize_eq : rb.myRbGetUsedSize = queue.length := by
  have small := holds.small
  have head := holds.head_lt
  have tail := holds.tail
  have wide : u32 (u32 (rb.head + 2 ^ 32 - rb.tail) + rb.size) = rb.head + size - rb.tail := by
    rw [holds.sized]
    unfold u32
    omega
  rw [myRbGetUsedSize, wide, holds.sized, holds.head]
  exact ring_distance holds.tail holds.room

lemma freeSize_eq : rb.myRbGetFreeSize = size - 1 - queue.length := by
  have small := holds.small
  have room := holds.room
  rw [myRbGetFreeSize, holds.usedSize_eq, holds.sized, u32]
  omega

lemma clear : rb.myRbClear.Holds size [] :=
  ⟨holds.sized, holds.small, holds.positive, holds.positive, (Nat.zero_mod size).symm, rfl, holds.inside⟩

lemma store (byte) : (rb.store byte).Holds size queue := by
  refine ⟨holds.sized, holds.small, holds.tail, holds.room, holds.head, ?_, ?_⟩
  · have kept : window (Function.update rb.buf ((rb.tail + queue.length) % size) byte) size rb.tail queue.length = _ :=
      window_update_free rb.buf holds.room byte
    rw [← holds.head] at kept
    exact kept.trans holds.bytes
  · intro i member
    rcases mem_append.mp member with before | now
    · exact holds.inside i before
    · rw [mem_singleton.mp now]
      exact holds.head_lt

lemma load : rb.load.2.Holds size queue := by
  refine ⟨holds.sized, holds.small, holds.tail, holds.room, holds.head, holds.bytes, ?_⟩
  intro i member
  rcases mem_append.mp member with before | now
  · exact holds.inside i before
  · rw [mem_singleton.mp now]
    exact holds.tail

lemma load_head (some : queue ≠ []) : queue.head? = .some rb.load.1 := by
  have positive := length_pos_iff.mpr some
  have first := window_getElem? rb.buf size rb.tail queue.length 0 positive
  rw [holds.bytes, Nat.add_zero, Nat.mod_eq_of_lt holds.tail] at first
  rw [List.head?_eq_getElem?]
  exact first

lemma advanceHead {byte : UInt8} (stored : rb.buf rb.head = byte) (room : queue.length + 1 < size) :
    ({ rb with head := rb.nextHead } : RingBuffer).Holds size (queue ++ [byte]) := by
  have length : (queue ++ [byte]).length = queue.length + 1 := by
    rw [length_append]
    rfl
  refine ⟨holds.sized, holds.small, holds.tail, length ▸ room, ?_, ?_, holds.inside⟩
  · rw [length]
    exact holds.nextHead_eq
  · rw [length]
    show window rb.buf size rb.tail (queue.length + 1) = queue ++ [byte]
    rw [window_succ, holds.bytes, ← holds.head, stored]

lemma advanceTail (some : queue ≠ []) : ({ rb with tail := rb.nextTail } : RingBuffer).Holds size (queue.drop 1) := by
  have positive := length_pos_iff.mpr some
  have room := holds.room
  have bytes := window_drop rb.buf size rb.tail queue.length 1
  rw [holds.bytes] at bytes
  refine ⟨holds.sized, holds.small, ?_, ?_, ?_, ?_, holds.inside⟩
  · show rb.nextTail < size
    rw [holds.nextTail_eq]
    exact Nat.mod_lt _ holds.positive
  · rw [length_drop]
    omega
  · show rb.head = (rb.nextTail + (queue.drop 1).length) % size
    rw [holds.nextTail_eq, length_drop, Nat.mod_add_mod, holds.head]
    congr 1
    omega
  · show window rb.buf size rb.nextTail (queue.drop 1).length = queue.drop 1
    rw [holds.nextTail_eq, length_drop, bytes]

end RingBuffer.Holds

lemma RingBuffer.myRbInit_holds {buf : Nat → UInt8} {size : Nat} {rb : RingBuffer} (small : size < 2 ^ 31)
    (init : myRbInit buf size = some rb) : rb.Holds size [] := by
  unfold myRbInit at init
  split at init
  · cases init
  next least =>
    cases init
    have positive : 0 < size := by omega
    exact ⟨rfl, small, positive, positive, (Nat.zero_mod size).symm, rfl, fun _ member => nomatch member⟩

namespace RingBuffer.Holds

variable {size : Nat} {queue : List UInt8} {rb : RingBuffer}

lemma write (data : List UInt8) : ∀ {rb : RingBuffer} {queue : List UInt8}, rb.Holds size queue →
    (rb.myRbWrite data).1 = min data.length (size - 1 - queue.length) ∧
      (rb.myRbWrite data).2.Holds size (queue ++ data.take (rb.myRbWrite data).1) := by
  induction data with
  | nil =>
    intro rb queue holds
    refine ⟨(Nat.zero_min _).symm, ?_⟩
    rw [take_nil, append_nil]
    exact holds
  | cons byte rest ih =>
    intro rb queue holds
    have room := holds.room
    unfold myRbWrite
    by_cases full : rb.nextHead = rb.tail
    · have all := holds.full_iff.mp full
      rw [if_pos full, take_zero, append_nil]
      refine ⟨?_, holds⟩
      rw [show size - 1 - queue.length = 0 by omega, Nat.min_zero]
    · have free : queue.length + 1 < size := by
        have other := mt holds.full_iff.mpr full
        omega
      have appended := (holds.store byte).advanceHead (rb.store_head byte) free
      obtain ⟨count, after⟩ := ih appended
      rw [if_neg full]
      refine ⟨?_, ?_⟩
      · refine (congrArg (· + 1) count).trans ?_
        rw [length_append, length_singleton, length_cons]
        omega
      · rw [append_assoc] at after
        exact after

lemma read (len : Nat) : ∀ {rb : RingBuffer} {queue : List UInt8}, rb.Holds size queue →
    (rb.myRbRead len).1 = queue.take len ∧ (rb.myRbRead len).2.Holds size (queue.drop len) := by
  induction len with
  | zero =>
    intro rb queue holds
    exact ⟨rfl, holds⟩
  | succ len ih =>
    intro rb queue holds
    unfold myRbRead
    by_cases empty : rb.head = rb.tail
    · have none := holds.empty_iff.mp empty
      rw [if_pos empty]
      subst none
      exact ⟨rfl, holds⟩
    · have some := mt holds.empty_iff.mpr empty
      obtain ⟨oldest, rest, rfl⟩ := exists_cons_of_ne_nil some
      have first := Option.some.inj (holds.load_head some)
      obtain ⟨bytes, after⟩ := ih (holds.load.advanceTail some)
      rw [if_neg empty, first]
      exact ⟨congrArg (rb.load.1 :: ·) bytes, after⟩

lemma call (holds : rb.Holds size queue) (call) : (rb.call call).1 = (queueCall (size - 1) queue call).1 ∧
      (rb.call call).2.Holds size (queueCall (size - 1) queue call).2 := by
  cases call with
  | write data =>
    obtain ⟨count, after⟩ := holds.write data.val
    rw [count] at after
    exact ⟨congrArg Answer.written count, after⟩
  | read len =>
    obtain ⟨bytes, after⟩ := holds.read len.val
    exact ⟨congrArg Answer.bytes bytes, after⟩
  | clear => exact ⟨rfl, holds.clear⟩

lemma calls (holds : rb.Holds size queue) (calls) :
    (execute RingBuffer.call rb calls).1 = (execute (queueCall (size - 1)) queue calls).1 ∧
      (execute RingBuffer.call rb calls).2.Holds size (execute (queueCall (size - 1)) queue calls).2 := by
  refine execute_refines (fun (rb : RingBuffer) queue => rb.Holds size queue) ?_ holds calls
  intro rb queue next held
  exact held.call next

end RingBuffer.Holds

/-- What a call did: a write appended the first bytes of its data and ended early only because the queue was full; a
read returned the bytes it removed, and ended early only because the queue was empty. -/
def Return.Right (size : Nat) : Return → Prop
  | .write data written appended held =>
    data.length < 2 ^ 31 ∧ written ≤ data.length ∧ appended = data.take written ∧
      (written < data.length → held = size - 1)
  | .read len data removed held =>
    len < 2 ^ 31 ∧ data.length ≤ len ∧ data = removed ∧ (data.length < len → held = 0)

namespace Shared

def WriterOk (size : Nat) (s : Shared) : Prop :=
  match s.writer with
  | .idle => True
  | .check data written => data.length < 2 ^ 31 ∧ written ≤ data.length ∧ s.appended = data.take written
  | .store data written nextHead =>
    data.length < 2 ^ 31 ∧ written < data.length ∧ s.appended = data.take written ∧ s.queue.length + 1 < size ∧
      nextHead = s.rb.nextHead
  | .advance data written nextHead =>
    data.length < 2 ^ 31 ∧ written < data.length ∧ s.appended = data.take written ∧ s.queue.length + 1 < size ∧
      nextHead = s.rb.nextHead ∧ s.rb.buf s.rb.head = data.getD written 0

def ReaderOk (s : Shared) : Prop :=
  match s.reader with
  | .idle => True
  | .check len data => len < 2 ^ 31 ∧ data.length ≤ len ∧ s.removed = data
  | .load len data => len < 2 ^ 31 ∧ data.length < len ∧ s.removed = data ∧ s.queue ≠ []
  | .advance len data nextTail =>
    len < 2 ^ 31 ∧ data.length ≤ len ∧ s.removed ++ s.queue.take 1 = data ∧ s.queue ≠ [] ∧ nextTail = s.rb.nextTail

structure Inv (size : Nat) (s : Shared) : Prop where
  holds : s.rb.Holds size s.queue
  writer : s.WriterOk size
  reader : s.ReaderOk
  returned : ∀ call ∈ s.returned, call.Right size

section

variable {size : Nat} {s after : Shared}

lemma WriterOk.frame (ok : s.WriterOk size) (writer : after.writer = s.writer) (appended : after.appended = s.appended)
    (head : after.rb.head = s.rb.head) (bytes : after.rb.buf = s.rb.buf) (next : after.rb.nextHead = s.rb.nextHead)
    (shorter : after.queue.length ≤ s.queue.length) : after.WriterOk size := by
  unfold WriterOk at ok ⊢
  rw [writer, appended, head, bytes, next]
  cases pc : s.writer with
  | idle => trivial
  | check data written =>
    rw [pc] at ok
    exact ok
  | store | advance =>
    rw [pc] at ok
    obtain ⟨small, more, put, room, same⟩ := ok
    exact ⟨small, more, put, by omega, same⟩

lemma ReaderOk.frame (ok : s.ReaderOk) (reader : after.reader = s.reader) (removed : after.removed = s.removed)
    (next : after.rb.nextTail = s.rb.nextTail) {more : List UInt8} (longer : after.queue = s.queue ++ more) :
    after.ReaderOk := by
  unfold ReaderOk at ok ⊢
  rw [reader, removed, next, longer]
  cases pc : s.reader with
  | idle => trivial
  | check len data =>
    rw [pc] at ok
    exact ok
  | load len data =>
    rw [pc] at ok
    obtain ⟨small, left, got, some⟩ := ok
    exact ⟨small, left, got, append_ne_nil_of_left_ne_nil some more⟩
  | advance len data nextTail =>
    rw [pc] at ok
    obtain ⟨small, left, got, some, same⟩ := ok
    refine ⟨small, left, ?_, append_ne_nil_of_left_ne_nil some more, same⟩
    rw [take_append_of_le_length (length_pos_iff.mpr some)]
    exact got

end

variable {size : Nat} {s : Shared} (inv : s.Inv size)
include inv

lemma Inv.stepWriter : s.stepWriter.Inv size := by
  obtain ⟨holds, writer, reader, returned⟩ := inv
  have ok := writer
  unfold WriterOk at ok
  unfold Shared.stepWriter
  cases pc : s.writer with
  | idle => exact ⟨holds, writer, reader, returned⟩
  | check data written =>
    rw [pc] at ok
    obtain ⟨small, most, put⟩ := ok
    have room := holds.room
    have full := holds.full_iff
    dsimp only
    split
    next more =>
      have free : s.queue.length + 1 < size := by
        have other := mt full.mpr more.2
        omega
      exact ⟨holds, ⟨small, more.1, put, free, rfl⟩, reader.frame rfl rfl rfl (append_nil _).symm, returned⟩
    next ends =>
      refine ⟨holds, trivial, reader.frame rfl rfl rfl (append_nil _).symm, ?_⟩
      intro call member
      rcases mem_append.mp member with before | now
      · exact returned call before
      · cases mem_singleton.mp now
        refine ⟨small, most, put, fun early => ?_⟩
        have meets : s.rb.nextHead = s.rb.tail := by
          by_contra other
          exact ends ⟨early, other⟩
        have all := full.mp meets
        omega
  | store data written nextHead =>
    rw [pc] at ok
    obtain ⟨small, more, put, free, same⟩ := ok
    exact ⟨holds.store _, ⟨small, more, put, free, same, s.rb.store_head _⟩,
      reader.frame rfl rfl rfl (append_nil _).symm, returned⟩
  | advance data written nextHead =>
    rw [pc] at ok
    obtain ⟨small, more, put, free, same, stored⟩ := ok
    subst same
    refine ⟨holds.advanceHead stored free, ⟨small, more, ?_⟩, reader.frame rfl rfl rfl rfl, returned⟩
    show s.appended ++ [data.getD written 0] = data.take (written + 1)
    rw [put, getD_eq_getElem?_getD, List.getElem?_eq_getElem more, Option.getD_some, take_append_getElem]

lemma Inv.stepReader : s.stepReader.Inv size := by
  obtain ⟨holds, writer, reader, returned⟩ := inv
  have ok := reader
  unfold ReaderOk at ok
  unfold Shared.stepReader
  cases pc : s.reader with
  | idle => exact ⟨holds, writer, reader, returned⟩
  | check len data =>
    rw [pc] at ok
    obtain ⟨small, most, got⟩ := ok
    have empty := holds.empty_iff
    dsimp only
    split
    next more =>
      have some := mt empty.mpr more.2
      exact ⟨holds, writer.frame rfl rfl rfl rfl rfl (Nat.le_refl _), ⟨small, more.1, got, some⟩, returned⟩
    next ends =>
      refine ⟨holds, writer.frame rfl rfl rfl rfl rfl (Nat.le_refl _), trivial, ?_⟩
      intro call member
      rcases mem_append.mp member with before | now
      · exact returned call before
      · cases mem_singleton.mp now
        refine ⟨small, most, got.symm, fun early => ?_⟩
        have meets : s.rb.head = s.rb.tail := by
          by_contra other
          exact ends ⟨early, other⟩
        exact length_eq_zero_iff.mpr (empty.mp meets)
  | load len data =>
    rw [pc] at ok
    obtain ⟨small, left, got, some⟩ := ok
    refine ⟨holds.load, writer.frame rfl rfl rfl rfl rfl (Nat.le_refl _), ⟨small, ?_, ?_, some, rfl⟩, returned⟩
    · rw [length_append]
      exact left
    · have oldest := holds.load_head some
      obtain ⟨first, rest, queue⟩ := exists_cons_of_ne_nil some
      show s.removed ++ s.queue.take 1 = data ++ [s.rb.load.1]
      rw [got]
      rw [queue] at oldest ⊢
      cases oldest
      rfl
  | advance len data nextTail =>
    rw [pc] at ok
    obtain ⟨small, left, got, some, same⟩ := ok
    subst same
    refine ⟨holds.advanceTail some, writer.frame rfl rfl rfl rfl rfl ?_, ⟨small, left, got⟩, returned⟩
    show (s.queue.drop 1).length ≤ s.queue.length
    rw [length_drop]
    exact Nat.sub_le _ _

lemma Inv.step (event) : (s.step event).Inv size := by
  obtain ⟨holds, writer, reader, returned⟩ := inv
  cases event with
  | write data =>
    rw [Shared.step]
    by_cases idle : s.writer = .idle
    · rw [if_pos idle]
      exact ⟨holds, ⟨data.property, Nat.zero_le _, rfl⟩, reader.frame rfl rfl rfl (append_nil _).symm, returned⟩
    · rw [if_neg idle]
      exact ⟨holds, writer, reader, returned⟩
  | read len =>
    rw [Shared.step]
    by_cases idle : s.reader = .idle
    · rw [if_pos idle]
      exact ⟨holds, writer.frame rfl rfl rfl rfl rfl (Nat.le_refl _), ⟨len.isLt, Nat.zero_le _, rfl⟩, returned⟩
    · rw [if_neg idle]
      exact ⟨holds, writer, reader, returned⟩
  | clear =>
    rw [Shared.step]
    by_cases idle : s.writer = .idle ∧ s.reader = .idle
    · rw [if_pos idle]
      refine ⟨holds.clear, ?_, ?_, returned⟩
      · unfold WriterOk
        rw [idle.1]
        trivial
      · unfold ReaderOk
        rw [idle.2]
        trivial
    · rw [if_neg idle]
      exact ⟨holds, writer, reader, returned⟩
  | writer => exact Inv.stepWriter ⟨holds, writer, reader, returned⟩
  | reader => exact Inv.stepReader ⟨holds, writer, reader, returned⟩

lemma Inv.run (events : List Event) : (events.foldl Shared.step s).Inv size := by
  induction events generalizing s with
  | nil => exact inv
  | cons event events ih => exact ih (inv.step event)

end Shared

structure RingBuffer.Fifo (rb : RingBuffer) (size : Nat) (queue : List UInt8) : Prop where
  head : rb.head < size
  tail : rb.tail < size
  accesses : ∀ i ∈ rb.accesses, i < size
  used : rb.myRbGetUsedSize = queue.length
  total : rb.myRbGetUsedSize + rb.myRbGetFreeSize = size - 1

lemma RingBuffer.Holds.fifo {rb : RingBuffer} {size : Nat} {queue : List UInt8} (holds : rb.Holds size queue) :
    rb.Fifo size queue := by
  refine ⟨holds.head_lt, holds.tail, holds.inside, holds.usedSize_eq, ?_⟩
  have room := holds.room
  rw [holds.usedSize_eq, holds.freeSize_eq]
  omega

/-- For every size and memory: any sequence of calls answers as the bounded queue does, and so do a writer and a
reader in any interleaving of their accesses. -/
theorem ring_buffer_fifo (buf : Nat → UInt8) (size : Nat) (least : 2 ≤ size) (small : size < 2 ^ 31) :
    ∃ rb, RingBuffer.myRbInit buf size = some rb ∧
      (∀ calls, (execute RingBuffer.call rb calls).1 = (execute (queueCall (size - 1)) [] calls).1 ∧
        (execute RingBuffer.call rb calls).2.Fifo size (execute (queueCall (size - 1)) [] calls).2) ∧
      ∀ events, (interleave rb events).rb.Fifo size (interleave rb events).queue ∧
        ∀ call ∈ (interleave rb events).returned, call.Right size := by
  have init : RingBuffer.myRbInit buf size = some { head := 0, tail := 0, buf, size, accesses := [] } :=
    if_neg (Nat.not_lt.mpr least)
  have holds := RingBuffer.myRbInit_holds small init
  refine ⟨_, init, fun calls => ?_, fun events => ?_⟩
  · obtain ⟨answers, after⟩ := holds.calls calls
    exact ⟨answers, after.fifo⟩
  · have start : (Shared.start { head := 0, tail := 0, buf, size, accesses := [] }).Inv size :=
      ⟨holds, trivial, trivial, fun _ member => nomatch member⟩
    have inv := start.run events
    exact ⟨inv.holds.fifo, inv.returned⟩

theorem small_buffer_fifo : ∃ rb, RingBuffer.myRbInit (fun _ => 0) 4 = some rb ∧
    (execute RingBuffer.call rb [.write ⟨[1, 2, 3, 4, 5], by decide⟩, .read 8]).1 = [.written 3, .bytes [1, 2, 3]] := by
  obtain ⟨rb, init, calls, -⟩ := ring_buffer_fifo (fun _ => 0) 4 (by decide) (by decide)
  exact ⟨rb, init, (calls _).1⟩

end LL320D.Uart
