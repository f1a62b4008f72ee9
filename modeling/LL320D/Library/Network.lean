import Mathlib

/-! Two processes joined by a channel in either direction. Each waits for a number of items and then makes a step: if
one schedule brings both to their end, then so does every other, in as many moves and with the same result. -/

namespace LL320D.Library
open List

variable {π ρ β : Type*} {k : Nat}

/-- A process: how many items it waits for, if it has not ended, and its step: the next state, the items sent, and
whether the items that have arrived are discarded. -/
structure Process (π β : Type*) where
  need : π → Option Nat
  step : π → List β → π × List β × Bool

def Process.Ended (P : Process π β) (p : π) : Prop := P.need p = none

instance (P : Process π β) (p : π) : Decidable (P.Ended p) := inferInstanceAs (Decidable (P.need p = none))

structure Network (π ρ β : Type*) where
  left : π
  right : ρ
  toLeft : List β
  toRight : List β

namespace Network

def swap (s : Network π ρ β) : Network ρ π β :=
  { left := s.right, right := s.left, toLeft := s.toRight, toRight := s.toLeft }

section

variable (P : Process π β) (Q : Process ρ β)

/-- The left process moves if enough items have arrived. What is sent to a process that has ended is
never read, and left out. -/
def moveLeft (s : Network π ρ β) : Option (Network π ρ β) :=
  match P.need s.left with
  | none => none
  | some n =>
    if s.toLeft.length < n then none
    else
      let (next, sent, discards) := P.step s.left (s.toLeft.take n)
      some {
        left := next
        right := s.right
        toLeft := if P.Ended next ∨ discards then [] else s.toLeft.drop n
        toRight := if Q.Ended s.right then [] else s.toRight ++ sent }

def moveRight (s : Network π ρ β) : Option (Network π ρ β) := (moveLeft Q P s.swap).map swap

def CleanLeft (s : Network π ρ β) : Prop :=
  ∀ n, P.need s.left = some n → (P.step s.left (s.toLeft.take n)).2.2 = true → P.Ended (P.step s.left (s.toLeft.take n)).1

def CleanRight (s : Network π ρ β) : Prop := CleanLeft Q s.swap

def Stuck (s : Network π ρ β) : Prop := moveLeft P Q s = none ∧ moveRight P Q s = none

inductive Run : Nat → Network π ρ β → Network π ρ β → Prop where
  | stuck {s : Network π ρ β} (stuck : Stuck P Q s) : Run 0 s s
  | left {n : Nat} {s next final : Network π ρ β} (move : moveLeft P Q s = some next) (clean : CleanLeft P s)
      (rest : Run n next final) : Run (n + 1) s final
  | right {n : Nat} {s next final : Network π ρ β} (move : moveRight P Q s = some next) (clean : CleanRight Q s)
      (rest : Run n next final) : Run (n + 1) s final

end

section

variable {P : Process π β} {Q : Process ρ β} {s next final : Network π ρ β} {n : Nat}

/-- The state after a left move for which `n` items have arrived. -/
def leftMoved (P : Process π β) (Q : Process ρ β) (s : Network π ρ β) (n : Nat) : Network π ρ β where
  left := (P.step s.left (s.toLeft.take n)).1
  right := s.right
  toLeft := if P.Ended (P.step s.left (s.toLeft.take n)).1 ∨ (P.step s.left (s.toLeft.take n)).2.2 = true then []
    else s.toLeft.drop n
  toRight := if Q.Ended s.right then [] else s.toRight ++ (P.step s.left (s.toLeft.take n)).2.1

lemma moveLeft_iff : moveLeft P Q s = some next ↔
    ∃ n, P.need s.left = some n ∧ n ≤ s.toLeft.length ∧ next = leftMoved P Q s n := by
  unfold moveLeft
  constructor
  · intro move
    split at move
    · cases move
    next n waits =>
      split at move
      · cases move
      next enough =>
        cases move
        exact ⟨n, waits, Nat.not_lt.mp enough, rfl⟩
  · rintro ⟨n, waits, enough, rfl⟩
    rw [waits]
    exact if_neg (Nat.not_lt.mpr enough)

lemma moveRight_iff : moveRight P Q s = some next ↔
    ∃ n, Q.need s.right = some n ∧ n ≤ s.toRight.length ∧ next = (leftMoved Q P s.swap n).swap := by
  unfold moveRight
  rw [Option.map_eq_some_iff]
  constructor
  · rintro ⟨moved, move, rfl⟩
    obtain ⟨n, waits, enough, rfl⟩ := moveLeft_iff.mp move
    exact ⟨n, waits, enough, rfl⟩
  · rintro ⟨n, waits, enough, rfl⟩
    exact ⟨_, moveLeft_iff.mpr ⟨n, waits, enough, rfl⟩, rfl⟩

lemma not_ended {p} (waits : P.need p = some n) : ¬ P.Ended p := by
  intro ended
  cases waits.symm.trans ended

lemma arrives {ended discards : Prop} [Decidable ended] [Decidable discards] (clean : discards → ended)
    {items : List β} (enough : n ≤ items.length) (sent : List β) :
    (if ended then [] else (if ended ∨ discards then [] else items.drop n) ++ sent) =
      if ended ∨ discards then [] else (items ++ sent).drop n := by
  by_cases stops : ended
  · rw [if_pos stops, if_pos (Or.inl stops)]
  · have kept : ¬ (ended ∨ discards) := not_or.mpr ⟨stops, fun discarded => stops (clean discarded)⟩
    rw [if_neg stops, if_neg kept, if_neg kept, drop_append_of_le_length enough]

lemma moveLeft_swap : moveLeft Q P s.swap = some next.swap ↔ moveRight P Q s = some next := by
  refine moveLeft_iff.trans (Iff.trans ?_ moveRight_iff.symm)
  refine exists_congr fun n => and_congr_right fun _ => and_congr_right fun _ => ?_
  exact ⟨fun same => congrArg swap same, fun same => congrArg swap same⟩

lemma moveRight_swap : moveRight Q P s.swap = some next.swap ↔ moveLeft P Q s = some next := by
  refine moveRight_iff.trans (Iff.trans ?_ moveLeft_iff.symm)
  refine exists_congr fun n => and_congr_right fun _ => and_congr_right fun _ => ?_
  exact ⟨fun same => congrArg swap same, fun same => congrArg swap same⟩

lemma toLeft_after {n m : Nat} (waits : P.need s.left = some n) (enough : n ≤ s.toLeft.length) :
    n ≤ (leftMoved Q P s.swap m).swap.toLeft.length ∧ (leftMoved Q P s.swap m).swap.toLeft.take n = s.toLeft.take n := by
  have here : (leftMoved Q P s.swap m).swap.toLeft = s.toLeft ++ (Q.step s.right (s.toRight.take m)).2.1 :=
    if_neg (not_ended waits)
  rw [here, length_append, take_append_of_le_length enough]
  exact ⟨Nat.le_trans enough (Nat.le_add_right _ _), rfl⟩

lemma cleanLeft_after {other} (left : moveLeft P Q s = some next)
    (right : moveRight P Q s = some other) : CleanLeft P other ↔ CleanLeft P s := by
  obtain ⟨n, waits, enough, -⟩ := moveLeft_iff.mp left
  obtain ⟨m, -, -, rfl⟩ := moveRight_iff.mp right
  obtain ⟨-, same⟩ := toLeft_after (Q := Q) (m := m) waits enough
  constructor
  · intro clean k waitsFor
    cases waits.symm.trans waitsFor
    have moved := clean n waits
    rw [same] at moved
    exact moved
  · intro clean k waitsFor
    cases waits.symm.trans waitsFor
    rw [same]
    exact clean n waits

lemma cleanRight_after {other} (left : moveLeft P Q s = some next)
    (right : moveRight P Q s = some other) : CleanRight Q next ↔ CleanRight Q s :=
  cleanLeft_after (moveLeft_swap.mpr right) (moveRight_swap.mpr left)

lemma moveLeft_after {other} (left : Network.moveLeft P Q s = some next) (right : moveRight P Q s = some other) :
    ∃ both, Network.moveLeft P Q other = some both ∧
      (CleanLeft P s → CleanRight Q s → moveRight P Q next = some both) := by
  obtain ⟨n, waitsLeft, enoughLeft, rfl⟩ := moveLeft_iff.mp left
  obtain ⟨m, waitsRight, enoughRight, rfl⟩ := moveRight_iff.mp right
  refine ⟨leftMoved P Q (leftMoved Q P s.swap m).swap n,
    moveLeft_iff.mpr ⟨n, waitsLeft, (toLeft_after waitsLeft enoughLeft).1, rfl⟩, ?_⟩
  intro cleanLeft cleanRight
  have still : m ≤ (leftMoved P Q s n).toRight.length := (toLeft_after (s := s.swap) (Q := P) waitsRight enoughRight).1
  refine moveRight_iff.mpr ⟨m, waitsRight, still, ?_⟩
  have left := arrives (cleanLeft n waitsLeft) enoughLeft (Q.step s.right (s.toRight.take m)).2.1
  have right := arrives (cleanRight m waitsRight) enoughRight (P.step s.left (s.toLeft.take n)).2.1
  simp only [leftMoved, swap, not_ended waitsLeft, not_ended waitsRight, ↓reduceIte,
    take_append_of_le_length enoughLeft, take_append_of_le_length enoughRight] at left right ⊢
  rw [left]
  exact congrArg (Network.mk _ _ _) right

lemma Run.swap (run : Run P Q k s final) : Run Q P k s.swap final.swap := by
  induction run with
  | stuck stuck =>
    refine .stuck ⟨?_, ?_⟩
    · exact Option.map_eq_none_iff.mp stuck.2
    · exact Option.map_eq_none_iff.mpr stuck.1
  | left move clean _ ih => exact .right (moveRight_swap.mpr move) clean ih
  | right move clean _ ih => exact .left (moveLeft_swap.mpr move) clean ih

lemma Run.moveLeft (run : Run P Q k s final) (move : moveLeft P Q s = some next) :
    ∃ n, k = n + 1 ∧ CleanLeft P s ∧ Run P Q n next final := by
  induction run generalizing next with
  | stuck stuck => cases stuck.1.symm.trans move
  | left first clean rest =>
    cases first.symm.trans move
    exact ⟨_, rfl, clean, rest⟩
  | right first clean rest ih =>
    obtain ⟨both, again, commutes⟩ := moveLeft_after move first
    obtain ⟨n, rfl, cleanAfter, after⟩ := ih again
    have cleanLeft := (cleanLeft_after move first).mp cleanAfter
    exact ⟨n + 1, rfl, cleanLeft, .right (commutes cleanLeft clean) ((cleanRight_after move first).mpr clean) after⟩

lemma Run.moveRight (run : Run P Q k s final) (move : moveRight P Q s = some next) :
    ∃ n, k = n + 1 ∧ Run P Q n next final := by
  obtain ⟨n, same, -, rest⟩ := run.swap.moveLeft (moveLeft_swap.mpr move)
  exact ⟨n, same, rest.swap⟩

end

section

variable {P : Process π β} {Q : Process ρ β} {final : Network π ρ β} {p : π} {q : ρ} {items more toLeft toRight : List β}
  {k : Nat}

lemma cleanLeft_of (waits : P.need p = some items.length)
    (clean : (P.step p items).2.2 = true → P.Ended (P.step p items).1) :
    CleanLeft P ({ left := p, right := q, toLeft := items ++ more, toRight } : Network π ρ β) := by
  intro n waitsFor
  cases waits.symm.trans waitsFor
  rw [take_left]
  exact clean

lemma moveLeft_of {next : Network π ρ β} (waits : P.need p = some items.length) (moved : next = {
      left := (P.step p items).1
      right := q
      toLeft := if P.Ended (P.step p items).1 ∨ (P.step p items).2.2 = true then [] else more
      toRight := if Q.Ended q then [] else toRight ++ (P.step p items).2.1 }) :
    moveLeft P Q ({ left := p, right := q, toLeft := items ++ more, toRight } : Network π ρ β) = some next := by
  refine moveLeft_iff.mpr ⟨items.length, waits, ?_, moved.trans ?_⟩
  · rw [length_append]
    exact Nat.le_add_right _ _
  · unfold leftMoved
    dsimp only
    rw [take_left, drop_left]

lemma Run.leftStep (items : List β) (waits : P.need p = some items.length) (goes : ¬ P.Ended (P.step p items).1)
    (running : ¬ Q.Ended q) (keeps : (P.step p items).2.2 = false)
    (rest : Run P Q k ⟨(P.step p items).1, q, more, toRight ++ (P.step p items).2.1⟩ final) :
    Run P Q (k + 1) ⟨p, q, items ++ more, toRight⟩ final := by
  refine .left (moveLeft_of waits ?_) (cleanLeft_of waits ?_) rest
  · rw [if_neg (not_or.mpr ⟨goes, by rw [keeps]; exact Bool.false_ne_true⟩), if_neg running]
  · rw [keeps]
    exact fun impossible => Bool.noConfusion impossible

lemma Run.rightStep (items : List β) (waits : Q.need q = some items.length) (goes : ¬ Q.Ended (Q.step q items).1)
    (running : ¬ P.Ended p) (keeps : (Q.step q items).2.2 = false)
    (rest : Run P Q k ⟨p, (Q.step q items).1, toLeft ++ (Q.step q items).2.1, more⟩ final) :
    Run P Q (k + 1) ⟨p, q, toLeft, items ++ more⟩ final :=
  (Run.leftStep items waits goes running keeps rest.swap).swap

lemma Run.leftEnd (items : List β) (waits : P.need p = some items.length) (ends : P.Ended (P.step p items).1)
    (running : ¬ Q.Ended q)
    (rest : Run P Q k ⟨(P.step p items).1, q, [], toRight ++ (P.step p items).2.1⟩ final) :
    Run P Q (k + 1) ⟨p, q, items ++ more, toRight⟩ final := by
  refine .left (moveLeft_of waits ?_) (cleanLeft_of waits ?_) rest
  · rw [if_pos (Or.inl ends), if_neg running]
  · exact fun _ => ends

lemma Run.rightEnd (items : List β) (waits : Q.need q = some items.length) (ends : Q.Ended (Q.step q items).1)
    (running : ¬ P.Ended p)
    (rest : Run P Q k ⟨p, (Q.step q items).1, toLeft ++ (Q.step q items).2.1, []⟩ final) :
    Run P Q (k + 1) ⟨p, q, toLeft, items ++ more⟩ final :=
  (Run.leftEnd items waits ends running rest.swap).swap

lemma moveLeft_ended {s : Network π ρ β} (ended : P.Ended s.left) : moveLeft P Q s = none := by
  unfold moveLeft
  rw [show P.need s.left = none from ended]

lemma Run.leftLast (items : List β) (waits : P.need p = some items.length) (ends : P.Ended (P.step p items).1)
    (stopped : Q.Ended q) :
    Run P Q 1 ⟨p, q, items ++ more, toRight⟩ ⟨(P.step p items).1, q, [], []⟩ := by
  refine .left (moveLeft_of waits ?_) (cleanLeft_of waits ?_) (.stuck ⟨?_, ?_⟩)
  · rw [if_pos (Or.inl ends), if_pos stopped]
  · exact fun _ => ends
  · exact moveLeft_ended ends
  · exact Option.map_eq_none_iff.mpr (moveLeft_ended stopped)

end

inductive Side where
  | left
  | right
  deriving DecidableEq

variable (P : Process π β) (Q : Process ρ β)

def move : Side → Network π ρ β → Option (Network π ρ β)
  | .left => moveLeft P Q
  | .right => moveRight P Q

def execute (s : Network π ρ β) (schedule : List Side) : Network π ρ β :=
  schedule.foldl (fun s side => (move P Q side s).getD s) s

def moves : Network π ρ β → List Side → Nat
  | _, [] => 0
  | s, side :: rest => (if (move P Q side s).isSome then 1 else 0) + moves ((move P Q side s).getD s) rest

variable {P Q} {s final : Network π ρ β}

lemma Run.move (run : Run P Q k s final) {side} {next}
    (moved : move P Q side s = some next) : ∃ n, k = n + 1 ∧ Run P Q n next final := by
  cases side with
  | left =>
    obtain ⟨n, same, -, rest⟩ := run.moveLeft moved
    exact ⟨n, same, rest⟩
  | right => exact run.moveRight moved

lemma Run.execute (run : Run P Q k s final) (schedule : List Side) :
    ∃ n, k = moves P Q s schedule + n ∧ Run P Q n (execute P Q s schedule) final := by
  induction schedule generalizing k s with
  | nil => exact ⟨k, (Nat.zero_add k).symm, run⟩
  | cons side rest ih =>
    unfold moves Network.execute
    rw [foldl_cons]
    cases moved : Network.move P Q side s with
    | none =>
      obtain ⟨n, same, after⟩ := ih run
      exact ⟨n, by rw [same]; simp, after⟩
    | some next =>
      obtain ⟨m, rfl, left⟩ := run.move moved
      obtain ⟨n, same, after⟩ := ih left
      refine ⟨n, ?_, after⟩
      rw [same]
      simp only [Option.isSome_some, ↓reduceIte, Option.getD_some]
      omega

lemma Run.ends (run : Run P Q k s final) (stuck : Stuck P Q s) : s = final := by
  cases run with
  | stuck => rfl
  | left move => cases stuck.1.symm.trans move
  | right move => cases stuck.2.symm.trans move

lemma Run.schedule (run : Run P Q k s final) :
    ∃ schedule, Network.execute P Q s schedule = final ∧ Stuck P Q final := by
  induction run with
  | stuck stuck => exact ⟨[], rfl, stuck⟩
  | left move _ _ ih =>
    obtain ⟨rest, ends, stuck⟩ := ih
    refine ⟨.left :: rest, ?_, stuck⟩
    rw [Network.execute, foldl_cons, Network.move, move]
    exact ends
  | right move _ _ ih =>
    obtain ⟨rest, ends, stuck⟩ := ih
    refine ⟨.right :: rest, ?_, stuck⟩
    rw [Network.execute, foldl_cons, Network.move, move]
    exact ends

end Network

end LL320D.Library
