import Mathlib

/-! Memory that two contexts share: circular buffers seen through the list they hold, a slot beside a queue of tokens, and
values that are copied part by part. -/

namespace LL320D.Library

section
open List Function

variable {len size start : Nat}

variable {β γ : Type*}

/-- The `len` cells of a ring of `size` cells that begin at `start`. -/
def window (cells : Nat → β) (size start len : Nat) : List β := (List.range len).map fun i => cells ((start + i) % size)

section

variable (cells : Nat → β)
include cells

@[simp] lemma window_length (size start len : Nat) : (window cells size start len).length = len := by
  simp [window]

lemma window_getElem? (size start len i : Nat) (inside : i < len) :
    (window cells size start len)[i]? = some (cells ((start + i) % size)) := by
  simp [window, inside]

lemma window_drop (size start len k : Nat) :
    (window cells size start len).drop k = window cells size ((start + k) % size) (len - k) := by
  apply ext_getElem (by simp)
  intro i inside _
  simp only [window, getElem_drop, getElem_map, getElem_range]
  rw [Nat.mod_add_mod, Nat.add_assoc]

lemma window_update_free (free : len < size) (value : β) :
    window (update cells ((start + len) % size) value) size start len = window cells size start len := by
  apply map_congr_left
  intro i member
  have below := mem_range.mp member
  apply update_of_ne
  intro same
  have congruent := Nat.ModEq.add_left_cancel' start same.symm
  have equal : len % size = i % size := congruent
  rw [Nat.mod_eq_of_lt free, Nat.mod_eq_of_lt (by omega)] at equal
  omega

lemma window_succ (size start len : Nat) :
    window cells size start (len + 1) = window cells size start len ++ [cells ((start + len) % size)] := by
  simp [window, range_succ]

lemma window_append (free : len < size) (value : β) :
    window (update cells ((start + len) % size) value) size start (len + 1) =
      window cells size start len ++ [value] := by
  rw [window_succ, window_update_free cells free, update_self]

lemma window_rotate (inside : start < size) (value : β) :
    window (update cells start value) size ((start + 1) % size) size =
      (window cells size start size).drop 1 ++ [value] := by
  have last : ((start + 1) % size + (size - 1)) % size = start := by
    rw [Nat.mod_add_mod, show start + 1 + (size - 1) = start + size by omega, Nat.add_mod_right,
      Nat.mod_eq_of_lt inside]
  have free : size - 1 < size := by omega
  have appended : window (update cells (((start + 1) % size + (size - 1)) % size) value) size
      ((start + 1) % size) (size - 1 + 1) = window cells size ((start + 1) % size) (size - 1) ++ [value] :=
    window_append cells free value
  rw [last, show size - 1 + 1 = size by omega] at appended
  rw [appended, window_drop]

end

lemma ring_end_eq_start (inside : start < size) (fits : len < size) : (start + len) % size = start ↔ len = 0 := by
  rcases Nat.lt_or_ge (start + len) size with below | wraps
  · rw [Nat.mod_eq_of_lt below]
    omega
  · rw [Nat.mod_eq_sub_mod wraps, Nat.mod_eq_of_lt (by omega)]
    omega

lemma ring_distance (inside : start < size) (fits : len < size) :
    ((start + len) % size + size - start) % size = len := by
  rcases Nat.lt_or_ge (start + len) size with below | wraps
  · rw [Nat.mod_eq_of_lt below, show start + len + size - start = len + size by omega, Nat.add_mod_right,
      Nat.mod_eq_of_lt fits]
  · rw [Nat.mod_eq_sub_mod wraps, Nat.mod_eq_of_lt (by omega : start + len - size < size),
      show start + len - size + size - start = len by omega, Nat.mod_eq_of_lt fits]

variable {f : β → List γ} {n : Nat}

lemma blocks_length (uniform : ∀ b, (f b).length = n) (blocks : List β) :
    (blocks.flatMap f).length = blocks.length * n := by
  induction blocks with
  | nil => simp
  | cons b blocks ih => simp [ih, uniform, Nat.succ_mul, Nat.add_comm]

lemma blocks_drop (uniform : ∀ b, (f b).length = n) (blocks : List β) (k : Nat) :
    (blocks.flatMap f).drop (k * n) = (blocks.drop k).flatMap f := by
  induction k generalizing blocks with
  | zero => simp
  | succ k ih =>
    cases blocks with
    | nil => simp
    | cons b blocks =>
      rw [flatMap_cons, drop_succ_cons, ← ih blocks, Nat.succ_mul, Nat.add_comm, ← drop_drop, drop_left' (uniform b)]

/-- Flat position `i` lies in block `i / n`, at place `i % n` of that block. -/
lemma blocks_getElem? (uniform : ∀ b, (f b).length = n) (positive : 0 < n) (blocks : List β) (i : Nat) :
    (blocks.flatMap f)[i]? = (blocks[i / n]?).bind fun b => (f b)[i % n]? := by
  have split : (blocks.flatMap f)[i]? = ((blocks.flatMap f).drop (i / n * n))[i % n]? := by
    rw [List.getElem?_drop, Nat.div_add_mod']
  rw [split, blocks_drop uniform]
  cases found : blocks[i / n]? with
  | none =>
    have past : blocks.length ≤ i / n := List.getElem?_eq_none_iff.mp found
    simp [drop_eq_nil_of_le past]
  | some b =>
    obtain ⟨inside, same⟩ := List.getElem?_eq_some_iff.mp found
    rw [drop_eq_getElem_cons inside, flatMap_cons, same,
      List.getElem?_append_left (by rw [uniform]; exact Nat.mod_lt _ positive)]
    rfl

end

section
open List

@[ext] structure Slot (α : Type*) where
  value : α
  written : List α
  reads : List α

namespace Slot

variable {α : Type*} {s : Slot α}

def write (value : α) (s : Slot α) : Slot α := ⟨value, s.written ++ [value], s.reads⟩

def read (s : Slot α) : Slot α := ⟨s.value, s.written, s.reads ++ [s.value]⟩

def outstanding (s : Slot α) : List α := s.written.drop s.reads.length

structure Fresh (s : Slot α) : Prop where
  bound : s.reads.length ≤ s.written.length
  last : ∀ value ∈ s.written.getLast?, value = s.value

structure Agrees (s : Slot α) : Prop where
  reads : s.reads ++ s.outstanding = s.written
  value : ∀ other ∈ s.outstanding, other = s.value

lemma Fresh.write (fresh : s.Fresh) (value : α) : (s.write value).Fresh := by
  constructor
  · have bound := fresh.bound
    simp only [Slot.write, length_append, length_singleton]
    omega
  · intro other last
    simp only [Slot.write, List.getLast?_concat, Option.mem_some_iff] at last
    exact last.symm

lemma Fresh.read (fresh : s.Fresh) (token : s.reads.length < s.written.length) : s.read.Fresh := by
  refine ⟨?_, fresh.last⟩
  simp only [Slot.read, length_append, length_singleton]
  exact token

lemma outstanding_write (fresh : s.Fresh) (value : α) : (s.write value).outstanding = s.outstanding ++ [value] :=
  drop_append_of_le_length fresh.bound

lemma Fresh.value_eq (fresh : s.Fresh) {value : α} (all : ∀ other ∈ s.outstanding, other = value) :
    ∀ other ∈ s.outstanding, other = s.value := by
  intro other member
  have some := length_pos_of_mem member
  rw [outstanding, length_drop] at some
  have inside : s.reads.length < s.written.length := by omega
  have last : ∀ final ∈ s.outstanding.getLast?, final = s.value := by
    rw [outstanding, List.getLast?_drop, if_neg (Nat.not_le_of_lt inside)]
    exact fresh.last
  obtain ⟨final, found⟩ := Option.isSome_iff_exists.mp (List.getLast?_isSome.mpr (ne_nil_of_mem member))
  rw [all other member, ← last final found]
  exact (all final (mem_of_getLast? found)).symm

lemma agrees_write (fresh : s.Fresh) (value : α) :
    (s.write value).Agrees ↔ s.Agrees ∧ ∀ other ∈ s.outstanding, other = value := by
  constructor
  · rintro ⟨reads, same⟩
    rw [outstanding_write fresh] at reads same
    have all : ∀ other ∈ s.outstanding, other = value := fun other member => same other (mem_append_left _ member)
    rw [← append_assoc] at reads
    exact ⟨⟨append_cancel_right reads, fresh.value_eq all⟩, all⟩
  · rintro ⟨agrees, same⟩
    constructor
    · rw [outstanding_write fresh, ← append_assoc]
      exact congrArg (· ++ [value]) agrees.reads
    · intro other member
      rw [outstanding_write fresh] at member
      rcases mem_append.mp member with member | member
      · exact same other member
      · exact mem_singleton.mp member

lemma agrees_read (token : s.reads.length < s.written.length) : s.read.Agrees ↔ s.Agrees := by
  obtain ⟨next, rest, left⟩ : ∃ next rest, s.outstanding = next :: rest := by
    refine exists_cons_of_length_pos ?_
    rw [outstanding, length_drop]
    omega
  have later : s.read.outstanding = rest := by
    have tail := congrArg List.tail left
    rw [outstanding, tail_drop] at tail
    simpa [outstanding, Slot.read] using tail
  constructor
  · rintro ⟨reads, same⟩
    rw [later] at reads same
    have joined : s.reads ++ s.value :: rest = s.written := by simpa [Slot.read] using reads
    have first : next = s.value := by
      rw [outstanding, ← joined, drop_left] at left
      exact (List.cons.inj left).1.symm
    constructor
    · rw [left, first]
      exact joined
    · rw [left, first]
      exact forall_mem_cons.mpr ⟨rfl, same⟩
  · rintro ⟨reads, same⟩
    rw [left] at reads same
    obtain ⟨first, others⟩ := forall_mem_cons.mp same
    constructor
    · rw [later, Slot.read, ← reads, first]
      exact append_assoc ..
    · rw [later]
      exact others

lemma Agrees.in_order (agrees : s.Agrees) : s.reads <+: s.written := ⟨_, agrees.reads⟩

lemma agrees_drained (drained : s.reads.length = s.written.length) : s.Agrees ↔ s.reads = s.written := by
  have none : s.outstanding = [] := by rw [outstanding, drained, drop_length]
  constructor
  · intro agrees
    have reads := agrees.reads
    rwa [none, append_nil] at reads
  · intro same
    constructor
    · rw [none, append_nil, same]
    · rw [none]
      exact nofun

end Slot

end

/-- Values of `α` with parts in `ι`: `mix mask a b` is `a` with the parts in the mask taken from `b`. -/
class Parts (α : Type*) (ι : outParam Type*) where
  mix : (ι → Bool) → α → α → α
  mix_self : ∀ mask a, mix mask a a = a
  mix_none : ∀ a b, mix (fun _ => false) a b = a
  mix_all : ∀ mask a b, (∀ part, mask part = true) → mix mask a b = b
  mix_mix : ∀ seen mask a b, mix mask (mix seen a b) b = mix (fun part => seen part || mask part) a b

structure Copy (α : Type*) (ι : Type*) where
  value : α
  seen : ι → Bool

namespace Copy

variable {α ι : Type*} [Parts α ι]

def blank (value : α) : Copy α ι := ⟨value, fun _ => false⟩

def read (copy : Copy α ι) (mask : ι → Bool) (source : α) : Copy α ι :=
  ⟨Parts.mix mask copy.value source, fun part => copy.seen part || mask part⟩

def Complete (copy : Copy α ι) : Prop := ∀ part, copy.seen part = true

instance [Fintype ι] (copy : Copy α ι) : Decidable copy.Complete :=
  inferInstanceAs (Decidable (∀ part, copy.seen part = true))

def Of (copy : Copy α ι) (source : α) : Prop := ∃ other, copy.value = Parts.mix copy.seen other source

variable {copy : Copy α ι} {source : α}

lemma blank_of (value : α) : (blank value : Copy α ι).Of source := ⟨value, (Parts.mix_none value source).symm⟩

lemma Of.read (of : copy.Of source) (mask : ι → Bool) : (copy.read mask source).Of source := by
  obtain ⟨other, value⟩ := of
  refine ⟨other, ?_⟩
  simp only [Copy.read, value, Parts.mix_mix]

lemma Of.complete (of : copy.Of source) (complete : copy.Complete) : copy.value = source := by
  obtain ⟨other, value⟩ := of
  exact value.trans (Parts.mix_all _ _ _ complete)

end Copy

end LL320D.Library
