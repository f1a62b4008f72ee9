import Mathlib

/-! Selection sort as C code writes it: the first smallest item changes places with
the first item, then the rest is sorted. -/

namespace LL320D.Library
open List

variable {β κ : Type*} [Inhabited β] [LT κ] [DecidableLT κ] {items : List β} (key : β → κ) (first : β)

def minIdx (key : β → κ) (items : List β) : Nat := (List.range items.length).foldl
    (fun best j => if key (items.getD j default) < key (items.getD best default) then j else best) 0

def selectMin (key : β → κ) (first : β) (rest : List β) : β × List β :=
  match minIdx key (first :: rest) with
  | 0 => (first, rest)
  | i + 1 => (rest.getD i default, rest.set i first)

def selectPasses (key : β → κ) : Nat → List β → List β
  | passes + 1, first :: rest =>
    (selectMin key first rest).1 :: selectPasses key passes (selectMin key first rest).2
  | _, items => items

def selectionSort (key : β → κ) (items : List β) : List β := selectPasses key items.length items

lemma minIdx_lt (some : items ≠ []) : minIdx key items < items.length := by
  refine List.foldlRecOn (List.range items.length) _ (motive := fun best => best < items.length)
    (length_pos_iff.mpr some) ?_
  intro best inside j member
  split
  · exact mem_range.mp member
  · exact inside

lemma exchange_perm {rest : List β} {i : Nat} (inside : i < rest.length) :
    (rest.getD i default :: rest.set i first).Perm (first :: rest) := by
  induction rest generalizing i with
  | nil => exact absurd inside (Nat.not_lt_zero i)
  | cons second rest ih =>
    cases i with
    | zero => exact .swap first second rest
    | succ i =>
      have later := ih (Nat.lt_of_succ_lt_succ inside)
      exact (List.Perm.swap second _ _).trans ((later.cons second).trans (.swap first second rest))

lemma selectMin_perm (rest) : ((selectMin key first rest).1 :: (selectMin key first rest).2).Perm (first :: rest) := by
  have inside := minIdx_lt key (cons_ne_nil first rest)
  unfold selectMin
  split
  · exact .refl _
  · next i found =>
    rw [found] at inside
    exact exchange_perm first (Nat.lt_of_succ_lt_succ inside)

lemma selectPasses_perm (passes items) : (selectPasses key passes items).Perm items := by
  induction passes generalizing items with
  | zero => cases items <;> exact .refl _
  | succ passes ih =>
    cases items with
    | nil => exact .refl _
    | cons first rest => exact ((ih _).cons _).trans (selectMin_perm key first rest)

lemma selectionSort_perm (items) : (selectionSort key items).Perm items :=
  selectPasses_perm key items.length items

example : selectionSort id [3, 1, 2, 1] = [1, 1, 2, 3] := by decide

section

/-- The inner loop on an array that is sorted up to `i`: the first smallest item from there on. -/
def minFrom (key : β → κ) (items : List β) (i : Nat) : Nat := (List.range' (i + 1) (items.length - (i + 1))).foldl
    (fun best j => if key (items.getD j default) < key (items.getD best default) then j else best) i

def swapItems (items : List β) (i j : Nat) : List β := (items.set i (items.getD j default)).set j (items.getD i default)

def sortPass (key : β → κ) (items : List β) (i : Nat) : List β :=
  if minFrom key items i ≠ i then swapItems items i (minFrom key items i) else items

def sortInPlace (key : β → κ) (items : List β) : List β := (List.range (items.length - 1)).foldl (sortPass key) items

variable (key : β → κ) (done : List β) (first : β)

lemma getD_append_length (items : List β) (j) :
    (done ++ items).getD (done.length + j) default = items.getD j default := by
  rw [getD_eq_getElem?_getD, getD_eq_getElem?_getD, List.getElem?_append_right (Nat.le_add_right _ _),
    Nat.add_sub_cancel_left]

lemma minFrom_append (rest : List β) :
    minFrom key (done ++ first :: rest) done.length = done.length + minIdx key (first :: rest) := by
  have shifted : ∀ n start best, (List.range' (done.length + start) n).foldl
      (fun best j => if key ((done ++ first :: rest).getD j default) < key ((done ++ first :: rest).getD best default) then j
        else best) (done.length + best) = done.length + (List.range' start n).foldl
      (fun best j => if key ((first :: rest).getD j default) < key ((first :: rest).getD best default) then j
        else best) best := by
    intro n
    induction n with
    | zero => exact fun _ _ => rfl
    | succ n ih =>
      intro start best
      rw [List.range'_succ, List.range'_succ, foldl_cons, foldl_cons, getD_append_length, getD_append_length,
        ← apply_ite (done.length + ·)]
      exact ih (start + 1) _
  have length : (done ++ first :: rest).length - (done.length + 1) = rest.length := by
    rw [length_append, length_cons]
    omega
  rw [minFrom, length, minIdx, length_cons, range_eq_range', List.range'_succ, foldl_cons, ite_self]
  exact shifted rest.length 1 0

lemma sortPass_append (rest) : sortPass key (done ++ first :: rest) done.length =
    done ++ (selectMin key first rest).1 :: (selectMin key first rest).2 := by
  rw [sortPass, minFrom_append, selectMin]
  have here := getD_append_length done (first :: rest) 0
  split
  · next moves =>
    split
    · next none => exact absurd (by rw [none, Nat.add_zero]) moves
    · next i found =>
      rw [swapItems, found, getD_append_length, ← Nat.add_zero done.length, here, Nat.add_zero,
        set_append_right _ _ (Nat.le_refl _), set_append_right _ _ (Nat.le_add_right _ _), Nat.sub_self,
        Nat.add_sub_cancel_left]
      rfl
  · next stays =>
    split
    · rfl
    · next i found => exact absurd (by rw [found]; omega) stays

lemma sortPasses_append (passes items) (fits : passes ≤ items.length) :
    (List.range' done.length passes).foldl (sortPass key) (done ++ items) = done ++ selectPasses key passes items := by
  induction passes generalizing done items with
  | zero => cases items <;> rfl
  | succ passes ih =>
    cases items with
    | nil => cases fits
    | cons first rest =>
      have length := Nat.succ.inj (selectMin_perm key first rest).length_eq
      have next := ih (done ++ [(selectMin key first rest).1]) (selectMin key first rest).2
        (by rw [length]; exact Nat.le_of_succ_le_succ fits)
      rw [length_append, append_assoc, append_assoc] at next
      rw [List.range'_succ, foldl_cons, sortPass_append]
      exact next

lemma selectPasses_last {n : Nat} (length : items.length = n + 1) :
    selectPasses key (n + 1) items = selectPasses key n items := by
  induction n generalizing items with
  | zero =>
    obtain ⟨only, rfl⟩ := length_eq_one_iff.mp length
    rw [selectPasses, selectMin, minIdx]
    simp only [length_singleton, range_one, foldl_cons, foldl_nil, ite_self, selectPasses]
  | succ n ih =>
    obtain ⟨first, rest, rfl⟩ := exists_cons_of_length_eq_add_one length
    rw [selectPasses, selectPasses, ih]
    exact (Nat.succ.inj (selectMin_perm key first rest).length_eq).trans (Nat.succ.inj length)

lemma sortInPlace_eq (items) : sortInPlace key items = selectionSort key items := by
  cases items with
  | nil => rfl
  | cons first rest =>
    have passes := sortPasses_append key [] rest.length (first :: rest) (Nat.le_succ _)
    rw [selectionSort, length_cons, selectPasses_last key length_cons]
    rw [sortInPlace, range_eq_range']
    exact passes

end

variable [LE κ] [Std.IsLinearOrder κ] [Std.LawfulOrderLT κ] (key : β → κ)

lemma minIdx_le (items : List β) {j : Nat} (inside : j < items.length) :
    key (items.getD (minIdx key items) default) ≤ key (items.getD j default) := by
  rw [minIdx]
  generalize items.length = n at inside ⊢
  induction n with
  | zero => cases inside
  | succ n ih =>
    rw [range_succ, foldl_append, foldl_cons, foldl_nil]
    rcases Nat.lt_succ_iff_lt_or_eq.mp inside with before | rfl
    · split
      · next smaller => exact Std.le_trans (Std.le_of_lt smaller) (ih before)
      · exact ih before
    · split
      · exact Std.le_refl _
      · next notSmaller => exact Std.not_lt.mp notSmaller

lemma selectMin_le {first item : β} {rest : List β} (member : item ∈ first :: rest) :
    key (selectMin key first rest).1 ≤ key item := by
  have smallest : (selectMin key first rest).1 = (first :: rest).getD (minIdx key (first :: rest)) default := by
    rw [selectMin]
    split <;> next found => rw [found]; rfl
  obtain ⟨j, inside, rfl⟩ := getElem_of_mem member
  have value : (first :: rest).getD j default = (first :: rest)[j] := by
    rw [getD_eq_getElem?_getD, List.getElem?_eq_getElem inside]
    rfl
  rw [smallest, ← value]
  exact minIdx_le key (first :: rest) inside

lemma selectPasses_sorted {passes : Nat} (enough : items.length ≤ passes) :
    (selectPasses key passes items).Pairwise fun a b => key a ≤ key b := by
  induction passes generalizing items with
  | zero =>
    rw [length_eq_zero_iff.mp (Nat.le_zero.mp enough)]
    exact .nil
  | succ passes ih =>
    cases items with
    | nil => exact .nil
    | cons first rest =>
      have perm := selectMin_perm key first rest
      refine pairwise_cons.mpr ⟨fun item member => ?_, ih ?_⟩
      · have later := (selectPasses_perm key passes _).mem_iff.mp member
        exact selectMin_le key (perm.mem_iff.mp (mem_cons_of_mem _ later))
      · rw [Nat.succ.inj perm.length_eq]
        exact Nat.le_of_succ_le_succ enough

lemma selectionSort_sorted (items) : (selectionSort key items).Pairwise fun a b => key a ≤ key b :=
  selectPasses_sorted key (Nat.le_refl _)

end LL320D.Library
