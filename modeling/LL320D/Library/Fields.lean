import Mathlib

/-! Numbers and bytes as text: decimal numbers, fields between commas, bytes in hexadecimal, the pieces of a list between
its separators, and length fields of one or two bytes. -/

namespace LL320D.Library.Decimal
open List

variable (n : Nat) {digit : Nat}

/-- The decimal digits, the first one first. -/
def text (n : Nat) : List UInt8 :=
  if n = 0 then [48] else ((Nat.digits 10 n).map fun digit => UInt8.ofNat (48 + digit)).reverse

def isDigit (byte : UInt8) : Bool := 48 ≤ byte && byte ≤ 57

def value (digits : List UInt8) : Nat := digits.foldl (fun n digit => 10 * n + (digit.toNat - 48)) 0

lemma digit_toNat (small : digit < 10) : (UInt8.ofNat (48 + digit)).toNat = 48 + digit :=
  UInt8.toNat_ofNat_of_lt' (by simp only [UInt8.size]; omega)

lemma isDigit_digit (small : digit < 10) : isDigit (UInt8.ofNat (48 + digit)) = true := by
  have same := digit_toNat small
  simp only [isDigit, Bool.and_eq_true, decide_eq_true_eq, UInt8.le_iff_toNat_le, same]
  exact ⟨Nat.le_add_right _ _, by show 48 + digit ≤ 57; omega⟩

lemma text_isDigit : ∀ byte ∈ text n, isDigit byte = true := by
  intro byte member
  unfold text at member
  split at member
  · cases mem_singleton.mp member
    decide
  · obtain ⟨digit, among, rfl⟩ := mem_map.mp (mem_reverse.mp member)
    exact isDigit_digit (Nat.digits_lt_base (by decide) among)

lemma value_text : value (text n) = n := by
  unfold text
  split
  next zero => rw [zero]; rfl
  next =>
    have read : ∀ digits : List Nat, (∀ digit ∈ digits, digit < 10) →
        value (digits.map fun digit => UInt8.ofNat (48 + digit)).reverse = Nat.ofDigits 10 digits := by
      intro digits
      induction digits with
      | nil => exact fun _ => rfl
      | cons digit digits ih =>
        intro small
        have later := ih fun digit among => small digit (mem_cons_of_mem _ among)
        rw [map_cons, reverse_cons, Nat.ofDigits_cons, ← later]
        simp only [value, foldl_append, foldl_cons, foldl_nil, digit_toNat (small digit mem_cons_self)]
        omega
    rw [read _ fun _ among => Nat.digits_lt_base (by decide) among, Nat.ofDigits_digits]

lemma takeWhile_text {stop : UInt8} (none : isDigit stop = false) (rest : List UInt8) :
    (text n ++ stop :: rest).takeWhile isDigit = text n := by
  rw [takeWhile_append_of_pos (text_isDigit n), takeWhile_cons_of_neg (by rw [none]; exact Bool.false_ne_true),
    append_nil]

lemma text_length_le {n width : Nat} (positive : 0 < width) (small : n < 10 ^ width) : (text n).length ≤ width := by
  unfold text
  split
  · exact positive
  · rw [length_reverse, length_map]
    exact (Nat.digits_length_le_iff (by decide) n).mpr small

end LL320D.Library.Decimal

namespace LL320D.Library.Fields
open List

variable (bytes : List UInt8)

def comma : UInt8 := 0x2C

/-- Behind the comma in ASCII, as digits and letters are. -/
def Plain (text : List UInt8) : Prop := ∀ byte ∈ text, comma < byte

def joined : List (List UInt8) → List UInt8
  | [] => []
  | [field] => field
  | field :: fields => field ++ comma :: joined fields

/-- What stands before the first comma, and what behind it. -/
def field (text : List UInt8) : Option (List UInt8 × List UInt8) :=
  match text.dropWhile (· ≠ comma) with
  | [] => none
  | _ :: rest => some (text.takeWhile (· ≠ comma), rest)

/-- A field of known length, in which commas may occur. -/
def counted (length : Nat) (text : List UInt8) : Option (List UInt8 × List UInt8) :=
  if text[length]? = some comma then some (text.take length, text.drop (length + 1)) else none

def hexDigit (n : Nat) : UInt8 := UInt8.ofNat (if n < 10 then 48 + n else 55 + n)

def hex (bytes : List UInt8) : List UInt8 :=
  bytes.flatMap fun byte => [hexDigit (byte.toNat / 16), hexDigit (byte.toNat % 16)]

def hexValue (digit : UInt8) : Nat := if digit.toNat < 58 then digit.toNat - 48 else digit.toNat - 55

def unhex : List UInt8 → List UInt8
  | high :: low :: rest => UInt8.ofNat (16 * hexValue high + hexValue low) :: unhex rest
  | _ => []

lemma field_append {first : List UInt8} (plain : comma ∉ first) (rest : List UInt8) :
    field (first ++ comma :: rest) = some (first, rest) := by
  have inside : ∀ byte ∈ first, decide (byte ≠ comma) = true := by
    intro byte member
    exact decide_eq_true fun same => plain (same ▸ member)
  have left : (first ++ comma :: rest).dropWhile (· ≠ comma) = comma :: rest := by
    rw [dropWhile_append_of_pos inside]
    rfl
  have taken : (first ++ comma :: rest).takeWhile (· ≠ comma) = first := by
    rw [takeWhile_append_of_pos inside]
    exact append_nil _
  simp only [field, left, taken]

lemma counted_append (first rest : List UInt8) :
    counted first.length (first ++ comma :: rest) = some (first, rest) := by
  have here : (first ++ comma :: rest)[first.length]? = some comma := by
    rw [List.getElem?_append_right (Nat.le_refl _), Nat.sub_self]
    rfl
  have behind : (first ++ comma :: rest).drop (first.length + 1) = rest := by
    rw [← drop_drop, drop_left]
    rfl
  simp only [counted, here, if_true, take_left, behind]

lemma hexValue_digit : ∀ n < 16, hexValue (hexDigit n) = n := by decide

lemma unhex_hex : unhex (hex bytes) = bytes := by
  induction bytes with
  | nil => rfl
  | cons byte bytes ih =>
    have high := hexValue_digit (byte.toNat / 16) (by have := byte.toNat_lt; omega)
    have low := hexValue_digit (byte.toNat % 16) (Nat.mod_lt _ (by decide))
    have whole : 16 * (byte.toNat / 16) + byte.toNat % 16 = byte.toNat := Nat.div_add_mod ..
    simp only [hex, flatMap_cons, cons_append, nil_append, unhex, high, low, whole, UInt8.ofNat_toNat]
    exact congrArg _ ih

lemma hex_length : (hex bytes).length = 2 * bytes.length := by
  induction bytes with
  | nil => rfl
  | cons byte bytes ih =>
    have more : (hex (byte :: bytes)).length = (hex bytes).length + 2 := rfl
    rw [more, ih, length_cons, Nat.mul_add]

/-! Plain fields -/

lemma Plain.not_comma {text : List UInt8} (plain : Plain text) : comma ∉ text :=
  fun member => UInt8.lt_irrefl _ (plain _ member)

lemma hex_plain : Plain (hex bytes) := by
  have digits : ∀ n < 16, comma < hexDigit n := by decide
  intro byte member
  obtain ⟨source, _, among⟩ := mem_flatMap.mp member
  have small := source.toNat_lt
  simp only [mem_cons, not_mem_nil, or_false] at among
  rcases among with rfl | rfl
  · exact digits _ (by omega)
  · exact digits _ (Nat.mod_lt _ (by decide))

lemma number_plain (n : Nat) : Plain (Decimal.text n) := by
  intro byte member
  have digit := Decimal.text_isDigit n byte member
  simp only [Decimal.isDigit, Bool.and_eq_true, decide_eq_true_eq] at digit
  exact UInt8.lt_of_lt_of_le (by decide) digit.1

end LL320D.Library.Fields

namespace LL320D.Library.Pieces
open List

variable {α : Type*} (p : α → Bool) (list : List α)

/-- The pieces that have ended, and the one under way. -/
def feed (s : List (List α) × List α) (a : α) : List (List α) × List α :=
  if p a then (s.1 ++ [s.2], []) else (s.1, s.2 ++ [a])

lemma feed_end {a : α} (ends : p a = true) (s : List (List α) × List α) : feed p s a = (s.1 ++ [s.2], []) :=
  if_pos ends

lemma feed_inside {a : α} (inside : ¬ p a = true) (s : List (List α) × List α) : feed p s a = (s.1, s.2 ++ [a]) :=
  if_neg inside

lemma feed_pieces : ∀ s : List (List α) × List α,
    (list.foldl (feed p) s).1 ++ [(list.foldl (feed p) s).2] = s.1 ++ (list.splitOnP p).modifyHead (s.2 ++ ·) := by
  induction list with
  | nil =>
    intro s
    rw [splitOnP_nil, foldl_nil, modifyHead_cons, append_nil]
  | cons a list ih =>
    intro s
    rw [foldl_cons, ih, splitOnP_cons_eq_if_modifyHead, feed]
    obtain ⟨first, rest, split⟩ := exists_cons_of_ne_nil (splitOnP_ne_nil p list)
    rw [split]
    by_cases ends : p a = true
    · rw [if_pos ends, if_pos ends, append_assoc]
      simp
    · rw [if_neg ends, if_neg ends]
      simp

def complete (list : List α) : List (List α) := (list.splitOnP p).dropLast

def pending (list : List α) : List α := (list.splitOnP p).getLastD []

lemma feed_start : list.foldl (feed p) ([], []) = (complete p list, pending p list) := by
  have pieces := feed_pieces p list ([], [])
  have split : (list.foldl (feed p) ([], [])).1 ++ [(list.foldl (feed p) ([], [])).2] = list.splitOnP p := by
    rw [pieces]
    obtain ⟨first, rest, split⟩ := exists_cons_of_ne_nil (splitOnP_ne_nil p list)
    rw [split]
    rfl
  unfold complete pending
  rw [← split, dropLast_concat, getLastD_concat]

def words (list : List α) : List (List α) := (list.splitOnP p).filter fun piece => !piece.isEmpty

/-- The number of words that begin; the flag says whether one is under way. -/
def starts : Bool → List α → Nat
  | _, [] => 0
  | inside, a :: list => if p a then starts false list else (if inside then 0 else 1) + starts true list

lemma starts_inside : starts p true list = ((list.splitOnP p).tail.filter fun piece => !piece.isEmpty).length ∧
      starts p false list = (words p list).length := by
  induction list with
  | nil =>
    unfold words
    rw [splitOnP_nil]
    exact ⟨rfl, rfl⟩
  | cons a list ih =>
    obtain ⟨first, rest, split⟩ := exists_cons_of_ne_nil (splitOnP_ne_nil p list)
    unfold words at ih ⊢
    rw [splitOnP_cons_eq_if_modifyHead]
    unfold starts
    rw [split] at ih ⊢
    by_cases ends : p a = true
    · rw [if_pos ends, if_pos ends, if_pos ends]
      exact ⟨ih.2, ih.2⟩
    · rw [if_neg ends, if_neg ends, if_neg ends, ih.1]
      refine ⟨Nat.zero_add _, ?_⟩
      simp [Nat.add_comm]

lemma starts_words : starts p false list = (words p list).length := (starts_inside p list).2

lemma starts_map {β : Type*} (f : β → α) (inside : Bool) (list : List β) :
    starts p inside (list.map f) = starts (fun b => p (f b)) inside list := by
  induction list generalizing inside with
  | nil => rfl
  | cons b list ih =>
    rw [map_cons, starts, starts, ih, ih]

lemma length_splitOnP : (list.splitOnP p).length = list.countP p + 1 := by
  induction list with
  | nil => rfl
  | cons a list ih =>
    rw [splitOnP_cons_eq_if_modifyHead]
    by_cases ends : p a = true
    · rw [if_pos ends, length_cons, ih, countP_cons_of_pos ends]
    · rw [if_neg ends, length_modifyHead, ih, countP_cons_of_neg ends]

end LL320D.Library.Pieces

namespace LL320D.Library.Varint
open List

def size (n : Nat) : Nat := if n > 127 then 2 else 1

def encode (n : Nat) : List UInt8 :=
  if n > 127 then [UInt8.ofNat (n % 128 + 128), UInt8.ofNat (n / 128 % 128)] else [UInt8.ofNat n]

def decode : List UInt8 → Option (Nat × List UInt8)
  | [] => none
  | first :: rest =>
    if first.toNat < 128 then some (first.toNat, rest)
    else
      match rest with
      | [] => none
      | second :: rest => some (first.toNat % 128 + 128 * second.toNat, rest)

@[simp] lemma length_encode (n : Nat) : (encode n).length = size n := by
  unfold encode size
  split <;> rfl

lemma size_le (n : Nat) : size n ≤ 2 := by
  unfold size
  split <;> decide

lemma size_mono {n m : Nat} (le : n ≤ m) : size n ≤ size m := by
  unfold size
  split
  next long => rw [if_pos (Nat.lt_of_lt_of_le long le)]
  next => split <;> decide

lemma decode_encode {n : Nat} (bound : n < 2 ^ 14) (rest : List UInt8) : decode (encode n ++ rest) = some (n, rest) := by
  unfold encode
  split
  next long =>
    have low : (UInt8.ofNat (n % 128 + 128)).toNat = n % 128 + 128 := by
      rw [UInt8.toNat_ofNat']
      omega
    have high : (UInt8.ofNat (n / 128 % 128)).toNat = n / 128 := by
      rw [UInt8.toNat_ofNat']
      omega
    simp only [cons_append, nil_append, decode, low, high]
    rw [if_neg (by omega)]
    simp only [Option.some.injEq, Prod.mk.injEq, and_true]
    omega
  next short =>
    have value : (UInt8.ofNat n).toNat = n := by
      rw [UInt8.toNat_ofNat']
      omega
    simp only [cons_append, nil_append, decode, value]
    rw [if_pos (by omega)]

end LL320D.Library.Varint
