import LL320D.TranMac

/-! The texts of addresses and bytes: which are accepted, and when they read back. -/

namespace LL320D.TranMac
open List

variable {text hex : List UInt8}

abbrev Pair := UInt8 × UInt8

def Pair.Digits (pair : Pair) : Prop := hexChar2HexData pair.1 ≠ 0xFF ∧ hexChar2HexData pair.2 ≠ 0xFF

def Pair.byte (pair : Pair) : UInt8 := 16 * hexChar2HexData pair.1 + hexChar2HexData pair.2

instance (pair : Pair) : Decidable pair.Digits := inferInstanceAs (Decidable (_ ∧ _))

def Pair.read (pair : Pair) : Option UInt8 := if pair.Digits then some pair.byte else none

/-- The six bytes of an address: six pairs of hexadecimal digits, side by side or with single colons between them. -/
def denoted : List UInt8 → Option (List UInt8)
  | [a, b, c, d, e, f, g, h, i, j, k, l] => [(a, b), (c, d), (e, f), (g, h), (i, j), (k, l)].mapM Pair.read
  | [a, b, c₁, c, d, c₂, e, f, c₃, g, h, c₄, i, j, c₅, k, l] =>
    if [c₁, c₂, c₃, c₄, c₅] = replicate 5 colon then
      [(a, b), (c, d), (e, f), (g, h), (i, j), (k, l)].mapM Pair.read
    else none
  | _ => none

/-- Twelve characters with colons that are accepted although they have four or five pairs of digits. -/
def Misread (text : List UInt8) : Prop :=
  text.length = 12 ∧ ∃ places ∈ [[2, 5], [2, 11], [8, 11], [2, 5, 8, 11]],
    ∀ c ∈ text.zipIdx, if c.2 ∈ places then c.1 = colon else hexChar2HexData c.1 ≠ 0xFF

instance (text : List UInt8) : Decidable (Misread text) := inferInstanceAs (Decidable (_ ∧ _))

section

variable {between text hex : List UInt8} {offset count n : Nat} {pair : Pair} {c d : UInt8}

lemma Pair.byte_eq (digits : pair.Digits) :
    ((hexChar2HexData pair.1 <<< 4) &&& 0xF0) + (hexChar2HexData pair.2 &&& 0x0F) = pair.byte := by
  have digit : ∀ n : Fin 256, hexChar2HexData (.ofNat n) ≠ 0xFF →
      (hexChar2HexData (.ofNat n) <<< 4) &&& 0xF0 = 16 * hexChar2HexData (.ofNat n) ∧
        hexChar2HexData (.ofNat n) &&& 0x0F = hexChar2HexData (.ofNat n) := by decide +kernel
  have high := digit ⟨pair.1.toNat, pair.1.toNat_lt⟩
  have low := digit ⟨pair.2.toNat, pair.2.toNat_lt⟩
  simp only [UInt8.ofNat_toNat] at high low
  rw [(high digits.1).1, (low digits.2).2, byte]

lemma macstrLoop_pair (digits : Pair.Digits (c, d)) (few : count < 6) (offset) :
    macstrLoop offset count hex (c :: d :: text) =
      macstrLoop (offset + 2) (count + 1) (hex.set count (Pair.byte (c, d))) text := by
  have other : c ≠ colon := by
    rintro rfl
    exact digits.1 rfl
  rw [macstrLoop, if_neg other, if_neg (not_or.mpr digits), if_neg (by omega), Pair.byte_eq digits]

lemma macstrLoop_colon (place : offset ∈ [2, 5, 8, 11, 14]) :
    macstrLoop offset count hex (colon :: text) = macstrLoop (offset + 1) count hex text := by
  cases text <;> simp [macstrLoop, place]

lemma mapM_read {pairs : List Pair} {bytes} :
    pairs.mapM Pair.read = some bytes ↔ (∀ pair ∈ pairs, pair.Digits) ∧ pairs.map Pair.byte = bytes := by
  induction pairs generalizing bytes with
  | nil => simp
  | cons pair pairs ih =>
    simp only [mapM_cons, Pair.read, Option.bind_eq_bind, Option.bind_eq_some_iff, ih, forall_mem_cons, map_cons]
    grind

lemma length_denoted {bytes} (denotes : denoted text = some bytes) : bytes.length = 6 := by
  unfold denoted at denotes
  split at denotes
  · rw [← (mapM_read.mp denotes).2, length_map]
    rfl
  · split at denotes
    · rw [← (mapM_read.mp denotes).2, length_map]
      rfl
    · cases denotes
  · cases denotes

lemma denoted_parsed {bytes} (denotes : denoted text = some bytes) (room : 6 ≤ hex.length) :
    macstrToHex text hex = (true, bytes ++ hex.drop 6) := by
  match hex, room with
  | _ :: _ :: _ :: _ :: _ :: _ :: rest, _ =>
    unfold denoted at denotes
    split at denotes
    · obtain ⟨digits, rfl⟩ := mapM_read.mp denotes
      simp only [forall_mem_cons] at digits
      obtain ⟨one, two, three, four, five, six, -⟩ := digits
      simp [macstrToHex, macstrLoop_pair, one, two, three, four, five, six]
      rfl
    · split at denotes
      next colons =>
        cases colons
        obtain ⟨digits, rfl⟩ := mapM_read.mp denotes
        simp only [forall_mem_cons] at digits
        obtain ⟨one, two, three, four, five, six, -⟩ := digits
        simp [macstrToHex, macstrLoop_pair, macstrLoop_colon, one, two, three, four, five, six]
        rfl
      next => cases denotes
    · cases denotes

/-- What is left is not longer than the pairs that may follow and the colons that have a place there. -/
lemma macstrLoop_length (accepted : (macstrLoop offset count hex text).1 = true) (few : count ≤ 6) :
    text.length ≤ 2 * (6 - count) + (17 - offset) / 3 := by
  fun_induction macstrLoop offset count hex text with
  | case1 => exact Nat.zero_le _
  | case2 offset count hex c =>
    simp only [decide_eq_true_eq, mem_cons, not_mem_nil, or_false] at accepted
    rw [length_singleton]
    omega
  | case3 offset count hex d rest place ih =>
    have := ih accepted few
    simp only [mem_cons, not_mem_nil, or_false] at place
    rw [length_cons]
    omega
  | case7 offset count hex c d rest _ _ more ih =>
    have := ih accepted (by omega)
    rw [length_cons, length_cons]
    omega
  | _ => cases accepted

lemma macstrLoop_drop : (macstrLoop offset count hex text).2.drop 6 = hex.drop 6 := by
  fun_induction macstrLoop offset count hex text with
  | case3 _ _ _ _ _ _ ih => exact ih
  | case7 _ _ _ _ _ _ _ _ few ih => rw [ih, drop_set_of_lt (by omega)]
  | _ => rfl

lemma length_macstrLoop : (macstrLoop offset count hex text).2.length = hex.length := by
  fun_induction macstrLoop offset count hex text with
  | case3 _ _ _ _ _ _ ih => exact ih
  | case7 _ _ _ _ _ _ _ _ _ ih => rw [ih, length_set]
  | _ => rfl

lemma length_macstrToHex (text hex : List UInt8) : (macstrToHex text hex).2.length = hex.length := by
  rw [macstrToHex]
  split
  · exact length_macstrLoop
  · rfl

/-- What the loop accepts starts with a colon at one of its places, or with a pair of digits. -/
lemma accepted_cases (accepted : (macstrLoop offset count hex (c :: d :: text)).1 = true) :
    (c = colon ∧ offset ∈ [2, 5, 8, 11, 14] ∧ (macstrLoop (offset + 1) count hex (d :: text)).1 = true) ∨
      Pair.Digits (c, d) ∧ ∃ hex, (macstrLoop (offset + 2) (count + 1) hex text).1 = true := by
  rw [macstrLoop] at accepted
  split at accepted
  next isColon =>
    split at accepted
    next place => exact .inl ⟨isColon, place, accepted⟩
    next => cases accepted
  next =>
    split at accepted
    next => cases accepted
    next digits =>
      split at accepted
      next => cases accepted
      next => exact .inr ⟨not_or.mp digits, _, accepted⟩

lemma accepted_pair (accepted : (macstrLoop offset count hex (c :: d :: text)).1 = true)
    (start : c ≠ colon ∨ offset ∉ [2, 5, 8, 11, 14]) :
    Pair.Digits (c, d) ∧ ∃ hex, (macstrLoop (offset + 2) (count + 1) hex text).1 = true := by
  rcases accepted_cases accepted with ⟨isColon, place, -⟩ | pair
  · exact (start.elim (absurd isColon) (absurd place))
  · exact pair

/-- Behind the first pair of seventeen characters, where no colon can stand in place of a byte. -/
lemma accepted_group {c d e : UInt8} (accepted : (macstrLoop offset count hex (c :: d :: e :: text)).1 = true)
    (place : offset + 1 = 3 * count) (few : count < 6) (size : text.length = 3 * (5 - count)) :
    c = colon ∧ Pair.Digits (d, e) ∧ ∃ hex, (macstrLoop (offset + 3) (count + 1) hex text).1 = true := by
  have separates : c = colon := by
    by_contra other
    obtain ⟨-, hex, accepted⟩ := accepted_pair accepted (.inl other)
    have short := macstrLoop_length accepted (by omega)
    rw [length_cons] at short
    omega
  subst separates
  rw [macstrLoop_colon (by simp only [mem_cons, not_mem_nil, or_false]; omega)] at accepted
  exact ⟨rfl, accepted_pair accepted (.inr (by simp only [mem_cons, not_mem_nil, or_false]; omega))⟩

end

lemma accepted_seventeen (size : text.length = 17) (accepted : (macstrLoop 0 0 hex text).1 = true) :
    (denoted text).isSome := by
  match text, size with
  | [a, b, c₁, c, d, c₂, e, f, c₃, g, h, c₄, i, j, c₅, k, l], _ =>
    obtain ⟨one, _, accepted⟩ := accepted_pair accepted (.inr (by decide))
    obtain ⟨rfl, two, _, accepted⟩ := accepted_group accepted rfl (by decide) rfl
    obtain ⟨rfl, three, _, accepted⟩ := accepted_group accepted rfl (by decide) rfl
    obtain ⟨rfl, four, _, accepted⟩ := accepted_group accepted rfl (by decide) rfl
    obtain ⟨rfl, five, _, accepted⟩ := accepted_group accepted rfl (by decide) rfl
    obtain ⟨rfl, six, -⟩ := accepted_group accepted rfl (by decide) rfl
    simp [denoted, Pair.read, one, two, three, four, five, six]

/-- Colons may stand at 2 and 5, at 2 and 11, at 8 and 11 or at all four places: elsewhere an odd number of characters
would be left between them. -/
lemma accepted_twelve (size : text.length = 12) (accepted : (macstrLoop 0 0 hex text).1 = true) :
    (denoted text).isSome ∨ Misread text := by
  match text, size with
  | [a, b, c, d, e, f, g, h, i, j, k, l], _ =>
    obtain ⟨ab, _, accepted⟩ := accepted_pair accepted (.inr (by decide))
    rcases accepted_cases accepted with ⟨rfl, -, accepted⟩ | ⟨cd, _, accepted⟩
    · obtain ⟨de, _, accepted⟩ := accepted_pair accepted (.inr (by decide))
      rcases accepted_cases accepted with ⟨rfl, -, accepted⟩ | ⟨fg, _, accepted⟩
      · obtain ⟨gh, _, accepted⟩ := accepted_pair accepted (.inr (by decide))
        rcases accepted_cases accepted with ⟨rfl, -, accepted⟩ | ⟨ij, _, accepted⟩
        · obtain ⟨jk, _, accepted⟩ := accepted_pair accepted (.inr (by decide))
          have last : l = colon := by simpa [macstrLoop] using accepted
          refine .inr ⟨rfl, [2, 5, 8, 11], by decide, ?_⟩
          simp [Pair.Digits] at *
          simp [*]
        · obtain ⟨kl, -⟩ := accepted_pair accepted (.inr (by decide))
          refine .inr ⟨rfl, [2, 5], by decide, ?_⟩
          simp [Pair.Digits] at *
          simp [*]
      · obtain ⟨hi, _, accepted⟩ := accepted_pair accepted (.inr (by decide))
        obtain ⟨jk, _, accepted⟩ := accepted_pair accepted (.inr (by decide))
        have last : l = colon := by simpa [macstrLoop] using accepted
        refine .inr ⟨rfl, [2, 11], by decide, ?_⟩
        simp [Pair.Digits] at *
        simp [*]
    · obtain ⟨ef, _, accepted⟩ := accepted_pair accepted (.inr (by decide))
      obtain ⟨gh, _, accepted⟩ := accepted_pair accepted (.inr (by decide))
      rcases accepted_cases accepted with ⟨rfl, -, accepted⟩ | ⟨ij, _, accepted⟩
      · obtain ⟨jk, _, accepted⟩ := accepted_pair accepted (.inr (by decide))
        have last : l = colon := by simpa [macstrLoop] using accepted
        refine .inr ⟨rfl, [8, 11], by decide, ?_⟩
        simp [Pair.Digits] at *
        simp [*]
      · obtain ⟨kl, -⟩ := accepted_pair accepted (.inr (by decide))
        exact .inl (by simp [denoted, Pair.read, ab, cd, ef, gh, ij, kl])

lemma Misread.accepted {text : List UInt8} (misread : Misread text) (hex) : (macstrToHex text hex).1 = true := by
  obtain ⟨size, places, among, all⟩ := misread
  match text, size with
  | [a, b, c, d, e, f, g, h, i, j, k, l], _ =>
    simp only [mem_cons, not_mem_nil, or_false] at among
    rcases among with rfl | rfl | rfl | rfl
    all_goals
      simp at all
      have digits (c d : UInt8) : Pair.Digits (c, d) ↔ ¬ hexChar2HexData c = 255 ∧ ¬ hexChar2HexData d = 255 := Iff.rfl
      simp [macstrToHex, macstrLoop_pair, macstrLoop_colon, digits, all, macstrLoop.eq_1]

lemma Misread.not_denoted {text : List UInt8} (misread : Misread text) : denoted text = none := by
  obtain ⟨size, places, among, all⟩ := misread
  match text, size with
  | [a, b, c, d, e, f, g, h, i, j, k, l], _ =>
    have none : hexChar2HexData colon = 0xFF := by decide
    simp only [mem_cons, not_mem_nil, or_false] at among
    rcases among with rfl | rfl | rfl | rfl
    all_goals
      simp at all
      simp [denoted, Pair.read, Pair.Digits, all, none]

lemma accepted_denoted (other : ¬ Misread text) (accepted : (macstrToHex text hex).1 = true) :
    (denoted text).isSome := by
  rw [macstrToHex] at accepted
  split at accepted
  next sized =>
    rcases sized with twelve | seventeen
    · exact (accepted_twelve twelve accepted).resolve_right other
    · exact accepted_seventeen seventeen accepted
  next => cases accepted

lemma loopReads_le {offset count : Nat} {text : List UInt8} : ∀ i ∈ loopReads offset count text, i ≤ offset + text.length := by
  fun_induction loopReads offset count text <;> simp_all <;> grind

/-- Six pairs of digits are accepted and read; what else is accepted is a text of twelve characters with colons, of which
fewer than six bytes are written. No character behind the end of the text is read, and no seventh byte is written. -/
theorem mac_text_parsed (text hex : List UInt8) (_short : text.length < 2 ^ 16) (room : 6 ≤ hex.length) :
    (((macstrToHex text hex).1 = true ↔ (denoted text).isSome) ↔ ¬ Misread text) ∧
      (∀ bytes ∈ denoted text, macstrToHex text hex = (true, bytes ++ hex.drop 6)) ∧
      (macstrToHex text hex).2.drop 6 = hex.drop 6 ∧ ∀ i ∈ macstrReads text, i ≤ text.length := by
  refine ⟨⟨fun exact misread => ?_, fun other => ⟨accepted_denoted other, fun denotes => ?_⟩⟩,
    fun bytes denotes => denoted_parsed denotes room, ?_, ?_⟩
  · have denotes := exact.mp (misread.accepted hex)
    rw [misread.not_denoted] at denotes
    cases denotes
  · obtain ⟨bytes, is⟩ := Option.isSome_iff_exists.mp denotes
    rw [denoted_parsed is room]
  · rw [macstrToHex]
    split
    next => exact macstrLoop_drop
    next => rfl
  · intro i read
    rcases mem_append.mp read with copied | looked
    · exact Nat.le_of_lt_succ (mem_range.mp copied)
    · split at looked
      next => simpa using loopReads_le i looked
      next => cases looked

theorem mac_without_colons_parsed : (macstrToHex (replicate 12 0x37) (replicate 6 0)).1 = true :=
  (mac_text_parsed (replicate 12 0x37) (replicate 6 0) (by decide) (by decide)).1.mpr (by decide) |>.mpr (by decide)

theorem five_bytes_accepted : macstrToHex [0x31, 0x31, colon, 0x32, 0x32, colon, 0x33, 0x33, 0x34, 0x34, 0x35, 0x35]
    (replicate 6 0xFF) = (true, [0x11, 0x22, 0x33, 0x44, 0x55, 0xFF]) := by
  decide

section

variable {destSize : UInt8} {hex : List UInt8}

lemma hexChars_read : ∀ n : Fin 256, (hexChars (.ofNat n)).all (fun c => c ≠ 0 ∧ hexChar2HexData c ≠ 0xFF) ∧
    ((hexChar2HexData (hex2ascii ((UInt8.ofNat n >>> 4) &&& 0x0F)) <<< 4) &&& 0xF0) |||
      (hexChar2HexData (hex2ascii (UInt8.ofNat n &&& 0x0F)) &&& 0x0F) = .ofNat n := by
  decide +kernel

lemma hexstrLoop_byte (byte hexData : UInt8) (src dest k) : hexstrLoop destSize (hexChars byte ++ src) (.ofNat (2 * k)) hexData dest =
    if destSize.toNat ≤ dest.length + 1 then (hexCount (.ofNat (2 * k + 1)), dest ++ [byte])
    else hexstrLoop destSize src (.ofNat (2 * (k + 1))) byte (dest ++ [byte]) := by
  have parity (n : Nat) : UInt8.ofNat n % 2 = .ofNat (n % 2) := by
    apply UInt8.toNat_inj.mp
    simp only [UInt8.toNat_mod, UInt8.toNat_ofNat', UInt8.reduceToNat]
    omega
  have even : UInt8.ofNat (2 * k) % 2 = 0 := (parity _).trans (congrArg _ (Nat.mul_mod_right 2 k))
  have odd : ¬ UInt8.ofNat (2 * k + 1) % 2 = 0 := by
    rw [parity, Nat.mul_add_mod]
    decide
  obtain ⟨digits, whole⟩ := hexChars_read ⟨byte.toNat, byte.toNat_lt⟩
  simp only [UInt8.ofNat_toNat, hexChars, all_cons, Bool.and_eq_true, decide_eq_true_eq] at digits whole
  rw [hexChars, cons_append, cons_append, nil_append, hexstrLoop, if_neg digits.1.1, if_neg digits.1.2, if_pos even, hexstrLoop,
    if_neg digits.2.1.1, if_neg digits.2.1.2, ← UInt8.ofNat_one, ← UInt8.ofNat_add, if_neg odd, whole, ← UInt8.ofNat_add]
  rfl

/-- `offset` is twice the number of bytes, modulo 256, and one less when the last one has filled the destination. -/
lemma hexstrLoop_text (hexData : UInt8) (dest : List UInt8) (room : dest.length < destSize.toNat)
    (fits : dest.length + hex.length ≤ destSize.toNat) :
    hexstrLoop destSize (hex.flatMap hexChars ++ [0]) (.ofNat (2 * dest.length)) hexData dest =
      (hexCount (.ofNat (2 * (dest.length + hex.length) - if dest.length + hex.length = destSize.toNat then 1 else 0)),
        dest ++ hex) := by
  induction hex generalizing hexData dest with
  | nil => simp [hexstrLoop, Nat.ne_of_lt room]
  | cons byte hex ih =>
    have longer : (dest ++ [byte]).length = dest.length + 1 := length_append
    rw [length_cons] at fits ⊢
    rw [flatMap_cons, append_assoc, hexstrLoop_byte]
    split
    next full =>
      obtain rfl : hex = [] := length_eq_zero_iff.mp (by omega)
      rw [length_nil, if_pos (by omega)]
      rfl
    next more =>
      rw [← longer, ih byte (dest ++ [byte]) (by omega) (by omega), longer, append_assoc, singleton_append,
        Nat.add_right_comm, Nat.add_assoc dest.length]

lemma hexCount_iff {n size : Nat} (positive : 0 < n) (small : size < 256) :
    (hexCount (.ofNat (2 * n - if n = size then 1 else 0))).toNat = n ↔ n ≤ 127 ∨ n = 128 ∧ size = 128 := by
  simp only [hexCount, UInt8.toNat_add, UInt8.toNat_div, UInt8.toNat_mod, UInt8.toNat_ofNat', UInt8.reduceToNat]
  split <;> omega

end

/-- The terminator needs a byte more than is asked for, and the count is lost with more than 127 bytes, unless the last of
128 fills the destination. -/
theorem hex_text_round_trip_iff (hex : List UInt8) (positive : 0 < hex.length) (strLen : Nat) (accepted : 2 * hex.length ≤ strLen)
    (destSize : UInt8) (fits : hex.length ≤ destSize.toNat) :
    (∃ text ∈ hex2hexstr hex strLen, text.length ≤ strLen ∧ (hexstrToHex destSize text).1.toNat = hex.length ∧
        (hexstrToHex destSize text).2 = hex ∧ (hexstrToHex destSize text).2.length ≤ destSize.toNat) ↔
      2 * hex.length < strLen ∧ (hex.length ≤ 127 ∨ hex.length = 128 ∧ destSize = 128) := by
  have length : (hex.flatMap hexChars ++ [0]).length = 2 * hex.length + 1 := by
    rw [length_append, length_flatMap]
    simp [hexChars, Nat.mul_comm]
  have nonzero : destSize ≠ 0 := by
    rintro rfl
    exact absurd fits (Nat.not_le.mpr positive)
  have read : hexstrLoop destSize (hex.flatMap hexChars ++ [0]) 0 0 [] = _ :=
    hexstrLoop_text 0 [] (Nat.lt_of_lt_of_le positive fits) (by simpa using fits)
  simp only [length_nil, Nat.zero_add, nil_append] at read
  have full : destSize = 128 ↔ destSize.toNat = 128 := UInt8.toNat_inj.symm
  rw [full, hex2hexstr, if_neg (Nat.not_lt.mpr accepted), ← hexCount_iff positive destSize.toNat_lt]
  simp only [Option.mem_def, Option.some.injEq, exists_eq_left', hexstrToHex, if_neg nonzero, length, read]
  exact and_congr Iff.rfl (and_iff_left ⟨trivial, fits⟩)

theorem two_bytes_round_trip : ∃ text ∈ hex2hexstr [0xA5, 0x07] 5, text.length ≤ 5 ∧ (hexstrToHex 2 text).1.toNat = 2 ∧
    (hexstrToHex 2 text).2 = [0xA5, 0x07] ∧ (hexstrToHex 2 text).2.length ≤ 2 :=
  (hex_text_round_trip_iff [0xA5, 0x07] (by decide) 5 (by decide) 2 (by decide)).mpr (by decide)

theorem hex_text_overflows : hex2hexstr [0xA5] 2 = some [0x41, 0x35, 0] ∧
    (hex2hexstr (replicate 128 0) 257).map (fun text => (hexstrToHex 129 text).1) = some 0 := by
  decide +kernel

end LL320D.TranMac
