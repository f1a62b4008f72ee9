import LL320D.Library.Crc

/-! The register of a reflected check as a polynomial over `ZMod 2`: a pass over data leaves a remainder of its division. -/

namespace LL320D.Library.Crc
open Polynomial AdjoinRoot

variable {w : Nat} (bits : Nat → Bool) (polynomial crc : BitVec w) (n : Nat)

/-- Bits as coefficients, the first of them that of the highest degree. -/
noncomputable def ofBits : Nat → (ZMod 2)[X]
  | 0 => 0
  | n + 1 => X * ofBits n + if bits n then 1 else 0

noncomputable def ofRegister : (ZMod 2)[X] := ofBits crc.getLsbD w

noncomputable def divisor : (ZMod 2)[X] := X ^ w + ofRegister polynomial

noncomputable def message : List UInt8 → (ZMod 2)[X]
  | [] => 0
  | byte :: data => X ^ (8 * data.length) * ofRegister byte.toBitVec + message data

lemma ofBits_first : ofBits bits (n + 1) = (if bits 0 then X ^ n else 0) + ofBits (bits <| · + 1) n := by
  induction n with
  | zero => simp [ofBits]
  | succ n ih =>
    rw [ofBits, ih, ofBits]
    split <;> ring

lemma two_eq_zero : (2 : (ZMod 2)[X]) = 0 := (map_ofNat C 2).symm.trans (map_zero C)

lemma ofBits_xor (more : Nat → Bool) (n : Nat) : ofBits (fun i => bits i ^^ more i) n = ofBits bits n + ofBits more n := by
  induction n with
  | zero => simp [ofBits]
  | succ n ih =>
    rw [ofBits, ih, ofBits, ofBits]
    cases bits n <;> cases more n <;> simp only [Bool.xor_self, Bool.xor_true, Bool.xor_false, Bool.not_false,
      Bool.false_eq_true, reduceIte]
    · ring
    · ring
    · ring
    · linear_combination - two_eq_zero

lemma ofBits_zeros {bits : Nat → Bool} {n : Nat} (zeros : ∀ i, n ≤ i → bits i = false) (m : Nat) :
    ofBits bits (n + m) = X ^ m * ofBits bits n := by
  induction m with
  | zero => simp
  | succ m ih =>
    rw [← Nat.add_assoc, ofBits, ih, zeros _ (Nat.le_add_right n m), pow_succ']
    simp [mul_assoc]

lemma ofBits_degree : (ofBits bits n).degree < n := by
  rw [degree_lt_iff_coeff_zero]
  induction n with
  | zero => simp [ofBits]
  | succ n ih =>
    intro m inside
    obtain ⟨m, rfl⟩ := Nat.exists_eq_add_of_le' (Nat.le_trans n.succ_pos inside)
    rw [ofBits, coeff_add, coeff_X_mul, ih m (Nat.le_of_succ_le_succ inside)]
    split <;> simp [coeff_one]

lemma ofRegister_xor (other : BitVec w) : ofRegister (crc ^^^ other) = ofRegister crc + ofRegister other := by
  rw [ofRegister, ofRegister, ofRegister, ← ofBits_xor]
  exact congrArg (ofBits · w) (funext fun i => BitVec.getLsbD_xor)

lemma ofRegister_setWidth (wide : 8 ≤ w) (byte : BitVec 8) : ofRegister (byte.setWidth w) = X ^ (w - 8) * ofRegister byte := by
  have zeros (i : Nat) (behind : 8 ≤ i) : byte.getLsbD i = false := BitVec.getLsbD_of_ge _ _ behind
  have same : (byte.setWidth w).getLsbD = byte.getLsbD := by
    funext i
    rw [BitVec.getLsbD_setWidth]
    by_cases inside : i < w
    · rw [decide_eq_true inside, Bool.true_and]
    · rw [decide_eq_false inside, zeros i (by omega), Bool.false_and]
  rw [ofRegister, same, ofRegister, ← ofBits_zeros zeros, Nat.add_sub_cancel' wide]

/-- A shift multiplies by `X`, modulo the divisor. -/
lemma shiftRight_mk : mk (divisor polynomial) (ofRegister (shiftRight polynomial crc)) =
    mk (divisor polynomial) (X * ofRegister crc) := by
  have shifted : X * ofRegister crc = (if crc.getLsbD 0 then X ^ w else 0) + ofRegister (crc >>> 1) := by
    cases w with
    | zero => simp [ofRegister, ofBits]
    | succ v =>
      have behind : (crc >>> 1).getLsbD = (crc.getLsbD <| · + 1) :=
        funext fun i => (BitVec.getLsbD_ushiftRight ..).trans (congrArg crc.getLsbD (Nat.add_comm 1 i))
      rw [ofRegister, ofBits_first, ofRegister, behind, ofBits, BitVec.getLsbD_of_ge _ _ (Nat.le_refl _), mul_add, pow_succ']
      simp
  rw [shifted, shiftRight, mk_eq_mk]
  split
  · refine ⟨-1, ?_⟩
    rw [ofRegister_xor, divisor]
    linear_combination ofRegister polynomial * two_eq_zero
  · rw [zero_add, sub_self]
    exact dvd_zero _

lemma reflectedByte_mk (wide : 8 ≤ w) (byte : UInt8) :
    mk (divisor polynomial) (ofRegister (reflectedByte polynomial crc byte)) =
      mk (divisor polynomial) (X ^ 8 * ofRegister crc + X ^ w * ofRegister byte.toBitVec) := by
  have shifts (k : Nat) (crc : BitVec w) : mk (divisor polynomial) (ofRegister ((shiftRight polynomial)^[k] crc)) =
      mk (divisor polynomial) (X ^ k * ofRegister crc) := by
    induction k with
    | zero => simp
    | succ k ih => rw [Function.iterate_succ_apply', shiftRight_mk, map_mul, ih, ← map_mul, ← mul_assoc, pow_succ']
  rw [reflectedByte, shifts, ofRegister_xor, ofRegister_setWidth wide, mul_add, ← mul_assoc, ← pow_add,
    Nat.add_sub_cancel' wide]

lemma reflected_mk (wide : 8 ≤ w) (data : List UInt8) :
    mk (divisor polynomial) (ofRegister (reflected polynomial crc data)) =
      mk (divisor polynomial) (X ^ (8 * data.length) * ofRegister crc + X ^ w * message data) := by
  induction data generalizing crc with
  | nil => simp [reflected, message]
  | cons byte data ih =>
    have first := reflectedByte_mk polynomial crc wide byte
    rw [reflected, List.foldl_cons, ← reflected, ih, map_add, map_mul, first, ← map_mul, ← map_add, message, List.length_cons]
    ring_nf

/-- The register is the remainder of the division. -/
lemma reflected_remainder (wide : 8 ≤ w) (data : List UInt8) : ofRegister (reflected polynomial crc data) =
    (X ^ (8 * data.length) * ofRegister crc + X ^ w * message data) %ₘ divisor polynomial := by
  have : Nontrivial (ZMod 2) := inferInstanceAs (Nontrivial (Fin 2))
  have small : (ofRegister polynomial).degree < w := ofBits_degree ..
  have monic : (divisor polynomial).Monic := monic_X_pow_add small
  have below : (ofRegister (reflected polynomial crc data)).degree < (divisor polynomial).degree := by
    rw [divisor, degree_add_eq_left_of_degree_lt (by rwa [degree_X_pow]), degree_X_pow]
    exact ofBits_degree ..
  exact ((modByMonic_eq_self_iff monic).mpr below).symm.trans
    (modByMonic_eq_of_dvd_sub monic (mk_eq_mk.mp (reflected_mk polynomial crc wide data)))

end LL320D.Library.Crc
