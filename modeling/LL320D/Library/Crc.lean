import Mathlib

/-! Cyclic redundancy checks bit by bit, for any width and polynomial: reflected (lowest bit
first) and plain (highest bit first). -/

namespace LL320D.Library.Crc

variable {w : Nat}

def shiftRight (polynomial crc : BitVec w) : BitVec w :=
  if crc.getLsbD 0 then (crc >>> 1) ^^^ polynomial else crc >>> 1

def reflectedByte (polynomial crc : BitVec w) (byte : UInt8) : BitVec w :=
  (shiftRight polynomial)^[8] (crc ^^^ byte.toBitVec.setWidth w)

def reflected (polynomial crc : BitVec w) (data : List UInt8) : BitVec w := data.foldl (reflectedByte polynomial) crc

lemma reflected_append (polynomial crc : BitVec w) (first rest : List UInt8) :
    reflected polynomial crc (first ++ rest) = reflected polynomial (reflected polynomial crc first) rest :=
  List.foldl_append

def shiftLeft (polynomial crc : BitVec w) : BitVec w := if crc.msb then (crc <<< 1) ^^^ polynomial else crc <<< 1

def plainByte (polynomial crc : BitVec w) (byte : UInt8) : BitVec w :=
  (shiftLeft polynomial)^[8] (crc ^^^ byte.toBitVec.setWidth w <<< (w - 8))

def plain (polynomial crc : BitVec w) (data : List UInt8) : BitVec w := data.foldl (plainByte polynomial) crc

lemma shiftLeft_xor (polynomial : BitVec w) : Function.Semiconj₂ (shiftLeft polynomial) (· ^^^ ·) (· ^^^ ·) := by
  intro first second
  simp only [shiftLeft, BitVec.msb_xor, BitVec.shiftLeft_xor_distrib]
  cases first.msb <;> cases second.msb <;> simp only [Bool.xor_self, Bool.false_eq_true, reduceIte] <;> grind

end LL320D.Library.Crc
