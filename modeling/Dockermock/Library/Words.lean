import Mathlib.Data.Int.Bitwise
import Mathlib.Algebra.Ring.Int.Defs

/-!
Integers without bound, as Python has them, next to words of a fixed width.
`ofInt` keeps the low bits, so it carries the bitwise operations of the one over
to the other; a word is put together from two halves and taken apart again.
-/

namespace Dockermock.Library

theorem getLsbD_ofInt (width : Nat) (number : Int) (place : Nat) :
    (BitVec.ofInt width number).getLsbD place =
        (decide (place < width) && number.testBit place) := by
  cases number with
  | ofNat number =>
      rw [Int.ofNat_eq_natCast, BitVec.ofInt_natCast, BitVec.getLsbD_ofNat]
      rfl
  | negSucc number =>
      rw [BitVec.ofInt_negSucc_eq_not_ofNat, BitVec.getLsbD_not, BitVec.getLsbD_ofNat]
      by_cases inside : place < width <;> simp [inside, Int.testBit]

theorem testBit_shiftRight (number : Int) (count place : Nat) :
    (number >>> count).testBit place = number.testBit (count + place) := by
  cases number with
  | ofNat number => exact Nat.testBit_shiftRight number
  | negSucc number => exact congrArg Bool.not (Nat.testBit_shiftRight number)

section Bitwise

variable {width : Nat}

theorem ofInt_lor (left right : Int) :
    BitVec.ofInt width (Int.lor left right) =
        BitVec.ofInt width left ||| BitVec.ofInt width right := by
  apply BitVec.eq_of_getLsbD_eq
  intro place _
  rw [BitVec.getLsbD_or, getLsbD_ofInt, getLsbD_ofInt, getLsbD_ofInt, Int.testBit_lor,
    Bool.and_or_distrib_left]

theorem ofInt_land (left right : Int) :
    BitVec.ofInt width (Int.land left right) =
        BitVec.ofInt width left &&& BitVec.ofInt width right := by
  apply BitVec.eq_of_getLsbD_eq
  intro place inside
  rw [BitVec.getLsbD_and, getLsbD_ofInt, getLsbD_ofInt, getLsbD_ofInt, Int.testBit_land]
  simp only [inside, decide_true, Bool.true_and]

theorem ofInt_lnot (number : Int) :
    BitVec.ofInt width (Int.lnot number) = ~~~BitVec.ofInt width number := by
  apply BitVec.eq_of_getLsbD_eq
  intro place inside
  rw [BitVec.getLsbD_not, getLsbD_ofInt, getLsbD_ofInt, Int.testBit_lnot]
  simp only [inside, decide_true, Bool.true_and]

theorem ofInt_shiftLeft (number : Int) (count : Nat) :
    BitVec.ofInt width (number <<< count) = BitVec.ofInt width number <<< count := by
  have power : BitVec.ofInt width (2 ^ count) = BitVec.twoPow width count := by
    rw [← BitVec.toNat_inj, BitVec.toNat_twoPow, ← Nat.cast_ofNat, ← Nat.cast_pow,
      BitVec.ofInt_natCast, BitVec.toNat_ofNat]
  rw [Int.shiftLeft_eq, BitVec.ofInt_mul, power, BitVec.shiftLeft_eq_mul_twoPow]

theorem testBit_toInt (word : BitVec width) {place : Nat} (inside : place < width) :
    word.toInt.testBit place = word.getLsbD place := by
  have same := getLsbD_ofInt width word.toInt place
  rw [BitVec.ofInt_toInt, decide_eq_true inside, Bool.true_and] at same
  exact same.symm

end Bitwise

section Halves

variable {width : Nat}

theorem append_injective {high high' low low' : BitVec width} (same : high ++ low = high' ++ low') :
    high = high' ∧ low = low' := by
  constructor
  · apply BitVec.eq_of_getLsbD_eq
    intro place inside
    have bit := congrArg (fun word => word.getLsbD (width + place)) same
    have upper : ¬ width + place < width := by omega
    simpa [BitVec.getLsbD_append, upper] using bit
  · apply BitVec.eq_of_getLsbD_eq
    intro place inside
    have bit := congrArg (fun word => word.getLsbD place) same
    simpa [BitVec.getLsbD_append, inside] using bit

/-- The mask of the low half. -/
def lowMask (width : Nat) : Int := ((2 ^ width - 1 : Nat) : Int)

theorem testBit_land_lowMask (number : Int) (place : Nat) :
    (Int.land number (lowMask width)).testBit place =
        (decide (place < width) && number.testBit place) := by
  rw [Int.testBit_land, Bool.and_comm]
  exact congrArg (· && number.testBit place) (Nat.testBit_two_pow_sub_one width place)

theorem ofInt_land_lowMask (number : Int) :
    BitVec.ofInt width (Int.land number (lowMask width)) = BitVec.ofInt width number := by
  apply BitVec.eq_of_getLsbD_eq
  intro place inside
  rw [getLsbD_ofInt, getLsbD_ofInt, testBit_land_lowMask]
  simp only [inside, decide_true, Bool.true_and]

theorem halves_append (number : Int) :
    BitVec.ofInt width (Int.land (number >>> width) (lowMask width)) ++
      BitVec.ofInt width (Int.land number (lowMask width)) =
          BitVec.ofInt (width + width) number := by
  rw [ofInt_land_lowMask, ofInt_land_lowMask]
  apply BitVec.eq_of_getLsbD_eq
  intro place inside
  rw [BitVec.getLsbD_append, getLsbD_ofInt, getLsbD_ofInt, getLsbD_ofInt, testBit_shiftRight]
  split
  · rename_i low
    simp only [low, inside, decide_true]
  · rename_i high
    have upper : place - width < width := by omega
    have again : width + (place - width) = place := by omega
    simp only [upper, inside, again, decide_true]

/-- Put together from a masked and a signed half, the number gives the word of the two. -/
theorem ofInt_join (high low : BitVec width) :
    BitVec.ofInt (width + width)
      (Int.lor (Int.land low.toInt (lowMask width)) (high.toInt <<< width)) = high ++ low := by
  apply BitVec.eq_of_getLsbD_eq
  intro place inside
  rw [ofInt_lor, ofInt_shiftLeft, BitVec.getLsbD_or, BitVec.getLsbD_shiftLeft, getLsbD_ofInt,
    getLsbD_ofInt, testBit_land_lowMask, BitVec.getLsbD_append]
  by_cases lower : place < width
  · simp [inside, lower, testBit_toInt]
  · have upper : place - width < width := by omega
    have whole : place - width < width + width := by omega
    simp only [inside, lower, upper, whole, testBit_toInt, decide_true, decide_false,
      Bool.not_false, Bool.true_and, Bool.false_and, Bool.and_false, Bool.false_or, if_false]

end Halves

end Dockermock.Library
