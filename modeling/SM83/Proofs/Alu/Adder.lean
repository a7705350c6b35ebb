import Mathlib.Data.FinEnum
import SM83.Alu.Arithmetic

/-! The adder and the subtractor in numbers. A byte operation takes its result modulo 256 and tells
by the carry that the exact result lies outside; the half carry tells the same of the low nibble
modulo 16. -/
namespace SM83.Alu

variable (carry : Bool) (a b : UInt8)

theorem toNat_lowNibble (byte : UInt8) : (byte &&& 0x0F).toNat = byte.toNat % 16 := by
  rw [UInt8.toNat_and]
  exact Nat.and_two_pow_sub_one_eq_mod byte.toNat 4

theorem toNat_nibbleSum :
    (nibbleSum carry a b).toNat = a.toNat % 16 + b.toNat % 16 + carry.toNat := by
  have small := carry.toNat_le
  have bit : carry.toUInt8.toNat = carry.toNat := by cases carry <;> rfl
  simp only [nibbleSum, UInt8.toNat_add, toNat_lowNibble, bit]
  omega

theorem toNat_byteSum : (byteSum carry a b).toNat = a.toNat + b.toNat + carry.toNat := by
  have small := carry.toNat_le
  have first := a.toNat_lt
  have second := b.toNat_lt
  have bit : carry.toUInt16.toNat = carry.toNat := by cases carry <;> rfl
  simp only [byteSum, UInt16.toNat_add, UInt8.toNat_toUInt16, bit]
  omega

theorem toNat_addWithCarry :
    (addWithCarry carry a b).1.toNat = (a.toNat + b.toNat + carry.toNat) % 256 := by
  rw [← toNat_byteSum]
  exact UInt16.toNat_toUInt8 _

theorem carry_addWithCarry :
    (addWithCarry carry a b).2.carry = decide (255 < a.toNat + b.toNat + carry.toNat) := by
  rw [← toNat_byteSum]
  exact decide_eq_decide.mpr UInt16.lt_iff_toNat_lt

theorem halfCarry_addWithCarry :
    (addWithCarry carry a b).2.halfCarry =
      decide (15 < a.toNat % 16 + b.toNat % 16 + carry.toNat) := by
  rw [← toNat_nibbleSum]
  exact decide_eq_decide.mpr UInt8.lt_iff_toNat_lt

/-- A byte fits into a signed word. -/
theorem toInt_signed : ∀ byte : UInt8, byte.toUInt16.toInt16.toInt = byte.toNat := by
  decide +kernel

theorem toInt_byteDifference :
    (byteDifference carry a b).toInt = (a.toNat : Int) - b.toNat - carry.toNat := by
  have small := carry.toNat_le
  have first := a.toNat_lt
  have second := b.toNat_lt
  have bit : carry.toInt16.toInt = carry.toNat := by cases carry <;> rfl
  have inner : ((a.toNat : Int) - b.toNat).bmod (2 ^ 16) = a.toNat - b.toNat :=
    Int.bmod_eq_of_le (by omega) (by omega)
  simp only [byteDifference, Int16.toInt_sub, toInt_signed, bit, inner]
  exact Int.bmod_eq_of_le (by omega) (by omega)

theorem toInt_nibbleDifference :
    (nibbleDifference carry a b).toInt =
      (a.toNat % 16 : Nat) - (b.toNat % 16 : Nat) - carry.toNat := by
  rw [← toNat_lowNibble, ← toNat_lowNibble]
  exact toInt_byteDifference carry (a &&& 0x0F) (b &&& 0x0F)

/-- The byte of a signed word counts modulo 256. -/
theorem toNat_lowByte (word : Int16) :
    (word.toUInt16.toUInt8.toNat : Int) = word.toInt % 256 := by
  change ((word.toBitVec.toNat % 256 : Nat) : Int) = word.toBitVec.toInt % 256
  rw [BitVec.toInt_eq_toNat_cond]
  split <;> omega

theorem toNat_subtractWithBorrow :
    ((subtractWithBorrow carry a b).1.toNat : Int) =
      ((a.toNat : Int) - b.toNat - carry.toNat) % 256 := by
  rw [← toInt_byteDifference]
  exact toNat_lowByte _

theorem carry_subtractWithBorrow :
    (subtractWithBorrow carry a b).2.carry = decide (a.toNat < b.toNat + carry.toNat) := by
  have difference := toInt_byteDifference carry a b
  refine decide_eq_decide.mpr (Int16.lt_iff_toInt_lt.trans ?_)
  rw [difference, Int16.toInt_zero]
  omega

theorem halfCarry_subtractWithBorrow :
    (subtractWithBorrow carry a b).2.halfCarry =
      decide (a.toNat % 16 < b.toNat % 16 + carry.toNat) := by
  have difference := toInt_nibbleDifference carry a b
  refine decide_eq_decide.mpr (Int16.lt_iff_toInt_lt.trans ?_)
  rw [difference, Int16.toInt_zero]
  omega

end SM83.Alu
