import SM83.Proofs.Alu.MultiByte

/-! Additions of words in numbers. The sum of the low bits of two words tells the carry out of them;
a displacement is added as the word that its sign extends it to. So words are added as their bytes
are, the high ones with the carry of the low ones. -/
namespace SM83

namespace Word

/-- A displacement as a word counts modulo the address space. -/
theorem toNat_ofSigned (offset : Int8) :
    ((ofSigned offset).toNat : Int) = offset.toInt % 65536 := by
  rw [← Int8.toInt_toInt16]
  change (offset.toInt16.toBitVec.toNat : Int) = offset.toInt16.toBitVec.toInt % 65536
  rw [BitVec.toInt_eq_toNat_cond]
  split <;> omega

/-- The byte that a displacement is encoded as counts modulo 256. -/
theorem toNat_toUInt8 (offset : Int8) : (offset.toUInt8.toNat : Int) = offset.toInt % 256 := by
  change (offset.toBitVec.toNat : Int) = offset.toBitVec.toInt % 256
  rw [BitVec.toInt_eq_toNat_cond]
  split <;> omega

theorem low_ofSigned (offset : Int8) : low (ofSigned offset) = offset.toUInt8 := by
  have word := toNat_ofSigned offset
  have byte := toNat_toUInt8 offset
  apply UInt8.toNat_inj.mp
  rw [toNat_low]
  omega

/-- The high byte repeats the sign. -/
theorem high_ofSigned (offset : Int8) :
    high (ofSigned offset) = if offset < 0 then 0xFF else 0 := by
  have word := toNat_ofSigned offset
  have lower := offset.le_toInt
  have upper := offset.toInt_lt
  apply UInt8.toNat_inj.mp
  rw [toNat_high]
  split
  case isTrue negative =>
    have below : offset.toInt < 0 := Int8.lt_iff_toInt_lt.mp negative
    change _ = 255
    omega
  case isFalse positive =>
    have above : ¬offset.toInt < 0 := fun below => positive (Int8.lt_iff_toInt_lt.mpr below)
    change _ = 0
    omega

end Word

namespace Alu

variable (flags : Flags) (a b : UInt16)

theorem toNat_maskedSum {mask : UInt16} {places : Nat} (low : mask.toNat = 2 ^ places - 1)
    (narrow : places < 16) :
    (maskedSum mask a b).toNat = a.toNat % 2 ^ places + b.toNat % 2 ^ places := by
  have kept (word : UInt16) : (word &&& mask).toNat = word.toNat % 2 ^ places := by
    rw [UInt16.toNat_and, low, Nat.and_two_pow_sub_one_eq_mod]
  have weight : 2 ^ places ≤ 2 ^ 15 := Nat.pow_le_pow_right (by decide) (by omega)
  have first := Nat.mod_lt a.toNat (Nat.two_pow_pos places)
  have second := Nat.mod_lt b.toNat (Nat.two_pow_pos places)
  rw [maskedSum, UInt16.toNat_add, kept, kept]
  omega

/-- The sum of the low bits exceeds what these bits hold when there is a carry out of them. -/
theorem maskedSum_gt {mask : UInt16} {places : Nat} (low : mask.toNat = 2 ^ places - 1)
    (narrow : places < 16) :
    decide (maskedSum mask a b > mask) =
      decide (2 ^ places ≤ a.toNat % 2 ^ places + b.toNat % 2 ^ places) := by
  have sum := toNat_maskedSum a b low narrow
  have positive := Nat.two_pow_pos places
  refine decide_eq_decide.mpr (UInt16.lt_iff_toNat_lt.trans ?_)
  rw [sum, low]
  omega

theorem wordSum_gt : decide (wordSum a b > 0xFFFF) = decide (2 ^ 16 ≤ a.toNat + b.toNat) := by
  have first := a.toNat_lt
  have second := b.toNat_lt
  refine decide_eq_decide.mpr (UInt32.lt_iff_toNat_lt.trans ?_)
  rw [wordSum, UInt32.toNat_add, UInt16.toNat_toUInt32, UInt16.toNat_toUInt32]
  change 65535 < _ ↔ _
  omega

theorem halfCarry_add16 :
    (add16 a b).2.halfCarry = decide (2 ^ 8 ≤ a.toNat % 2 ^ 8 + b.toNat % 2 ^ 8) :=
  maskedSum_gt a b rfl (by decide)

theorem halfCarry_add16Hardware :
    (add16Hardware flags a b).2.halfCarry =
      decide (2 ^ 12 ≤ a.toNat % 2 ^ 12 + b.toNat % 2 ^ 12) :=
  maskedSum_gt a b rfl (by decide)

theorem halfCarry_addOffset (base : UInt16) (offset : Int8) :
    (addOffset base offset).2.halfCarry =
      decide (2 ^ 4 ≤ base.toNat % 2 ^ 4 + (Word.ofSigned offset).toNat % 2 ^ 4) :=
  maskedSum_gt base _ rfl (by decide)

theorem carry_addOffset (base : UInt16) (offset : Int8) :
    (addOffset base offset).2.carry =
      decide (2 ^ 8 ≤ base.toNat % 2 ^ 8 + (Word.ofSigned offset).toNat % 2 ^ 8) :=
  maskedSum_gt base _ rfl (by decide)

/-- The sum of the low bytes of two words. -/
def lowSum : UInt8 × Flags :=
  add8 (Word.low a) (Word.low b)

/-- The sum of the high bytes of two words and the carry that their low bytes leave. -/
def highSum : UInt8 × Flags :=
  adc8 (lowSum a b).2 (Word.high a) (Word.high b)

theorem toNat_lowSum :
    (lowSum a b).1.toNat + 256 * (lowSum a b).2.carry.toNat = a.toNat % 256 + b.toNat % 256 := by
  rw [← Word.toNat_low, ← Word.toNat_low]
  exact adc8_spec .clear _ _

theorem toNat_highSum :
    (highSum a b).1.toNat + 256 * (highSum a b).2.carry.toNat =
      a.toNat / 256 + b.toNat / 256 + (lowSum a b).2.carry.toNat := by
  rw [← Word.toNat_high, ← Word.toNat_high]
  exact adc8_spec _ _ _

theorem toNat_add_bytewise :
    (a + b).toNat = 256 * (highSum a b).1.toNat + (lowSum a b).1.toNat := by
  have low := toNat_lowSum a b
  have high := toNat_highSum a b
  have first := (lowSum a b).1.toNat_lt
  have second := (highSum a b).1.toNat_lt
  rw [UInt16.toNat_add]
  omega

theorem halfCarry_lowSum :
    (lowSum a b).2.halfCarry = decide (2 ^ 4 ≤ a.toNat % 2 ^ 4 + b.toNat % 2 ^ 4) := by
  have carried : (lowSum a b).2.halfCarry = _ := halfCarry_addWithCarry false _ _
  rw [carried, Word.toNat_low, Word.toNat_low, Bool.toNat_false]
  refine decide_eq_decide.mpr ?_
  omega

theorem carry_lowSum :
    (lowSum a b).2.carry = decide (2 ^ 8 ≤ a.toNat % 2 ^ 8 + b.toNat % 2 ^ 8) := by
  have carried : (lowSum a b).2.carry = _ := carry_addWithCarry false _ _
  rw [carried, Word.toNat_low, Word.toNat_low, Bool.toNat_false]
  refine decide_eq_decide.mpr ?_
  omega

theorem halfCarry_highSum :
    (highSum a b).2.halfCarry = decide (2 ^ 12 ≤ a.toNat % 2 ^ 12 + b.toNat % 2 ^ 12) := by
  have low := toNat_lowSum a b
  have bound := (lowSum a b).1.toNat_lt
  have carried : (highSum a b).2.halfCarry = _ := halfCarry_addWithCarry _ _ _
  rw [carried, Word.toNat_high, Word.toNat_high]
  refine decide_eq_decide.mpr ?_
  omega

theorem carry_highSum : (highSum a b).2.carry = decide (2 ^ 16 ≤ a.toNat + b.toNat) := by
  have low := toNat_lowSum a b
  have bound := (lowSum a b).1.toNat_lt
  have carried : (highSum a b).2.carry = _ := carry_addWithCarry _ _ _
  rw [carried, Word.toNat_high, Word.toNat_high]
  refine decide_eq_decide.mpr ?_
  omega

/-- Words are added as their bytes are. The processor's own rule takes both carries from the high
bytes, the other rule takes the carry of the low bytes for both. A displacement is added as its byte
to the low byte and as its sign to the high byte, and both carries are those of the low bytes. -/
theorem words_added_bytewise (flags : Flags) :
    (∀ a b : UInt16,
      let low := add8 (Word.low a) (Word.low b)
      let high := adc8 low.2 (Word.high a) (Word.high b)
      let plain := add16 a b
      let hardware := add16Hardware flags a b
      plain.1.toNat = 256 * high.1.toNat + low.1.toNat ∧
      hardware.1.toNat = 256 * high.1.toNat + low.1.toNat ∧
      hardware.2.halfCarry = high.2.halfCarry ∧ hardware.2.carry = high.2.carry ∧
      plain.2.halfCarry = low.2.carry ∧ plain.2.carry = low.2.carry) ∧
    ∀ (base : UInt16) (offset : Int8),
      let sign : UInt8 := if offset < 0 then 0xFF else 0
      let low := add8 (Word.low base) offset.toUInt8
      let high := adc8 low.2 (Word.high base) sign
      let moved := addOffset base offset
      moved.1.toNat = 256 * high.1.toNat + low.1.toNat ∧
      moved.2.halfCarry = low.2.halfCarry ∧ moved.2.carry = low.2.carry := by
  constructor
  · intro a b low high plain hardware
    have carried : plain.2.halfCarry = low.2.carry :=
      (halfCarry_add16 a b).trans (carry_lowSum a b).symm
    refine ⟨toNat_add_bytewise a b, toNat_add_bytewise a b, ?_, ?_, carried, carried⟩
    · exact (halfCarry_add16Hardware flags a b).trans (halfCarry_highSum a b).symm
    · exact (wordSum_gt a b).trans (carry_highSum a b).symm
  · intro base offset sign low high moved
    have first : low = lowSum base (Word.ofSigned offset) := by
      rw [lowSum, Word.low_ofSigned]
    have second : high = highSum base (Word.ofSigned offset) := by
      rw [highSum, ← first, Word.high_ofSigned]
    rw [first, second]
    refine ⟨toNat_add_bytewise base _, ?_, ?_⟩
    · exact (halfCarry_addOffset base offset).trans (halfCarry_lowSum base _).symm
    · exact (carry_addOffset base offset).trans (carry_lowSum base _).symm

end Alu
end SM83
