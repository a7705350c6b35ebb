import Mathlib.Data.FinEnum
import SM83.Instruction.Opcode

/-! Opcodes put together from their fields, and the number that a field gives to each operand.
Splitting an opcode and putting it together are inverse to each other. So are the number of an
operand and the operand of a number, up to the bits that the field has. -/
namespace SM83

namespace Opcode

/-- The opcode with the fields `x`, `y` and `z`. -/
def ofFields (x y z : UInt8) : UInt8 := x <<< 6 ||| y <<< 3 ||| z

/-- The field `y` with the parts `p` and `q`. -/
def ofParts (p q : UInt8) : UInt8 := p <<< 1 ||| q

/-- The fields of an opcode fit into their bits and make up the opcode, and `p` and `q` make up
`y`. -/
theorem fields_spec : ∀ opcode,
    (xField opcode < 4 ∧ yField opcode < 8 ∧ zField opcode < 8 ∧
      pField opcode < 4 ∧ qField opcode < 2) ∧
    ofFields (xField opcode) (yField opcode) (zField opcode) = opcode ∧
    ofParts (pField opcode) (qField opcode) = yField opcode := by
  decide +kernel

theorem fields_lt (opcode : UInt8) :
    xField opcode < 4 ∧ yField opcode < 8 ∧ zField opcode < 8 ∧
      pField opcode < 4 ∧ qField opcode < 2 :=
  (fields_spec opcode).1

theorem ofFields_fields (opcode : UInt8) :
    ofFields (xField opcode) (yField opcode) (zField opcode) = opcode :=
  (fields_spec opcode).2.1

theorem ofParts_parts (opcode : UInt8) : ofParts (pField opcode) (qField opcode) = yField opcode :=
  (fields_spec opcode).2.2

theorem eq_of_lt_two {n : UInt8} (small : n < 2) : n = 0 ∨ n = 1 := by
  grind

theorem eq_of_lt_four {n : UInt8} (small : n < 4) : n = 0 ∨ n = 1 ∨ n = 2 ∨ n = 3 := by
  grind

theorem eq_of_lt_eight {n : UInt8} (small : n < 8) :
    n = 0 ∨ n = 1 ∨ n = 2 ∨ n = 3 ∨ n = 4 ∨ n = 5 ∨ n = 6 ∨ n = 7 := by
  grind

theorem mask_lt_four (n : UInt8) : n &&& 0x03 < 4 :=
  UInt8.lt_iff_toNat_lt.mpr (Nat.lt_of_le_of_lt Nat.and_le_right (by decide))

theorem mask_lt_eight (n : UInt8) : n &&& 0x07 < 8 :=
  UInt8.lt_iff_toNat_lt.mpr (Nat.lt_of_le_of_lt Nat.and_le_right (by decide))

theorem mask_of_lt_four {n : UInt8} (small : n < 4) : n &&& 0x03 = n := by
  obtain rfl | rfl | rfl | rfl := eq_of_lt_four small <;> rfl

theorem mask_of_lt_eight {n : UInt8} (small : n < 8) : n &&& 0x07 = n := by
  obtain rfl | rfl | rfl | rfl | rfl | rfl | rfl | rfl := eq_of_lt_eight small <;> rfl

/-- A byte below a bound, counted from zero. -/
theorem exists_fin {byte : UInt8} {bound : Nat} (below : byte.toNat < bound) :
    ∃ n : Fin bound, byte = UInt8.ofNat n :=
  ⟨⟨byte.toNat, below⟩, by simp⟩

theorem fields_ofFields {x y z : UInt8} (hx : x < 4) (hy : y < 8) (hz : z < 8) :
    xField (ofFields x y z) = x ∧ yField (ofFields x y z) = y ∧ zField (ofFields x y z) = z := by
  obtain ⟨x, rfl⟩ := exists_fin (UInt8.lt_iff_toNat_lt.mp hx)
  obtain ⟨y, rfl⟩ := exists_fin (UInt8.lt_iff_toNat_lt.mp hy)
  obtain ⟨z, rfl⟩ := exists_fin (UInt8.lt_iff_toNat_lt.mp hz)
  have all : ∀ (x : Fin 4) (y z : Fin 8),
      let opcode := ofFields (UInt8.ofNat x) (UInt8.ofNat y) (UInt8.ofNat z)
      xField opcode = UInt8.ofNat x ∧ yField opcode = UInt8.ofNat y ∧
        zField opcode = UInt8.ofNat z := by
    decide +kernel
  exact all x y z

end Opcode

namespace Operand8

def index : Operand8 → UInt8
  | b => 0
  | c => 1
  | d => 2
  | e => 3
  | h => 4
  | l => 5
  | atHL => 6
  | a => 7

@[simp] theorem index_ofIndex (n : UInt8) : (ofIndex n).index = n &&& 0x07 := by
  obtain h | h | h | h | h | h | h | h := Opcode.eq_of_lt_eight (Opcode.mask_lt_eight n) <;>
    rw [ofIndex, h] <;> rfl

@[simp] theorem ofIndex_index (operand : Operand8) : ofIndex operand.index = operand := by
  cases operand <;> rfl

theorem index_lt (operand : Operand8) : operand.index < 8 := by
  cases operand <;> decide

end Operand8

namespace Operand16

def index : Operand16 → UInt8
  | bc => 0
  | de => 1
  | hl => 2
  | sp => 3

@[simp] theorem index_ofIndex (n : UInt8) : (ofIndex n).index = n &&& 0x03 := by
  obtain h | h | h | h := Opcode.eq_of_lt_four (Opcode.mask_lt_four n) <;>
    rw [ofIndex, h] <;> rfl

end Operand16

namespace StackPair

def index : StackPair → UInt8
  | bc => 0
  | de => 1
  | hl => 2
  | af => 3

@[simp] theorem index_ofIndex (n : UInt8) : (ofIndex n).index = n &&& 0x03 := by
  obtain h | h | h | h := Opcode.eq_of_lt_four (Opcode.mask_lt_four n) <;>
    rw [ofIndex, h] <;> rfl

end StackPair

namespace Indirect

def index : Indirect → UInt8
  | bc => 0
  | de => 1
  | hlInc => 2
  | hlDec => 3

@[simp] theorem index_ofIndex (n : UInt8) : (ofIndex n).index = n &&& 0x03 := by
  obtain h | h | h | h := Opcode.eq_of_lt_four (Opcode.mask_lt_four n) <;>
    rw [ofIndex, h] <;> rfl

end Indirect

namespace Condition

def index : Condition → UInt8
  | nz => 0
  | z => 1
  | nc => 2
  | c => 3

@[simp] theorem index_ofIndex (n : UInt8) : (ofIndex n).index = n &&& 0x03 := by
  obtain h | h | h | h := Opcode.eq_of_lt_four (Opcode.mask_lt_four n) <;>
    rw [ofIndex, h] <;> rfl

end Condition

namespace AluOp

def index : AluOp → UInt8
  | add => 0
  | adc => 1
  | sub => 2
  | sbc => 3
  | and => 4
  | xor => 5
  | or => 6
  | cp => 7

@[simp] theorem index_ofIndex (n : UInt8) : (ofIndex n).index = n &&& 0x07 := by
  obtain h | h | h | h | h | h | h | h := Opcode.eq_of_lt_eight (Opcode.mask_lt_eight n) <;>
    rw [ofIndex, h] <;> rfl

end AluOp

namespace Rotation

def index : Rotation → UInt8
  | rlc => 0
  | rrc => 1
  | rl => 2
  | rr => 3

@[simp] theorem index_ofIndex (n : UInt8) : (ofIndex n).index = n &&& 0x03 := by
  obtain h | h | h | h := Opcode.eq_of_lt_four (Opcode.mask_lt_four n) <;>
    rw [ofIndex, h] <;> rfl

end Rotation

namespace ShiftOp

def index : ShiftOp → UInt8
  | rotate rotation => rotation.index
  | sla => 4
  | sra => 5
  | swap => 6
  | srl => 7

@[simp] theorem index_ofIndex (n : UInt8) : (ofIndex n).index = n &&& 0x07 := by
  have low : n &&& 0x03 = (n &&& 0x07) &&& 0x03 := by
    rw [UInt8.and_assoc]
    rfl
  obtain h | h | h | h | h | h | h | h := Opcode.eq_of_lt_eight (Opcode.mask_lt_eight n) <;>
    rw [ofIndex, h]
  iterate 4
    change (Rotation.ofIndex n).index = _
    rw [Rotation.index_ofIndex, low, h]
    rfl
  all_goals rfl

@[simp] theorem ofIndex_index (op : ShiftOp) : ofIndex op.index = op := by
  cases op with
  | rotate rotation => cases rotation <;> rfl
  | _ => rfl

theorem index_lt (op : ShiftOp) : op.index < 8 := by
  cases op with
  | rotate rotation => cases rotation <;> decide
  | _ => decide

end ShiftOp
end SM83
