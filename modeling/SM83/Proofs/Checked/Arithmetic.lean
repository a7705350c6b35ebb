import SM83.Cpu.Execute
import SM83.Proofs.Alu.Adder

/-! The arithmetic of the processor with every step checked. A sum or difference that its type does
not hold has no answer, and neither has a shift by as many places as the byte has bits. No operand
and no carry leads there: with the checks every operation answers what it answers without them. -/
namespace SM83.Checked

/-- The result, if the exact one lies between the bounds. -/
def within {α : Type} (least greatest exact : Int) (result : α) : Option α :=
  if least ≤ exact ∧ exact ≤ greatest then some result else none

def addByte (a b : UInt8) : Option UInt8 :=
  within 0 255 (a.toNat + b.toNat) (a + b)

def addWord (a b : UInt16) : Option UInt16 :=
  within 0 65535 (a.toNat + b.toNat) (a + b)

def addDouble (a b : UInt32) : Option UInt32 :=
  within 0 4294967295 (a.toNat + b.toNat) (a + b)

def subtractSigned (a b : Int16) : Option Int16 :=
  within (-32768) 32767 (a.toInt - b.toInt) (a - b)

def shiftByte (value places : UInt8) : Option UInt8 :=
  within 0 7 places.toNat (value <<< places)

def nibbleSum (carryIn : Bool) (a b : UInt8) : Option UInt8 := do
  let sum ← addByte (a &&& 0x0F) (b &&& 0x0F)
  addByte sum carryIn.toUInt8

def byteSum (carryIn : Bool) (a b : UInt8) : Option UInt16 := do
  let sum ← addWord a.toUInt16 b.toUInt16
  addWord sum carryIn.toUInt16

def byteDifference (borrowIn : Bool) (a b : UInt8) : Option Int16 := do
  let difference ← subtractSigned a.toUInt16.toInt16 b.toUInt16.toInt16
  subtractSigned difference borrowIn.toInt16

def nibbleDifference (borrowIn : Bool) (a b : UInt8) : Option Int16 :=
  byteDifference borrowIn (a &&& 0x0F) (b &&& 0x0F)

def maskedSum (mask a b : UInt16) : Option UInt16 :=
  addWord (a &&& mask) (b &&& mask)

def wordSum (a b : UInt16) : Option UInt32 :=
  addDouble a.toUInt32 b.toUInt32

def addWithCarry (carryIn : Bool) (a b : UInt8) : Option (UInt8 × Flags) := do
  let whole ← byteSum carryIn a b
  let nibbles ← nibbleSum carryIn a b
  let sum := whole.toUInt8
  return (sum,
    { zero := sum == 0
      subtract := false
      halfCarry := nibbles > 0x0F
      carry := whole > 0xFF })

def subtractWithBorrow (borrowIn : Bool) (a b : UInt8) : Option (UInt8 × Flags) := do
  let whole ← byteDifference borrowIn a b
  let nibbles ← nibbleDifference borrowIn a b
  let difference := whole.toUInt16.toUInt8
  return (difference,
    { zero := difference == 0
      subtract := true
      halfCarry := nibbles < 0
      carry := whole < 0 })

def inc8 (flags : Flags) (value : UInt8) : Option (UInt8 × Flags) := do
  let (sum, after) ← addWithCarry false value 1
  return (sum, { after with carry := flags.carry })

def dec8 (flags : Flags) (value : UInt8) : Option (UInt8 × Flags) := do
  let (difference, after) ← subtractWithBorrow false value 1
  return (difference, { after with carry := flags.carry })

/-- An operation on A; the bitwise ones have nothing to check. -/
def alu (op : AluOp) (rule : LogicRule) (flags : Flags) (a b : UInt8) :
    Option (Option UInt8 × Flags) :=
  match op with
  | .add => AluOp.apply.stored <$> addWithCarry false a b
  | .adc => AluOp.apply.stored <$> addWithCarry flags.carry a b
  | .sub => AluOp.apply.stored <$> subtractWithBorrow false a b
  | .sbc => AluOp.apply.stored <$> subtractWithBorrow flags.carry a b
  | .cp => (fun answer => (none, answer.2)) <$> subtractWithBorrow false a b
  | .and | .xor | .or => some (op.apply rule flags a b)

def add16 (a b : UInt16) : Option (UInt16 × Flags) := do
  let low ← maskedSum 0x00FF a b
  return (a + b,
    { zero := a + b == 0
      subtract := false
      halfCarry := low > 0x00FF
      carry := low > 0x00FF })

def add16Hardware (flags : Flags) (a b : UInt16) : Option (UInt16 × Flags) := do
  let low ← maskedSum 0x0FFF a b
  let whole ← wordSum a b
  return (a + b,
    { flags with
      subtract := false
      halfCarry := low > 0x0FFF
      carry := whole > 0xFFFF })

def addOffset (base : UInt16) (offset : Int8) : Option (UInt16 × Flags) := do
  let extended := Word.ofSigned offset
  let nibbles ← maskedSum 0x000F base extended
  let low ← maskedSum 0x00FF base extended
  return (base + extended,
    { Flags.clear with
      halfCarry := nibbles > 0x000F
      carry := low > 0x00FF })

def bitMask (index : UInt8) : Option UInt8 :=
  shiftByte 1 (Alu.bitPlace index)

def bitTest (flags : Flags) (value index : UInt8) : Option Flags := do
  let mask ← bitMask index
  return { flags with
    zero := value &&& mask == 0
    subtract := false
    halfCarry := true }

def setBit (value index : UInt8) : Option UInt8 :=
  (value ||| ·) <$> bitMask index

def resetBit (value index : UInt8) : Option UInt8 :=
  (fun mask => value &&& ~~~mask) <$> bitMask index

theorem within_eq_some {α : Type} {least greatest exact : Int} {result : α}
    (lower : least ≤ exact) (upper : exact ≤ greatest) :
    within least greatest exact result = some result :=
  if_pos ⟨lower, upper⟩

variable (carry : Bool) (a b : UInt8)

theorem nibbleSum_eq : nibbleSum carry a b = some (Alu.nibbleSum carry a b) := by
  have small := carry.toNat_le
  have bit : carry.toUInt8.toNat = carry.toNat := by cases carry <;> rfl
  have first : addByte (a &&& 0x0F) (b &&& 0x0F) = some ((a &&& 0x0F) + (b &&& 0x0F)) := by
    refine within_eq_some (by omega) ?_
    rw [Alu.toNat_lowNibble, Alu.toNat_lowNibble]
    omega
  rw [nibbleSum, first]
  refine within_eq_some (by omega) ?_
  rw [UInt8.toNat_add, Alu.toNat_lowNibble, Alu.toNat_lowNibble, bit]
  omega

theorem byteSum_eq : byteSum carry a b = some (Alu.byteSum carry a b) := by
  have small := carry.toNat_le
  have left := a.toNat_lt
  have right := b.toNat_lt
  have bit : carry.toUInt16.toNat = carry.toNat := by cases carry <;> rfl
  have first : addWord a.toUInt16 b.toUInt16 = some (a.toUInt16 + b.toUInt16) := by
    refine within_eq_some (by omega) ?_
    rw [UInt8.toNat_toUInt16, UInt8.toNat_toUInt16]
    omega
  rw [byteSum, first]
  refine within_eq_some (by omega) ?_
  rw [UInt16.toNat_add, UInt8.toNat_toUInt16, UInt8.toNat_toUInt16, bit]
  omega

theorem byteDifference_eq : byteDifference carry a b = some (Alu.byteDifference carry a b) := by
  have small := carry.toNat_le
  have left := a.toNat_lt
  have right := b.toNat_lt
  have bit : carry.toInt16.toInt = carry.toNat := by cases carry <;> rfl
  have exact : (a.toUInt16.toInt16 - b.toUInt16.toInt16).toInt = (a.toNat : Int) - b.toNat := by
    have difference := Alu.toInt_byteDifference false a b
    rwa [Alu.byteDifference, show false.toInt16 = 0 from rfl, Int16.sub_zero,
      show ((false.toNat : Nat) : Int) = 0 from rfl, Int.sub_zero] at difference
  have first : subtractSigned a.toUInt16.toInt16 b.toUInt16.toInt16 =
      some (a.toUInt16.toInt16 - b.toUInt16.toInt16) := by
    unfold subtractSigned
    rw [Alu.toInt_signed, Alu.toInt_signed]
    exact within_eq_some (by omega) (by omega)
  rw [byteDifference, first]
  change subtractSigned _ _ = _
  rw [subtractSigned, exact, bit]
  exact within_eq_some (by omega) (by omega)

theorem nibbleDifference_eq :
    nibbleDifference carry a b = some (Alu.nibbleDifference carry a b) :=
  byteDifference_eq carry (a &&& 0x0F) (b &&& 0x0F)

theorem addWithCarry_eq : addWithCarry carry a b = some (Alu.addWithCarry carry a b) := by
  rw [addWithCarry, byteSum_eq, nibbleSum_eq]
  rfl

theorem subtractWithBorrow_eq :
    subtractWithBorrow carry a b = some (Alu.subtractWithBorrow carry a b) := by
  rw [subtractWithBorrow, byteDifference_eq, nibbleDifference_eq]
  rfl

theorem inc8_eq (flags : Flags) (value : UInt8) : inc8 flags value = some (Alu.inc8 flags value) := by
  rw [inc8, addWithCarry_eq]
  rfl

theorem dec8_eq (flags : Flags) (value : UInt8) : dec8 flags value = some (Alu.dec8 flags value) := by
  rw [dec8, subtractWithBorrow_eq]
  rfl

theorem alu_eq (op : AluOp) (rule : LogicRule) (flags : Flags) :
    alu op rule flags a b = some (op.apply rule flags a b) := by
  cases op with
  | add | adc => rw [alu, addWithCarry_eq]; rfl
  | sub | sbc | cp => rw [alu, subtractWithBorrow_eq]; rfl
  | and | xor | or => rfl

/-- A sum of fewer bits than a word has never overflows. -/
theorem maskedSum_eq {mask : UInt16} (narrow : mask.toNat < 32768) (x y : UInt16) :
    maskedSum mask x y = some (Alu.maskedSum mask x y) := by
  have left : (x &&& mask).toNat ≤ mask.toNat := UInt16.toNat_and x mask ▸ Nat.and_le_right
  have right : (y &&& mask).toNat ≤ mask.toNat := UInt16.toNat_and y mask ▸ Nat.and_le_right
  exact within_eq_some (by omega) (by omega)

theorem wordSum_eq (x y : UInt16) : wordSum x y = some (Alu.wordSum x y) := by
  have left := x.toNat_lt
  have right := y.toNat_lt
  refine within_eq_some (by omega) ?_
  rw [UInt16.toNat_toUInt32, UInt16.toNat_toUInt32]
  omega

theorem add16_eq (x y : UInt16) : add16 x y = some (Alu.add16 x y) := by
  rw [add16, maskedSum_eq (by decide)]
  rfl

theorem add16Hardware_eq (flags : Flags) (x y : UInt16) :
    add16Hardware flags x y = some (Alu.add16Hardware flags x y) := by
  rw [add16Hardware, maskedSum_eq (by decide), wordSum_eq]
  rfl

theorem addOffset_eq (base : UInt16) (offset : Int8) :
    addOffset base offset = some (Alu.addOffset base offset) := by
  simp only [addOffset, maskedSum_eq (show (0x000F : UInt16).toNat < 32768 by decide),
    maskedSum_eq (show (0x00FF : UInt16).toNat < 32768 by decide)]
  rfl

theorem bitMask_eq (index : UInt8) : bitMask index = some (Alu.bitMask index) := by
  have place : (Alu.bitPlace index).toNat ≤ 7 := by
    rw [Alu.bitPlace, UInt8.toNat_and]
    exact Nat.and_le_right
  exact within_eq_some (by omega) (by omega)

theorem bitTest_eq (flags : Flags) (value index : UInt8) :
    bitTest flags value index = some (Alu.bitTest flags value index) := by
  rw [bitTest, bitMask_eq]
  rfl

theorem setBit_eq (value index : UInt8) :
    setBit value index = some (Alu.setBit value index) := by
  rw [setBit, bitMask_eq]
  rfl

theorem resetBit_eq (value index : UInt8) :
    resetBit value index = some (Alu.resetBit value index) := by
  rw [resetBit, bitMask_eq]
  rfl

end SM83.Checked
