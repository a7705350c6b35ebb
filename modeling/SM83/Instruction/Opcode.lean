import SM83.Instruction.Basic

/-!
The opcode map. An opcode is split into fields: `x` is its top two bits, `y` the three below, `z`
the low three; `y` in turn is `p`, its high two bits, and `q`, its low one. Eleven opcodes stand
for nothing, and one leads to a second map of 256 codes, all of them in use.
-/

namespace SM83

/-- What an opcode stands for before the bytes behind it are known. -/
inductive Template where
  | complete (instruction : Instruction)
  | withByte (build : UInt8 → Instruction)
  | withWord (build : UInt16 → Instruction)
  | illegal

namespace Opcode

def xField (opcode : UInt8) : UInt8 := opcode >>> 6

def yField (opcode : UInt8) : UInt8 := opcode >>> 3 &&& 0x07

def zField (opcode : UInt8) : UInt8 := opcode &&& 0x07

def pField (opcode : UInt8) : UInt8 := opcode >>> 4 &&& 0x03

def qField (opcode : UInt8) : UInt8 := opcode >>> 3 &&& 0x01

/-- The second map: the code behind the extension byte. -/
def extended (code : UInt8) : Instruction :=
  let target := Operand8.ofIndex (zField code)
  match (xField code).toNat with
  | 0 => .shift (ShiftOp.ofIndex (yField code)) target
  | 1 => .bit (yField code) target
  | 2 => .res (yField code) target
  | _ => .set (yField code) target

/-- A displacement is the byte behind the opcode, taken as signed. -/
def withOffset (build : Int8 → Instruction) : Template :=
  .withByte fun value => build value.toInt8

/-- Opcodes from 00 to 3F, by `z`. -/
def firstQuarter (y z p q : UInt8) : Template :=
  match z.toNat with
  | 0 =>
    match y.toNat with
    | 0 => .complete .nop
    | 1 => .withWord .storeSP
    | 2 => .complete .stop
    | 3 => withOffset (.jr none)
    | _ => withOffset (.jr (some (Condition.ofIndex y)))
  | 1 =>
    if q = 0 then .withWord (.ldImmediate16 (Operand16.ofIndex p))
    else .complete (.addHL (Operand16.ofIndex p))
  | 2 =>
    if q = 0 then .complete (.storeA (.indirect (Indirect.ofIndex p)))
    else .complete (.loadA (.indirect (Indirect.ofIndex p)))
  | 3 =>
    if q = 0 then .complete (.inc16 (Operand16.ofIndex p))
    else .complete (.dec16 (Operand16.ofIndex p))
  | 4 => .complete (.inc (Operand8.ofIndex y))
  | 5 => .complete (.dec (Operand8.ofIndex y))
  | 6 => .withByte fun value => .ld (Operand8.ofIndex y) (.immediate value)
  | _ =>
    match y.toNat with
    | 4 => .complete .daa
    | 5 => .complete .cpl
    | 6 => .complete .scf
    | 7 => .complete .ccf
    | _ => .complete (.rotateA (Rotation.ofIndex y))

/-- Opcodes from C0 to FF, by `z`. -/
def lastQuarter (y z p q : UInt8) : Template :=
  match z.toNat with
  | 0 =>
    match y.toNat with
    | 4 => .withByte fun offset => .storeA (.high offset)
    | 5 => withOffset .addSP
    | 6 => .withByte fun offset => .loadA (.high offset)
    | 7 => withOffset .ldHLOffset
    | _ => .complete (.ret (some (Condition.ofIndex y)))
  | 1 =>
    if q = 0 then .complete (.pop (StackPair.ofIndex p))
    else
      match p.toNat with
      | 0 => .complete (.ret none)
      | 1 => .complete .reti
      | 2 => .complete .jpHL
      | _ => .complete .ldSPHL
  | 2 =>
    match y.toNat with
    | 4 => .complete (.storeA .highC)
    | 5 => .withWord fun address => .storeA (.absolute address)
    | 6 => .complete (.loadA .highC)
    | 7 => .withWord fun address => .loadA (.absolute address)
    | _ => .withWord (.jp (some (Condition.ofIndex y)))
  | 3 =>
    match y.toNat with
    | 0 => .withWord (.jp none)
    | 1 => .withByte extended
    | 6 => .complete .di
    | 7 => .complete .ei
    | _ => .illegal
  | 4 => if y < 4 then .withWord (.call (some (Condition.ofIndex y))) else .illegal
  | 5 =>
    if q = 0 then .complete (.push (StackPair.ofIndex p))
    else if p = 0 then .withWord (.call none)
    else .illegal
  | 6 => .withByte fun value => .alu (AluOp.ofIndex y) (.immediate value)
  | _ => .complete (.rst (y <<< 3))

def template (opcode : UInt8) : Template :=
  let y := yField opcode
  let z := zField opcode
  match (xField opcode).toNat with
  | 0 => firstQuarter y z (pField opcode) (qField opcode)
  | 1 =>
    if opcode = 0x76 then .complete .halt
    else .complete (.ld (Operand8.ofIndex y) (.operand (Operand8.ofIndex z)))
  | 2 => .complete (.alu (AluOp.ofIndex y) (.operand (Operand8.ofIndex z)))
  | _ => lastQuarter y z (pField opcode) (qField opcode)

end Opcode

end SM83
