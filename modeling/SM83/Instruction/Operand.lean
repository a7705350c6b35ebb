import SM83.Registers

/-!
Operands of instructions. Each kind is numbered by a field of the opcode, of two or three bits; of
a larger number only those bits count, so every number names an operand.
-/

namespace SM83

/-- A byte operand: a register, or memory at the address in HL. -/
inductive Operand8 where
  | b | c | d | e | h | l | atHL | a
deriving DecidableEq

namespace Operand8

def ofIndex (index : UInt8) : Operand8 :=
  match (index &&& 0x07).toNat with
  | 0 => b
  | 1 => c
  | 2 => d
  | 3 => e
  | 4 => h
  | 5 => l
  | 6 => atHL
  | _ => a

def register? : Operand8 → Option ByteRegister
  | b => some .b
  | c => some .c
  | d => some .d
  | e => some .e
  | h => some .h
  | l => some .l
  | atHL => none
  | a => some .a

def text : Operand8 → String
  | b => "B"
  | c => "C"
  | d => "D"
  | e => "E"
  | h => "H"
  | l => "L"
  | atHL => "(HL)"
  | a => "A"

end Operand8

/-- A byte that an instruction only reads: an operand, or the byte behind the opcode. -/
inductive Source where
  | operand (operand : Operand8)
  | immediate (value : UInt8)
deriving DecidableEq

namespace Source

def text : Source → String
  | operand place => place.text
  | immediate value => "$" ++ Numeral.hexByte value

end Source

inductive Operand16 where
  | bc | de | hl | sp
deriving DecidableEq

namespace Operand16

def ofIndex (index : UInt8) : Operand16 :=
  match (index &&& 0x03).toNat with
  | 0 => bc
  | 1 => de
  | 2 => hl
  | _ => sp

def register : Operand16 → WordRegister
  | bc => .bc
  | de => .de
  | hl => .hl
  | sp => .sp

def text : Operand16 → String
  | bc => "BC"
  | de => "DE"
  | hl => "HL"
  | sp => "SP"

end Operand16

inductive StackPair where
  | bc | de | hl | af
deriving DecidableEq

namespace StackPair

def ofIndex (index : UInt8) : StackPair :=
  match (index &&& 0x03).toNat with
  | 0 => bc
  | 1 => de
  | 2 => hl
  | _ => af

def register : StackPair → WordRegister
  | bc => .bc
  | de => .de
  | hl => .hl
  | af => .af

def text : StackPair → String
  | bc => "BC"
  | de => "DE"
  | hl => "HL"
  | af => "AF"

end StackPair

/-- A pair that holds an address; HL may step up or down once the address is taken. -/
inductive Indirect where
  | bc | de | hlInc | hlDec
deriving DecidableEq

namespace Indirect

def ofIndex (index : UInt8) : Indirect :=
  match (index &&& 0x03).toNat with
  | 0 => bc
  | 1 => de
  | 2 => hlInc
  | _ => hlDec

def text : Indirect → String
  | bc => "(BC)"
  | de => "(DE)"
  | hlInc => "(HL+)"
  | hlDec => "(HL-)"

end Indirect

/-- A place in memory that is exchanged with A alone: a high place is in the last page, at an offset
behind the opcode or in C. -/
inductive Place where
  | indirect (pair : Indirect)
  | absolute (address : UInt16)
  | high (offset : UInt8)
  | highC
deriving DecidableEq

namespace Place

def text : Place → String
  | indirect pair => pair.text
  | absolute address => "($" ++ Numeral.hexWord address ++ ")"
  | high offset => "($" ++ Numeral.hexByte offset ++ ")"
  | highC => "(C)"

def verb : Place → String
  | high _ => "LDH"
  | _ => "LD"

end Place

inductive Condition where
  | nz | z | nc | c
deriving DecidableEq

namespace Condition

def ofIndex (index : UInt8) : Condition :=
  match (index &&& 0x03).toNat with
  | 0 => nz
  | 1 => z
  | 2 => nc
  | _ => c

def holds (flags : Flags) : Condition → Bool
  | nz => !flags.zero
  | z => flags.zero
  | nc => !flags.carry
  | c => flags.carry

def text : Condition → String
  | nz => "NZ"
  | z => "Z"
  | nc => "NC"
  | c => "C"

end Condition

inductive AluOp where
  | add | adc | sub | sbc | and | xor | or | cp
deriving DecidableEq

namespace AluOp

def ofIndex (index : UInt8) : AluOp :=
  match (index &&& 0x07).toNat with
  | 0 => add
  | 1 => adc
  | 2 => sub
  | 3 => sbc
  | 4 => and
  | 5 => xor
  | 6 => or
  | _ => cp

/-- What stands before the source: some operations name A, some do not. -/
def lead : AluOp → String
  | add => "ADD A,"
  | adc => "ADC A,"
  | sub => "SUB "
  | sbc => "SBC A,"
  | and => "AND "
  | xor => "XOR "
  | or => "OR "
  | cp => "CP "

end AluOp

/-- A rotation by one place, of the byte alone or with the carry flag as a ninth bit. -/
inductive Rotation where
  | rlc | rrc | rl | rr
deriving DecidableEq

namespace Rotation

def ofIndex (index : UInt8) : Rotation :=
  match (index &&& 0x03).toNat with
  | 0 => rlc
  | 1 => rrc
  | 2 => rl
  | _ => rr

def text : Rotation → String
  | rlc => "RLC"
  | rrc => "RRC"
  | rl => "RL"
  | rr => "RR"

end Rotation

inductive ShiftOp where
  | rotate (rotation : Rotation)
  | sla | sra | swap | srl
deriving DecidableEq

namespace ShiftOp

def ofIndex (index : UInt8) : ShiftOp :=
  match (index &&& 0x07).toNat with
  | 4 => sla
  | 5 => sra
  | 6 => swap
  | 7 => srl
  | _ => rotate (Rotation.ofIndex index)

def text : ShiftOp → String
  | rotate rotation => rotation.text
  | sla => "SLA"
  | sra => "SRA"
  | swap => "SWAP"
  | srl => "SRL"

end ShiftOp

end SM83
