import SM83.Instruction.Operand

/-!
The instructions, each with all its operands. Some values have no opcode of their own: a load from
memory to memory, a restart outside the eight vectors, a bit index above seven.
-/

namespace SM83

/-- One instruction. An absent condition always holds. -/
inductive Instruction where
  | nop
  | stop
  | halt
  | di
  | ei
  | ld (target : Operand8) (source : Source)
  | storeA (place : Place)
  | loadA (place : Place)
  | ldImmediate16 (target : Operand16) (value : UInt16)
  | storeSP (address : UInt16)
  | ldSPHL
  | ldHLOffset (offset : Int8)
  | push (pair : StackPair)
  | pop (pair : StackPair)
  | alu (op : AluOp) (source : Source)
  | inc (target : Operand8)
  | dec (target : Operand8)
  | daa
  | cpl
  | scf
  | ccf
  | addHL (source : Operand16)
  | addSP (offset : Int8)
  | inc16 (target : Operand16)
  | dec16 (target : Operand16)
  | rotateA (rotation : Rotation)
  | jp (condition : Option Condition) (address : UInt16)
  | jpHL
  | jr (condition : Option Condition) (offset : Int8)
  | call (condition : Option Condition) (address : UInt16)
  | ret (condition : Option Condition)
  | reti
  | rst (vector : UInt8)
  | shift (op : ShiftOp) (target : Operand8)
  | bit (index : UInt8) (target : Operand8)
  | res (index : UInt8) (target : Operand8)
  | set (index : UInt8) (target : Operand8)

namespace Source

/-- How many bytes behind the opcode the source takes. -/
def size : Source → UInt16
  | operand _ => 0
  | immediate _ => 1

end Source

namespace Place

def size : Place → UInt16
  | indirect _ => 0
  | absolute _ => 2
  | high _ => 1
  | highC => 0

end Place

namespace Instruction

def length : Instruction → UInt16
  | ld _ source | alu _ source => 1 + source.size
  | storeA place | loadA place => 1 + place.size
  | ldHLOffset _ | addSP _ | jr _ _ => 2
  | shift _ _ | bit _ _ | res _ _ | set _ _ => 2
  | ldImmediate16 _ _ | storeSP _ | jp _ _ | call _ _ => 3
  | nop | stop | halt | di | ei | ldSPHL | push _ | pop _ | inc _ | dec _ | daa | cpl | scf | ccf
  | addHL _ | inc16 _ | dec16 _ | rotateA _ | jpHL | ret _ | reti | rst _ => 1

def isExtended : Instruction → Bool
  | shift _ _ | bit _ _ | res _ _ | set _ _ => true
  | _ => false

end Instruction

end SM83
