import SM83.Instruction.Text
import SM83.Power

/-!
What the processor records while it works: each instruction before it is executed, each illegal
opcode, each change of the interrupt enable and of the power state.
-/

namespace SM83

/-- An opcode that stands for nothing, and where it was found. -/
structure IllegalOpcode where
  opcode : UInt8
  address : UInt16
deriving DecidableEq

def IllegalOpcode.message (fault : IllegalOpcode) : String :=
  "illegal opcode 0x" ++ Numeral.hexByte fault.opcode ++ " at 0x" ++ Numeral.hexWord fault.address

inductive Level where
  | error | warn | info | debug | trace
deriving DecidableEq

namespace Level

def text : Level → String
  | error => "ERROR"
  | warn => "WARN"
  | info => "INFO"
  | debug => "DEBUG"
  | trace => "TRACE"

end Level

/-- The part of the processor that makes a record. -/
inductive Origin where
  | core | step | system | stack
deriving DecidableEq

/-- A record. Interrupts are recorded as enabled or disabled only where that is a change. The
address is that of the instruction, or of a return the one it leads to. -/
inductive Event where
  | executing (address : UInt16) (instruction : Instruction)
  | illegal (fault : IllegalOpcode) (regs : Registers) (ime : Bool)
  | halted (address : UInt16)
  | stopped (address : UInt16)
  | interruptsDisabled (address : UInt16)
  | interruptsEnabled (address : UInt16)
  | interruptReturn (target : UInt16)
  | woken (power : PowerState) (address : UInt16)

namespace Event

def level : Event → Level
  | executing _ _ => .trace
  | illegal _ _ _ => .error
  | halted _ | stopped _ | interruptsDisabled _ | interruptsEnabled _ | interruptReturn _
  | woken _ _ => .debug

def origin : Event → Origin
  | executing _ _ | illegal _ _ _ => .step
  | halted _ | stopped _ | interruptsDisabled _ | interruptsEnabled _ => .system
  | interruptReturn _ => .stack
  | woken _ _ => .core

def message : Event → String
  | executing address instruction => Numeral.hexWord address ++ ": " ++ instruction.text
  | illegal fault regs ime =>
    "GB CPU: " ++ fault.message ++ " (SP=0x" ++ Numeral.hexWord regs.sp ++
      " AF=0x" ++ Numeral.hexWord regs.af ++ " BC=0x" ++ Numeral.hexWord regs.bc ++
      " DE=0x" ++ Numeral.hexWord regs.de ++ " HL=0x" ++ Numeral.hexWord regs.hl ++
      " IME=" ++ (if ime then "true" else "false") ++ ")"
  | halted address => "HALT at PC=0x" ++ Numeral.hexWord address
  | stopped address => "STOP at PC=0x" ++ Numeral.hexWord address
  | interruptsDisabled address => "DI at PC=0x" ++ Numeral.hexWord address
  | interruptsEnabled address => "EI at PC=0x" ++ Numeral.hexWord address
  | interruptReturn target =>
    "RETI: IME enabled, returning to 0x" ++ Numeral.hexWord target
  | woken power address =>
    "CPU wake from " ++ power.text ++ " at PC=0x" ++ Numeral.hexWord address

end Event

end SM83
