import SM83.Cpu.State

/-!
How instructions reach their operands: registers, memory at the address in HL, the stack. The stack
grows downwards; the high byte of a word lies above its low byte.
-/

namespace SM83.Cpu

def lastPage : UInt16 := 0xFF00

def setRegs (cpu : Cpu) (regs : Registers) : Cpu :=
  { cpu with regs }

def setByte (cpu : Cpu) (register : ByteRegister) (value : UInt8) : Cpu :=
  cpu.setRegs (cpu.regs.setByte register value)

def setWord (cpu : Cpu) (register : WordRegister) (value : UInt16) : Cpu :=
  cpu.setRegs (cpu.regs.setWord register value)

def setFlags (cpu : Cpu) (flags : Flags) : Cpu :=
  cpu.setRegs (cpu.regs.setFlags flags)

def readOperand (cpu : Cpu) (operand : Operand8) : Action UInt8 :=
  match operand.register? with
  | some register => pure (cpu.regs.byte register)
  | none => Action.readByte (cpu.regs.word .hl)

def writeOperand (cpu : Cpu) (operand : Operand8) (value : UInt8) : Action Cpu :=
  match operand.register? with
  | some register => pure (cpu.setByte register value)
  | none => do
    Action.writeByte (cpu.regs.word .hl) value
    return cpu

def readSource (cpu : Cpu) : Source → Action UInt8
  | .operand operand => cpu.readOperand operand
  | .immediate value => pure value

/-- The address of a place, with the processor after HL has stepped. -/
def locate (cpu : Cpu) : Place → UInt16 × Cpu
  | .indirect .bc => (cpu.regs.word .bc, cpu)
  | .indirect .de => (cpu.regs.word .de, cpu)
  | .indirect .hlInc => (cpu.regs.word .hl, cpu.setWord .hl (cpu.regs.word .hl + 1))
  | .indirect .hlDec => (cpu.regs.word .hl, cpu.setWord .hl (cpu.regs.word .hl - 1))
  | .absolute address => (address, cpu)
  | .high offset => (lastPage ||| offset.toUInt16, cpu)
  | .highC => (lastPage ||| (cpu.regs.byte .c).toUInt16, cpu)

/-- Puts a word on the stack, the high byte first. -/
def pushWord (cpu : Cpu) (value : UInt16) : Action Cpu := do
  let sp := cpu.regs.word .sp
  Action.writeByte (sp - 1) (Word.high value)
  Action.writeByte (sp - 2) (Word.low value)
  return cpu.setWord .sp (sp - 2)

def popWord (cpu : Cpu) : Action (UInt16 × Cpu) := do
  let sp := cpu.regs.word .sp
  let value ← Action.readWord sp
  return (value, cpu.setWord .sp (sp + 2))

/-- An absent condition holds. -/
def satisfies (cpu : Cpu) : Option Condition → Bool
  | none => true
  | some condition => condition.holds cpu.regs.flags

end SM83.Cpu
