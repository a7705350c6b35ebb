import SM83.Alu.Arithmetic
import SM83.Alu.Bit
import SM83.Alu.Decimal
import SM83.Alu.Logic
import SM83.Alu.Shift
import SM83.Cpu.Operands

/-!
What each instruction does. The program counter already stands behind the instruction, so relative
jumps and return addresses start from there.
-/

namespace SM83

namespace AluOp

/-- The result that goes to A, if there is one, and the flags. -/
def apply (op : AluOp) (rule : LogicRule) (flags : Flags) (a b : UInt8) : Option UInt8 × Flags :=
  match op with
  | add => stored (Alu.add8 a b)
  | adc => stored (Alu.adc8 flags a b)
  | sub => stored (Alu.sub8 a b)
  | sbc => stored (Alu.sbc8 flags a b)
  | and => stored (Alu.and8 a b)
  | xor =>
    match rule with
    | .zeroOnly => stored (Alu.xor8ZeroOnly flags a b)
    | .hardware => stored (Alu.xor8 a b)
  | or =>
    match rule with
    | .zeroOnly => stored (Alu.or8ZeroOnly flags a b)
    | .hardware => stored (Alu.or8 a b)
  | cp => (none, Alu.cp8 a b)
where
  stored (answer : UInt8 × Flags) : Option UInt8 × Flags :=
    (some answer.1, answer.2)

end AluOp

namespace Rotation

def apply (rotation : Rotation) (flags : Flags) (value : UInt8) : UInt8 × Flags :=
  match rotation with
  | rlc => Alu.rotateLeft value
  | rrc => Alu.rotateRight value
  | rl => Alu.rotateLeftThroughCarry flags value
  | rr => Alu.rotateRightThroughCarry flags value

end Rotation

namespace ShiftOp

def apply (op : ShiftOp) (flags : Flags) (value : UInt8) : UInt8 × Flags :=
  match op with
  | rotate rotation => rotation.apply flags value
  | sla => Alu.shiftLeft value
  | sra => Alu.shiftRightArithmetic value
  | swap => Alu.swapNibbles value
  | srl => Alu.shiftRightLogical value

end ShiftOp

namespace Cpu

/-- Replaces a byte operand by what `operation` makes of it and of the flags. -/
def update (cpu : Cpu) (target : Operand8) (operation : Flags → UInt8 → UInt8 × Flags) :
    Action Cpu := do
  let value ← cpu.readOperand target
  let (result, flags) := operation cpu.regs.flags value
  (cpu.setFlags flags).writeOperand target result

/-- Replaces a byte operand and leaves the flags alone. -/
def updateBits (cpu : Cpu) (target : Operand8) (operation : UInt8 → UInt8) : Action Cpu := do
  let value ← cpu.readOperand target
  cpu.writeOperand target (operation value)

def updateA (cpu : Cpu) (operation : Flags → UInt8 → UInt8 × Flags) : Cpu :=
  let (result, flags) := operation cpu.regs.flags (cpu.regs.byte .a)
  (cpu.setFlags flags).setByte .a result

def applyAlu (cpu : Cpu) (op : AluOp) (value : UInt8) : Cpu :=
  let (result?, flags) := op.apply cpu.config.logic cpu.regs.flags (cpu.regs.byte .a) value
  match result? with
  | some result => (cpu.setFlags flags).setByte .a result
  | none => cpu.setFlags flags

def addToHL (cpu : Cpu) (value : UInt16) : Cpu :=
  let hl := cpu.regs.word .hl
  let (result, flags) :=
    match cpu.config.add16 with
    | .lowByte => Alu.add16 hl value
    | .hardware => Alu.add16Hardware cpu.regs.flags hl value
  (cpu.setFlags flags).setWord .hl result

/-- Writes the stack pointer plus a displacement to `target`. -/
def offsetSP (cpu : Cpu) (target : WordRegister) (offset : Int8) : Cpu :=
  let (result, flags) := Alu.addOffset (cpu.regs.word .sp) offset
  (cpu.setFlags flags).setWord target result

/-- Rotates A; the zero flag follows the setting. -/
def rotateA (cpu : Cpu) (rotation : Rotation) : Cpu :=
  let rotated := cpu.updateA rotation.apply
  match cpu.config.rotateA with
  | .zeroFromResult => rotated
  | .zeroCleared => rotated.setFlags { rotated.regs.flags with zero := false }

def complement (cpu : Cpu) : Cpu :=
  let inverted := cpu.setByte .a (~~~cpu.regs.byte .a)
  inverted.setFlags { inverted.regs.flags with subtract := true, halfCarry := true }

def setCarry (cpu : Cpu) (carry : Bool) : Cpu :=
  cpu.setFlags { cpu.regs.flags with subtract := false, halfCarry := false, carry }

/-- The address of an instruction of one byte that is being executed. -/
def ownAddress (cpu : Cpu) : UInt16 :=
  cpu.regs.pc - 1

def halt (cpu : Cpu) : Action Cpu := do
  Action.record (.halted cpu.ownAddress)
  return { cpu with power := .halted }

def stop (cpu : Cpu) : Action Cpu := do
  Action.record (.stopped cpu.ownAddress)
  let skipped :=
    match cpu.config.stop with
    | .single => cpu
    | .withPadding => cpu.setWord .pc (cpu.regs.pc + 1)
  return { skipped with power := .stopped }

def disableInterrupts (cpu : Cpu) : Action Cpu := do
  if cpu.ime then
    Action.record (.interruptsDisabled cpu.ownAddress)
  return cpu.setIme false

/-- Interrupts are enabled as soon as the instruction ends. -/
def enableInterrupts (cpu : Cpu) : Action Cpu := do
  if !cpu.ime then
    Action.record (.interruptsEnabled cpu.ownAddress)
  return cpu.setIme true

def jump (cpu : Cpu) (address : UInt16) : Cpu :=
  cpu.setWord .pc address

/-- Jumps from where the program counter stands. -/
def jumpBy (cpu : Cpu) (offset : Int8) : Cpu :=
  cpu.jump (cpu.regs.pc + Word.ofSigned offset)

/-- Pushes the address of the next instruction and jumps. -/
def call (cpu : Cpu) (address : UInt16) : Action Cpu := do
  let pushed ← cpu.pushWord cpu.regs.pc
  return pushed.jump address

def ret (cpu : Cpu) : Action Cpu := do
  let (address, popped) ← cpu.popWord
  return popped.jump address

def reti (cpu : Cpu) : Action Cpu := do
  let returned ← cpu.ret
  if !cpu.ime then
    Action.record (.interruptReturn returned.regs.pc)
  return returned.setIme true

/-- Jumps to a vector in the first page; the setting decides about the return address. -/
def restart (cpu : Cpu) (vector : UInt8) : Action Cpu :=
  match cpu.config.restart with
  | .pushReturn => cpu.call vector.toUInt16
  | .jumpOnly => return cpu.jump vector.toUInt16

def execute (cpu : Cpu) : Instruction → Action Cpu
  | .nop => return cpu
  | .stop => cpu.stop
  | .halt => cpu.halt
  | .di => cpu.disableInterrupts
  | .ei => cpu.enableInterrupts
  | .ld target source => do
    let value ← cpu.readSource source
    cpu.writeOperand target value
  | .storeA place => do
    let (address, after) := cpu.locate place
    Action.writeByte address (after.regs.byte .a)
    return after
  | .loadA place => do
    let (address, after) := cpu.locate place
    let value ← Action.readByte address
    return after.setByte .a value
  | .ldImmediate16 target value => return cpu.setWord target.register value
  | .storeSP address => do
    Action.writeWord address (cpu.regs.word .sp)
    return cpu
  | .ldSPHL => return cpu.setWord .sp (cpu.regs.word .hl)
  | .ldHLOffset offset => return cpu.offsetSP .hl offset
  | .push pair => cpu.pushWord (cpu.regs.word pair.register)
  | .pop pair => do
    let (value, popped) ← cpu.popWord
    return popped.setWord pair.register value
  | .alu op source => do
    let value ← cpu.readSource source
    return cpu.applyAlu op value
  | .inc target => cpu.update target Alu.inc8
  | .dec target => cpu.update target Alu.dec8
  | .daa => return cpu.updateA Alu.decimalAdjust
  | .cpl => return cpu.complement
  | .scf => return cpu.setCarry true
  | .ccf => return cpu.setCarry (!cpu.regs.flags.carry)
  | .addHL source => return cpu.addToHL (cpu.regs.word source.register)
  | .addSP offset => return cpu.offsetSP .sp offset
  | .inc16 target => return cpu.setWord target.register (cpu.regs.word target.register + 1)
  | .dec16 target => return cpu.setWord target.register (cpu.regs.word target.register - 1)
  | .rotateA rotation => return cpu.rotateA rotation
  | .jp condition address => return if cpu.satisfies condition then cpu.jump address else cpu
  | .jpHL => return cpu.jump (cpu.regs.word .hl)
  | .jr condition offset => return if cpu.satisfies condition then cpu.jumpBy offset else cpu
  | .call condition address => if cpu.satisfies condition then cpu.call address else return cpu
  | .ret condition => if cpu.satisfies condition then cpu.ret else return cpu
  | .reti => cpu.reti
  | .rst vector => cpu.restart vector
  | .shift op target => cpu.update target op.apply
  | .bit index target => do
    let value ← cpu.readOperand target
    return cpu.setFlags (Alu.bitTest cpu.regs.flags value index)
  | .res index target => cpu.updateBits target (Alu.resetBit · index)
  | .set index target => cpu.updateBits target (Alu.setBit · index)

end Cpu

end SM83
