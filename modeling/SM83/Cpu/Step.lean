import SM83.Cpu.Execute
import SM83.Decode

/-!
One step of the processor: it decodes the instruction at the program counter, puts the counter
behind it and carries it out. An illegal opcode changes nothing.
-/

namespace SM83.Cpu

/-- The instruction that was executed and the processor after it. -/
def step (cpu : Cpu) : Action (Except IllegalOpcode (Instruction × Cpu)) := do
  let pc := cpu.regs.pc
  match ← decode pc with
  | .error fault =>
    Action.record (.illegal fault cpu.regs cpu.ime)
    return .error fault
  | .ok instruction =>
    Action.record (.executing pc instruction)
    let after ← (cpu.setWord .pc (pc + instruction.length)).execute instruction
    return .ok (instruction, after)

end SM83.Cpu
