import SM83.Cpu.State
import SM83.Instruction.Basic

/-! What programs write and never read: whether interrupts are enabled and whether the processor
runs. -/
namespace SM83

structure Control where
  ime : Bool
  power : PowerState

namespace Instruction

/-- The interrupt enable that an instruction leaves, if it writes it. -/
def ime? : Instruction → Option Bool
  | di => some false
  | ei | reti => some true
  | _ => none

/-- The power state that an instruction leaves, if it writes it. -/
def power? : Instruction → Option PowerState
  | halt => some .halted
  | stop => some .stopped
  | _ => none

def steer (instruction : Instruction) (control : Control) : Control where
  ime := instruction.ime?.getD control.ime
  power := instruction.power?.getD control.power

end Instruction

namespace Cpu

def control (cpu : Cpu) : Control :=
  ⟨cpu.ime, cpu.power⟩

/-- The processor with the same registers of which nothing else needs to be the same. -/
def twin (cpu : Cpu) (control : Control) (config : Config) : Cpu :=
  { cpu with ime := control.ime, power := control.power, config }

end Cpu
end SM83
