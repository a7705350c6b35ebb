import SM83.Bus
import SM83.Config

/-!
The state of the processor, the states it starts from, and what is done to it from outside the
program: setting the interrupt enable, waking it up, resetting it.
-/

namespace SM83

/-- The processor. Its settings stay as they were chosen. -/
structure Cpu where
  regs : Registers
  ime : Bool
  power : PowerState
  config : Config
deriving DecidableEq

namespace InitialState

def values : InitialState → Registers × Bool
  | powerOn => ({ Registers.zero with sp := 0xFFFE }, true)
  | postBoot =>
    ({ af := 0x01B0, bc := 0x0013, de := 0x00D8, hl := 0x014D, sp := 0xFFFE, pc := 0x0100 }, false)

end InitialState

namespace Cpu

/-- Puts the registers and the interrupt enable into the initial state of the settings. -/
def enterInitialState (cpu : Cpu) : Cpu :=
  let (regs, ime) := cpu.config.initialState.values
  { cpu with regs, ime }

def ofConfig (config : Config) : Cpu :=
  enterInitialState { regs := .zero, ime := true, power := .running, config }

def reset (cpu : Cpu) : Cpu :=
  enterInitialState { cpu with regs := .zero, power := .running }

def wake (cpu : Cpu) : Action Cpu := do
  if cpu.power ≠ .running then
    Action.record (.woken cpu.power cpu.regs.pc)
  return { cpu with power := .running }

def setIme (cpu : Cpu) (enabled : Bool) : Cpu :=
  { cpu with ime := enabled }

def text (cpu : Cpu) : String :=
  cpu.regs.text ++ " IME=" ++ (if cpu.ime then "1" else "0") ++ " " ++ cpu.power.text

end Cpu

end SM83
