import SM83.Cpu.Step

/-!
A processor at work on a bus: single steps with everything they did, and runs of at most a given
number of steps that end with the first illegal opcode.
-/

namespace SM83

structure Machine (σ : Type) where
  cpu : Cpu
  bus : σ

structure Step (σ : Type) where
  result : Except IllegalOpcode Instruction
  machine : Machine σ
  accesses : List Access
  events : List Event

structure Run (σ α : Type) where
  machine : Machine σ
  executed : Nat
  /-- The illegal opcode that ended the run. -/
  fault : Option IllegalOpcode
  /-- What was kept of the steps, in order. -/
  records : Array α

variable {σ α : Type}

namespace Machine

def step [Bus σ] (machine : Machine σ) : Step σ :=
  let { cpu, bus } := machine
  let observed := cpu.step.observe bus
  match observed.value with
  | .ok (instruction, after) =>
    ⟨.ok instruction, ⟨after, observed.bus⟩, observed.accesses, observed.events⟩
  | .error fault => ⟨.error fault, ⟨cpu, observed.bus⟩, observed.accesses, observed.events⟩

def start (machine : Machine σ) : Run σ α :=
  ⟨machine, 0, none, #[]⟩

end Machine

namespace Run

/-- One step more, of which `keep` tells what is kept. -/
def advance [Bus σ] (keep : Step σ → List α) (run : Run σ α) : Run σ α :=
  let { machine, executed, fault := _, records } := run
  let step := machine.step
  let records := records ++ keep step
  match step.result with
  | .ok _ => ⟨step.machine, executed + 1, none, records⟩
  | .error fault => ⟨step.machine, executed, some fault, records⟩

def extend [Bus σ] (keep : Step σ → List α) : Nat → Run σ α → Run σ α
  | 0, run => run
  | limit + 1, run =>
    match run.fault with
    | some _ => run
    | none => (run.advance keep).extend keep limit

end Run

namespace Machine

def run [Bus σ] (keep : Step σ → List α) (limit : Nat) (machine : Machine σ) : Run σ α :=
  (start machine).extend keep limit

end Machine

end SM83
