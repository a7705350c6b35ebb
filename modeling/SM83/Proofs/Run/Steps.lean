import SM83.Machine
import SM83.Proofs.Run.Observation

/-! A step in terms of what was decoded and what was executed, steps in a row, and runs put together
from shorter runs. The bus may be any. -/
namespace SM83

variable {σ α : Type} [Bus σ]

theorem events_decode (pc : UInt16) (bus : σ) : ((decode pc).observe bus).events = [] := by
  rw [decode, Action.observe_bind]
  simp only [Observed.andThen, Action.readByte, Action.observe]
  cases Opcode.template (Bus.read pc bus).1 <;> rfl

namespace Machine

/-- The processor about to execute an instruction: the program counter stands behind it. -/
def fetched (machine : Machine σ) (instruction : Instruction) : Cpu :=
  machine.cpu.setWord .pc (machine.cpu.regs.pc + instruction.length)

/-- What is decoded at the program counter. -/
def decoded (machine : Machine σ) : Observed σ (Except IllegalOpcode Instruction) :=
  (decode machine.cpu.regs.pc).observe machine.bus

/-- The execution of an instruction on the bus that decoding leaves. -/
def executed (machine : Machine σ) (instruction : Instruction) : Observed σ Cpu :=
  ((machine.fetched instruction).execute instruction).observe machine.decoded.bus

variable {machine : Machine σ}

/-- What a step does that finds an instruction. -/
theorem step_of_decoded_ok {instruction : Instruction}
    (found : machine.decoded.value = .ok instruction) :
    machine.step =
      { result := .ok instruction
        machine := ⟨(machine.executed instruction).value, (machine.executed instruction).bus⟩
        accesses := machine.decoded.accesses ++ (machine.executed instruction).accesses
        events := .executing machine.cpu.regs.pc instruction ::
          (machine.executed instruction).events } := by
  have silent := events_decode machine.cpu.regs.pc machine.bus
  unfold decoded at found
  simp only [step, Cpu.step, executed, fetched, decoded, Action.observe_bind, Observed.andThen,
    found, silent, Action.observe_record, Action.observe_pure, List.append_nil, List.nil_append,
    List.singleton_append]

/-- What a step does that finds none. -/
theorem step_of_decoded_error {fault : IllegalOpcode}
    (found : machine.decoded.value = .error fault) :
    machine.step =
      { result := .error fault
        machine := ⟨machine.cpu, machine.decoded.bus⟩
        accesses := machine.decoded.accesses
        events := [.illegal fault machine.cpu.regs machine.cpu.ime] } := by
  have silent := events_decode machine.cpu.regs.pc machine.bus
  unfold decoded at found
  simp only [step, Cpu.step, decoded, Action.observe_bind, Observed.andThen, found, silent,
    Action.observe_record, Action.observe_pure, List.append_nil, List.nil_append]

theorem result_step (machine : Machine σ) : machine.step.result = machine.decoded.value := by
  cases found : machine.decoded.value with
  | ok instruction => rw [step_of_decoded_ok found]
  | error fault => rw [step_of_decoded_error found]

/-- What a step does that executes an instruction, of which the result tells. -/
theorem step_of_ok {instruction : Instruction} (found : machine.step.result = .ok instruction) :
    machine.step =
      { result := .ok instruction
        machine := ⟨(machine.executed instruction).value, (machine.executed instruction).bus⟩
        accesses := machine.decoded.accesses ++ (machine.executed instruction).accesses
        events := .executing machine.cpu.regs.pc instruction ::
          (machine.executed instruction).events } :=
  step_of_decoded_ok (machine.result_step ▸ found)

/-- The machine after a number of steps, those included that find no instruction. -/
def after (machine : Machine σ) : Nat → Machine σ
  | 0 => machine
  | steps + 1 => (machine.after steps).step.machine

theorem after_add (machine : Machine σ) (first second : Nat) :
    machine.after (first + second) = (machine.after first).after second := by
  induction second with
  | zero => rfl
  | succ second ih => rw [← Nat.add_assoc, after, ih, after]

end Machine

namespace Run

variable {keep : Step σ → List α} {run : Run σ α}

theorem advance_of_ok {instruction : Instruction}
    (found : run.machine.step.result = .ok instruction) :
    run.advance keep =
      ⟨run.machine.step.machine, run.executed + 1, none, run.records ++ keep run.machine.step⟩ := by
  simp only [advance, found]

theorem advance_of_error {fault : IllegalOpcode}
    (found : run.machine.step.result = .error fault) :
    run.advance keep =
      ⟨run.machine.step.machine, run.executed, some fault,
        run.records ++ keep run.machine.step⟩ := by
  simp only [advance, found]

/-- A run that has met an illegal opcode goes no further. -/
theorem extend_of_fault {fault : IllegalOpcode} (ended : run.fault = some fault) (limit : Nat) :
    run.extend keep limit = run := by
  cases limit with
  | zero => rfl
  | succ limit => rw [extend, ended]

theorem extend_succ (going : run.fault = none) (limit : Nat) :
    run.extend keep (limit + 1) = (run.advance keep).extend keep limit := by
  rw [extend, going]

/-- A run may be interrupted anywhere and taken up again. -/
theorem extend_add (first second : Nat) :
    run.extend keep (first + second) = (run.extend keep first).extend keep second := by
  induction first generalizing run with
  | zero => rw [Nat.zero_add, extend]
  | succ first ih =>
    cases ended : run.fault with
    | some fault => simp only [extend_of_fault ended]
    | none => rw [Nat.add_right_comm, extend_succ ended, extend_succ ended, ih]

theorem append_list (records : Array α) (more : List α) :
    records ++ more = records ++ more.toArray := by
  apply Array.ext'
  simp

/-- What a run counted and kept so far stands before what a run from there counts and keeps. -/
theorem extend_eq_run (machine : Machine σ) (executed : Nat) (records : Array α) (limit : Nat) :
    (⟨machine, executed, none, records⟩ : Run σ α).extend keep limit =
      let rest := machine.run keep limit
      ⟨rest.machine, executed + rest.executed, rest.fault, records ++ rest.records⟩ := by
  induction limit generalizing machine executed records with
  | zero =>
    change (⟨machine, executed, none, records⟩ : Run σ α) =
      ⟨machine, executed + 0, none, records ++ #[]⟩
    rw [Array.append_empty, Nat.add_zero]
  | succ limit ih =>
    let before : Run σ α := ⟨machine, executed, none, records⟩
    let start : Run σ α := ⟨machine, 0, none, #[]⟩
    change before.extend keep (limit + 1) =
      let rest := start.extend keep (limit + 1)
      ⟨rest.machine, executed + rest.executed, rest.fault, records ++ rest.records⟩
    rw [extend_succ rfl, extend_succ rfl]
    cases found : machine.step.result with
    | error fault =>
      have first : before.advance keep = _ := advance_of_error found
      have second : start.advance keep = _ := advance_of_error found
      rw [first, second, extend_of_fault rfl, extend_of_fault rfl]
      simp [before, start, append_list]
    | ok instruction =>
      have first : before.advance keep = _ := advance_of_ok found
      have second : start.advance keep = _ := advance_of_ok found
      rw [first, second, ih, ih]
      simp [before, start, append_list, Nat.add_assoc]

/-- How a run goes on depends on its machine alone, not on what was counted and kept before. -/
theorem extend_congr {other : Run σ α} (same : run.machine = other.machine)
    (going : run.fault = none) (alike : other.fault = none) (limit : Nat) :
    (run.extend keep limit).machine = (other.extend keep limit).machine ∧
      (run.extend keep limit).fault = (other.extend keep limit).fault ∧
      (run.extend keep limit).executed + other.executed =
        (other.extend keep limit).executed + run.executed := by
  obtain ⟨machine, executed, _, records⟩ := run
  obtain ⟨_, counted, _, kept⟩ := other
  cases same
  cases going
  cases alike
  rw [extend_eq_run, extend_eq_run]
  refine ⟨rfl, rfl, ?_⟩
  dsimp only
  omega

end Run

namespace Machine

variable {machine : Machine σ} {keep : Step σ → List α}

theorem run_succ_of_error {fault : IllegalOpcode} (found : machine.step.result = .error fault)
    (limit : Nat) :
    machine.run keep (limit + 1) =
      ⟨machine.step.machine, 0, some fault, (keep machine.step).toArray⟩ := by
  have first : (start machine : Run σ α).advance keep = _ := Run.advance_of_error found
  rw [run, Run.extend_succ rfl, first, Run.extend_of_fault rfl]
  simp [start]

theorem run_succ_of_ok {instruction : Instruction} (found : machine.step.result = .ok instruction)
    (limit : Nat) :
    machine.run keep (limit + 1) =
      let rest := machine.step.machine.run keep limit
      ⟨rest.machine, rest.executed + 1, rest.fault,
        (keep machine.step).toArray ++ rest.records⟩ := by
  have first : (start machine : Run σ α).advance keep = _ := Run.advance_of_ok found
  rw [run, Run.extend_succ rfl, first, Run.extend_eq_run]
  simp [start, Nat.add_comm]

end Machine
end SM83
