import SM83.Proofs.Decode.PrefixCode
import SM83.Proofs.Run.Steps

/-! Illegal opcodes on flat memory. A step that meets one changes nothing, so it meets the same one
again, and a run can be cut anywhere: the two parts together do what the whole does. -/
namespace SM83

open Opcode

namespace Machine

variable {machine : Machine Memory} {fault : IllegalOpcode} {α : Type}

/-- The byte at the program counter. -/
def nextOpcode (machine : Machine Memory) : UInt8 :=
  machine.bus.get machine.cpu.regs.pc

theorem decoded_of_illegal (illegal : machine.nextOpcode ∈ illegalOpcodes) :
    machine.decoded =
      ⟨.error ⟨machine.nextOpcode, machine.cpu.regs.pc⟩, machine.bus,
        [.read machine.cpu.regs.pc machine.nextOpcode], []⟩ := by
  have opcode := (isIllegal_template_iff _).mpr illegal
  rw [decoded, decode, Action.observe_bind]
  change Observed.andThen ⟨machine.nextOpcode, machine.bus, _, []⟩ _ = _
  rw [Observed.andThen]
  cases form : template machine.nextOpcode with
  | illegal => simp only [Action.observe_pure, List.append_nil]; rfl
  | _ => rw [form] at opcode; cases opcode

theorem decoded_of_legal (legal : machine.nextOpcode ∉ illegalOpcodes) :
    ∃ instruction, machine.decoded.value = .ok instruction := by
  rw [decoded, decode, Action.observe_bind]
  change ∃ instruction, (Observed.andThen ⟨machine.nextOpcode, machine.bus, _, []⟩ _).value = _
  cases form : template machine.nextOpcode with
  | illegal =>
    exact absurd ((isIllegal_template_iff _).mp (by rw [form]; rfl)) legal
  | complete instruction => exact ⟨instruction, by simp only [Observed.andThen, form]; rfl⟩
  | withByte build => exact ⟨build _, by simp only [Observed.andThen, form]; rfl⟩
  | withWord build => exact ⟨build _, by simp only [Observed.andThen, form]; rfl⟩

theorem exists_fault_iff :
    (∃ fault, machine.step.result = .error fault) ↔ machine.nextOpcode ∈ illegalOpcodes := by
  rw [result_step]
  constructor
  · rintro ⟨fault, failed⟩
    by_contra legal
    obtain ⟨instruction, found⟩ := decoded_of_legal legal
    rw [found] at failed
    cases failed
  · intro illegal
    exact ⟨_, congrArg Observed.value (decoded_of_illegal illegal)⟩

/-- A failed step tells the opcode and its address, has read that byte and nothing else, and leaves
processor and memory as they were. -/
theorem step_of_fault (failed : machine.step.result = .error fault) :
    fault = ⟨machine.nextOpcode, machine.cpu.regs.pc⟩ ∧ machine.step.machine = machine ∧
      machine.step.accesses = [.read machine.cpu.regs.pc machine.nextOpcode] := by
  have decoded := decoded_of_illegal (exists_fault_iff.mp ⟨fault, failed⟩)
  rw [result_step] at failed
  rw [step_of_decoded_error failed]
  rw [decoded] at failed ⊢
  exact ⟨(Except.error.inj failed).symm, rfl, rfl⟩

theorem after_of_fault (failed : machine.step.result = .error fault) (steps : Nat) :
    machine.after steps = machine := by
  induction steps with
  | zero => rfl
  | succ steps ih => rw [after, ih, (step_of_fault failed).2.1]

theorem extend_fault {run : Run Memory α} {keep : Step Memory → List α} {limit : Nat}
    (before : ∀ fault, run.fault = some fault → run.machine.step.result = .error fault) :
    ∀ fault, (run.extend keep limit).fault = some fault →
      (run.extend keep limit).machine.step.result = .error fault := by
  induction limit generalizing run with
  | zero => exact before
  | succ limit ih =>
    cases ended : run.fault with
    | some fault => rwa [Run.extend_of_fault ended]
    | none =>
      rw [Run.extend_succ ended]
      apply ih
      cases found : run.machine.step.result with
      | ok instruction =>
        rw [Run.advance_of_ok found]
        simp
      | error fault =>
        rw [Run.advance_of_error found, (step_of_fault found).2.1]
        intro other same
        rw [← Option.some.inj same]
        exact found

/-- A run that starts on an illegal opcode ends where it starts. -/
theorem run_of_fault (failed : machine.step.result = .error fault)
    (keep : Step Memory → List α) (limit : Nat) :
    (machine.run keep limit).machine = machine ∧ (machine.run keep limit).executed = 0 ∧
      ((machine.run keep limit).fault = none ∨ (machine.run keep limit).fault = some fault) := by
  cases limit with
  | zero => exact ⟨rfl, rfl, .inl rfl⟩
  | succ limit =>
    rw [run_succ_of_error failed]
    exact ⟨(step_of_fault failed).2.1, rfl, .inr rfl⟩

/-- Two runs, the second from where the first ends, are together one run of as many steps. -/
theorem run_add (machine : Machine Memory) (keep : Step Memory → List α) (m n : Nat) :
    let first := machine.run keep m
    let second := first.machine.run keep n
    let whole := machine.run keep (m + n)
    first.executed + second.executed = whole.executed ∧ second.machine = whole.machine ∧
      first.fault.or second.fault = whole.fault ∧ second.fault.or first.fault = whole.fault := by
  intro first second whole
  have split : whole = first.extend keep n := Run.extend_add m n
  cases ended : first.fault with
  | some fault =>
    have begun : ∀ fault, (start machine : Run Memory α).fault = some fault →
        (start machine : Run Memory α).machine.step.result = .error fault := by
      simp [start]
    have failed : first.machine.step.result = .error fault := extend_fault begun fault ended
    obtain ⟨stays, none, same⟩ := run_of_fault failed keep n
    rw [split, Run.extend_of_fault ended, ended]
    refine ⟨by rw [none, Nat.add_zero], stays, rfl, ?_⟩
    rcases same with same | same <;> rw [same] <;> rfl
  | none =>
    obtain ⟨same, fault, executed⟩ :=
      @Run.extend_congr _ _ _ keep first (start first.machine) rfl ended rfl n
    rw [split, same, fault]
    refine ⟨?_, rfl, rfl, Option.or_none⟩
    have counted : first.executed + second.executed = (first.extend keep n).executed := by
      rw [Nat.add_comm]
      exact executed.symm
    exact counted

/-- A step fails exactly on the eleven opcodes that stand for nothing, and then changes nothing and
reads nothing but the opcode. So all later steps fail alike, and a run cut in two executes as many
instructions, ends in the same machine and reports the same fault as the whole. -/
theorem fault_is_atomic_and_sticky (machine : Machine Memory) :
    ((∃ fault, machine.step.result = .error fault) ↔ machine.nextOpcode ∈ illegalOpcodes) ∧
    (∀ fault, machine.step.result = .error fault →
      fault = ⟨machine.nextOpcode, machine.cpu.regs.pc⟩ ∧ machine.step.machine = machine ∧
        machine.step.accesses = [.read machine.cpu.regs.pc machine.nextOpcode]) ∧
    (∀ steps fault, (machine.after steps).step.result = .error fault → ∀ more,
      machine.after (steps + more) = machine.after steps ∧
        (machine.after (steps + more)).step.result = .error fault) ∧
    ∀ (α : Type) (keep : Step Memory → List α) (m n : Nat),
      let first := machine.run keep m
      let second := first.machine.run keep n
      let whole := machine.run keep (m + n)
      first.executed + second.executed = whole.executed ∧ second.machine = whole.machine ∧
        first.fault.or second.fault = whole.fault ∧ second.fault.or first.fault = whole.fault := by
  refine ⟨exists_fault_iff, fun fault => step_of_fault, ?_, fun α => machine.run_add⟩
  intro steps fault failed more
  have same : machine.after (steps + more) = machine.after steps := by
    rw [after_add, after_of_fault failed]
  exact ⟨same, same ▸ failed⟩

/-- A processor that starts on the opcode D3 is still there after a hundred steps. -/
theorem fault_at_start :
    let machine : Machine Memory := ⟨Cpu.ofConfig .default, Memory.zero.set 0 0xD3⟩
    machine.step.result = .error ⟨0xD3, 0⟩ ∧ machine.step.accesses = [.read 0 0xD3] ∧
      machine.after 100 = machine := by
  intro machine
  obtain ⟨fails, atomic, sticky, -⟩ := fault_is_atomic_and_sticky machine
  have opcode : machine.nextOpcode = 0xD3 := Memory.get_set _ _ _ _
  obtain ⟨fault, failed⟩ := fails.mpr (by rw [opcode]; decide)
  obtain ⟨rfl, -, accesses⟩ := atomic fault failed
  obtain ⟨same, -⟩ := sticky 0 _ failed 100
  rw [opcode] at failed accesses
  exact ⟨failed, accesses, same⟩

end Machine
end SM83
