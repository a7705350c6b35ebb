import SM83.Proofs.Execute.Settings

/-! Interrupt enable and power state along a run. Steps write them as their instructions say, and
what a run does never depends on them: they are left to those who serve interrupts and own the
clock. -/
namespace SM83

/-- The same registers and the same settings. -/
def Cpu.AlikeButControl (one twin : Cpu) : Prop :=
  twin.regs = one.regs ∧ twin.config = one.config

namespace Machine

variable {σ : Type} [Bus σ] {machine : Machine σ}

theorem cpu_step_of_error {fault : IllegalOpcode} (failed : machine.step.result = .error fault) :
    machine.step.machine.cpu = machine.cpu := by
  rw [result_step] at failed
  rw [step_of_decoded_error failed]

theorem control_step_of_ok {instruction : Instruction}
    (found : machine.step.result = .ok instruction) :
    machine.step.machine.cpu.control = instruction.steer machine.cpu.control := by
  rw [step_of_ok found]
  exact ((machine.fetched instruction).execute_control instruction machine.decoded.bus).2

theorem config_step (machine : Machine σ) :
    machine.step.machine.cpu.config = machine.cpu.config := by
  cases found : machine.step.result with
  | error fault => rw [cpu_step_of_error found]
  | ok instruction =>
    rw [step_of_ok found]
    exact ((machine.fetched instruction).execute_control instruction machine.decoded.bus).1

theorem step_alikeButControl {one other : Machine σ}
    (start : Paired Cpu.AlikeButControl one other) :
    Step.Alike (Paired Cpu.AlikeButControl) one.step other.step := by
  obtain ⟨regs, config⟩ := start.1
  refine step_alike start (by rw [regs]) ?_
  intro instruction _
  let cpu := one.fetched instruction
  have twin : other.fetched instruction = cpu.twin other.cpu.control cpu.config := by
    simp only [cpu, fetched, Cpu.setWord, Cpu.setRegs, Cpu.twin, Cpu.control, regs, ← config]
  have agree := cpu.config.agreeOn_initialState cpu.config.initialState instruction
  rw [twin]
  intro τ _ bus
  obtain ⟨⟨kept, same⟩, buses, accesses⟩ :=
    cpu.execute_twin other.cpu.control cpu.config instruction agree τ bus
  refine ⟨?_, buses, accesses⟩
  rw [same]
  exact ⟨rfl, kept.symm⟩

/-- Two processors that differ in interrupt enable and power state take the same steps on buses that
are the same, be they halted or stopped or not: they find the same instructions or the same illegal
opcode after as many steps, make the same accesses, and have the same registers and buses after each
step. -/
theorem control_irrelevant (cpu : Cpu) (ime : Bool) (power : PowerState) (bus : σ) (limit : Nat) :
    Run.Alike (Paired Cpu.AlikeButControl) (history ⟨cpu, bus⟩ limit)
      (history ⟨{ cpu with ime, power }, bus⟩ limit) := by
  have start : Paired Cpu.AlikeButControl (⟨cpu, bus⟩ : Machine σ) ⟨{ cpu with ime, power }, bus⟩ :=
    ⟨⟨rfl, rfl⟩, rfl⟩
  have stays (one other : Machine σ) (related : Paired Cpu.AlikeButControl one other) (_ : True) :
      Step.Alike (Paired Cpu.AlikeButControl) one.step other.step :=
    step_alikeButControl related
  exact history_alike stays start limit fun _ _ => trivial

end Machine
end SM83
