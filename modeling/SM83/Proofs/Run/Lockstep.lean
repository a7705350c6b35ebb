import Mathlib.Data.List.Forall2
import SM83.Proofs.Run.Steps

/-! Two machines side by side. A relation between two processors that every instruction keeps, with
the same accesses on both sides, is kept along whole runs on buses that start alike. What the
processors record may differ. -/
namespace SM83

variable {σ τ α β γ δ : Type}

/-- The same accesses and buses, and values in a relation. -/
structure Observed.Alike (related : α → β → Prop) (one : Observed σ α) (other : Observed σ β) :
    Prop where
  value : related one.value other.value
  bus : other.bus = one.bus
  accesses : other.accesses = one.accesses

namespace Action

/-- On no bus can the accesses of two actions be told apart, and their values are related. -/
def Alike (related : α → β → Prop) (one : Action α) (other : Action β) : Prop :=
  ∀ (σ : Type) [Bus σ] (bus : σ), Observed.Alike related (one.observe bus) (other.observe bus)

variable {related : α → β → Prop} {after : γ → δ → Prop} {one : Action α} {other : Action β}

namespace Alike

theorem pure {a : α} {b : β} (values : related a b) : Alike related (pure a) (pure b) := by
  intro σ _ bus
  exact ⟨values, rfl, rfl⟩

theorem refl (action : Action α) : Alike Eq action action := by
  intro σ _ bus
  exact ⟨rfl, rfl, rfl⟩

/-- What two processors record does not count. -/
theorem record (event twin : Event) : Alike Eq (Action.record event) (Action.record twin) := by
  intro σ _ bus
  exact ⟨rfl, rfl, rfl⟩

theorem bind {next : α → Action γ} {twin : β → Action δ} (first : Alike related one other)
    (second : ∀ a b, related a b → Alike after (next a) (twin b)) :
    Alike after (one >>= next) (other >>= twin) := by
  intro σ _ bus
  obtain ⟨values, buses, accesses⟩ := first σ bus
  obtain ⟨results, left, behind⟩ := second _ _ values σ (one.observe bus).bus
  rw [observe_bind, observe_bind]
  refine ⟨?_, ?_, ?_⟩ <;> simp only [Observed.andThen, buses]
  · exact results
  · exact left
  · rw [accesses, behind]

theorem bind_same {action : Action α} {next : α → Action γ} {twin : α → Action δ}
    (second : ∀ a, Alike after (next a) (twin a)) :
    Alike after (action >>= next) (action >>= twin) := by
  refine bind (refl action) ?_
  rintro a _ rfl
  exact second a

end Alike
end Action

structure Step.Alike (related : Machine σ → Machine σ → Prop) (one other : Step σ) : Prop where
  result : other.result = one.result
  accesses : other.accesses = one.accesses
  machine : related one.machine other.machine

structure Run.Alike (related : Machine σ → Machine σ → Prop) (one other : Run σ (Step σ)) :
    Prop where
  steps : List.Forall₂ (Step.Alike related) one.records.toList other.records.toList
  executed : other.executed = one.executed
  fault : other.fault = one.fault
  machine : related one.machine other.machine

theorem Run.Alike.mono {related wider : Machine σ → Machine σ → Prop} {one other : Run σ (Step σ)}
    (alike : Run.Alike related one other)
    (weaken : ∀ one other, related one other → wider one other) : Run.Alike wider one other := by
  refine ⟨alike.steps.imp ?_, alike.executed, alike.fault, weaken _ _ alike.machine⟩
  intro step twin same
  exact ⟨same.result, same.accesses, weaken _ _ same.machine⟩

namespace Machine

/-- Related processors on buses that are alike. -/
def Paired (related : Cpu → Cpu → Prop) (one other : Machine σ) : Prop :=
  related one.cpu other.cpu ∧ other.bus = one.bus

variable [Bus σ]

/-- A run of which every step is kept. -/
def history (machine : Machine σ) (limit : Nat) : Run σ (Step σ) :=
  machine.run (fun step => [step]) limit

/-- The steps of a run in order; the last of them may have met an illegal opcode. -/
def steps (machine : Machine σ) (limit : Nat) : List (Step σ) :=
  (machine.history limit).records.toList

variable {machine one other : Machine σ}

theorem steps_succ_of_error {fault : IllegalOpcode} (found : machine.step.result = .error fault)
    (limit : Nat) : machine.steps (limit + 1) = [machine.step] := by
  rw [steps, history, run_succ_of_error found]

theorem steps_succ_of_ok {instruction : Instruction} (found : machine.step.result = .ok instruction)
    (limit : Nat) :
    machine.steps (limit + 1) = machine.step :: machine.step.machine.steps limit := by
  rw [steps, history, run_succ_of_ok found]
  simp [steps, history]

/-- What holds of the instruction found first and of those found behind it holds of the run. -/
theorem forall_mem_steps_succ {instruction : Instruction} {allowed : Instruction → Prop}
    {limit : Nat} (found : machine.step.result = .ok instruction) (holds : allowed instruction)
    (later : ∀ step ∈ machine.step.machine.steps limit, ∀ other, step.result = .ok other →
      allowed other) :
    ∀ step ∈ machine.steps (limit + 1), ∀ other, step.result = .ok other → allowed other := by
  rw [steps_succ_of_ok found]
  refine List.forall_mem_cons.mpr ⟨fun other same => ?_, later⟩
  rw [found] at same
  cases same
  exact holds

theorem forall_mem_steps_one {instruction : Instruction} {allowed : Instruction → Prop}
    (found : machine.step.result = .ok instruction) (holds : allowed instruction) :
    ∀ step ∈ machine.steps 1, ∀ other, step.result = .ok other → allowed other :=
  forall_mem_steps_succ found holds fun _ member => (List.not_mem_nil member).elim

/-- Two machines that fetch the same and whose processors stay related while they execute it take
steps that are alike. -/
theorem step_alike {related : Cpu → Cpu → Prop} (start : Paired related one other)
    (counter : other.cpu.regs.pc = one.cpu.regs.pc)
    (executes : ∀ instruction, one.step.result = .ok instruction →
      ((one.fetched instruction).execute instruction).Alike related
        ((other.fetched instruction).execute instruction)) :
    Step.Alike (Paired related) one.step other.step := by
  obtain ⟨processors, buses⟩ := start
  have same : other.decoded = one.decoded := by
    rw [decoded, decoded, counter, buses]
  cases found : one.decoded.value with
  | error fault =>
    rw [step_of_decoded_error found, step_of_decoded_error (same ▸ found), same]
    exact ⟨rfl, rfl, processors, rfl⟩
  | ok instruction =>
    have twin : Observed.Alike related (one.executed instruction) (other.executed instruction) := by
      rw [executed, executed, same]
      exact executes instruction (one.result_step.trans found) σ one.decoded.bus
    rw [step_of_decoded_ok found, step_of_decoded_ok (same ▸ found), same]
    refine ⟨rfl, ?_, twin.value, twin.bus⟩
    rw [twin.accesses]

/-- A relation that every step keeps, as long as the steps are of an allowed kind, is kept by whole
runs. -/
theorem history_alike {related : Machine σ → Machine σ → Prop} {allowed : Step σ → Prop}
    (stays : ∀ one other, related one other → allowed one.step →
      Step.Alike related one.step other.step)
    (start : related one other) (limit : Nat) (within : ∀ step ∈ one.steps limit, allowed step) :
    Run.Alike related (one.history limit) (other.history limit) := by
  -- Both machines vary: after the first step the relation holds of the two that it led to.
  induction limit generalizing one other with
  | zero => exact ⟨.nil, rfl, rfl, start⟩
  | succ limit ih =>
    cases found : one.step.result with
    | error fault =>
      rw [steps_succ_of_error found] at within
      have first := stays one other start (within _ List.mem_cons_self)
      rw [history, history, run_succ_of_error found, run_succ_of_error (first.result.trans found)]
      exact ⟨.cons first .nil, rfl, rfl, first.machine⟩
    | ok instruction =>
      rw [steps_succ_of_ok found] at within
      obtain ⟨allowed, later⟩ := List.forall_mem_cons.mp within
      have first := stays one other start allowed
      have rest := ih first.machine later
      rw [history, history, run_succ_of_ok found, run_succ_of_ok (first.result.trans found)]
      refine ⟨?_, ?_, rest.fault, rest.machine⟩
      · simpa [history] using List.Forall₂.cons first rest.steps
      · exact congrArg Nat.succ rest.executed

end Machine
end SM83
