import SM83.Proofs.Run.Fault

/-! How far a run on flat memory gets: it counts the steps that succeed, up to its limit or to the
first illegal opcode. -/
namespace SM83.Machine

variable {machine : Machine Memory} {limit : Nat} {α : Type}

theorem after_succ (machine : Machine Memory) (steps : Nat) :
    machine.after (steps + 1) = machine.step.machine.after steps := by
  rw [Nat.add_comm, after_add]
  rfl

/-- Of at most `limit` steps the first `count` succeed, and if those are not all the next fails. -/
structure Completes (machine : Machine Memory) (limit count : Nat) : Prop where
  le : count ≤ limit
  succeeds : ∀ earlier < count, ∃ instruction,
    (machine.after earlier).step.result = .ok instruction
  fails : count < limit → ∃ fault, (machine.after count).step.result = .error fault

namespace Completes

theorem of_error {fault : IllegalOpcode} (failed : machine.step.result = .error fault)
    (limit : Nat) : machine.Completes limit 0 where
  le := Nat.zero_le limit
  succeeds earlier before := absurd before (Nat.not_lt_zero earlier)
  fails _ := ⟨fault, failed⟩

theorem succ {instruction : Instruction} {count : Nat}
    (found : machine.step.result = .ok instruction)
    (behind : machine.step.machine.Completes limit count) :
    machine.Completes (limit + 1) (count + 1) where
  le := Nat.succ_le_succ behind.le
  succeeds earlier before := by
    cases earlier with
    | zero => exact ⟨instruction, found⟩
    | succ earlier =>
      rw [after_succ]
      exact behind.succeeds earlier (Nat.lt_of_succ_lt_succ before)
  fails short := by
    rw [after_succ]
    exact behind.fails (Nat.lt_of_succ_lt_succ short)

theorem unique {first second : Nat} (one : machine.Completes limit first)
    (other : machine.Completes limit second) : first = second := by
  -- The earlier of two ends is a step that fails and succeeds.
  have ordered {first second : Nat} (one : machine.Completes limit first)
      (other : machine.Completes limit second) : ¬ first < second := by
    intro earlier
    obtain ⟨fault, failed⟩ := one.fails (lt_of_lt_of_le earlier other.le)
    obtain ⟨instruction, found⟩ := other.succeeds first earlier
    rw [failed] at found
    cases found
  exact Nat.le_antisymm (Nat.le_of_not_lt (ordered other one))
    (Nat.le_of_not_lt (ordered one other))

end Completes

/-- A run ends after the steps it counts. It has met an illegal opcode exactly if its limit would
have let it take the step that fails. -/
theorem run_completes (machine : Machine Memory) (keep : Step Memory → List α) (limit : Nat) :
    let run := machine.run keep limit
    machine.Completes limit run.executed ∧ run.machine = machine.after run.executed ∧
      ∀ fault, run.fault = some fault ↔
        run.executed < limit ∧ (machine.after run.executed).step.result = .error fault := by
  induction limit generalizing machine with
  | zero =>
    intro run
    refine ⟨⟨Nat.le_refl 0, ?_, ?_⟩, rfl, ?_⟩
    · intro earlier before
      exact absurd before (Nat.not_lt_zero earlier)
    · intro short
      exact absurd short (Nat.lt_irrefl 0)
    · intro fault
      exact iff_of_false (Option.some_ne_none fault ∘ Eq.symm) fun short => Nat.lt_irrefl 0 short.1
  | succ limit ih =>
    intro run
    cases found : machine.step.result with
    | error fault =>
      have ended : run = _ := run_succ_of_error found limit
      rw [ended]
      refine ⟨.of_error found _, (step_of_fault found).2.1, ?_⟩
      intro other
      change some fault = some other ↔ 0 < limit + 1 ∧ machine.step.result = .error other
      simp [found]
    | ok instruction =>
      have continued : run = _ := run_succ_of_ok found limit
      obtain ⟨completes, same, ended⟩ := ih machine.step.machine
      rw [continued]
      dsimp only
      rw [after_succ]
      refine ⟨completes.succ found, same, ?_⟩
      intro fault
      rw [ended, Nat.add_lt_add_iff_right]

end SM83.Machine
