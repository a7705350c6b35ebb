import SM83.Proofs.Execute.Transfer
import SM83.Proofs.Run.Lockstep

/-! What a run on flat memory depends on: the bytes it reads, those of its own instructions
included, and no others. Two memories that agree on these bytes cannot be told apart by the run. -/
namespace SM83

namespace Memory

variable {memory other : Memory} {accesses : List Access} {address : UInt16}

/-- The same accesses keep two memories alike wherever they were. -/
theorem get_replay_congr (alike : other.get address = memory.get address) :
    (accesses.foldl Access.replay other).get address =
      (accesses.foldl Access.replay memory).get address := by
  induction accesses generalizing memory other with
  | nil => exact alike
  | cons access rest ih =>
    rw [List.foldl_cons, List.foldl_cons]
    apply ih
    cases access with
    | read => exact alike
    | write changed value =>
      change (other.set changed value).get address = (memory.set changed value).get address
      rw [get_set, get_set, alike]

/-- A byte that is written no longer depends on what it was. -/
theorem get_replay_of_written {value : UInt8} (written : Access.write address value ∈ accesses) :
    (accesses.foldl Access.replay other).get address =
      (accesses.foldl Access.replay memory).get address := by
  induction accesses generalizing memory other with
  | nil => cases written
  | cons access rest ih =>
    rcases List.mem_cons.mp written with rfl | written
    · rw [List.foldl_cons, List.foldl_cons]
      apply get_replay_congr
      change (other.set address value).get address = (memory.set address value).get address
      rw [get_set, get_set, if_pos rfl, if_pos rfl]
    · exact ih written

end Memory

/-- On memories that agree on the bytes it reads an action does the same. -/
theorem Action.observe_congr {α : Type} {action : Action α} {memory other : Memory}
    (agree : ∀ address value, Access.read address value ∈ (action.observe memory).accesses →
      other.get address = memory.get address) :
    (action.observe other).value = (action.observe memory).value ∧
      (action.observe other).accesses = (action.observe memory).accesses := by
  induction action generalizing memory other with
  | done value => exact ⟨rfl, rfl⟩
  | read address next ih =>
    have first : other.get address = memory.get address := agree _ _ List.mem_cons_self
    obtain ⟨value, accesses⟩ := @ih (memory.get address) memory other
      fun address value later => agree address value (List.mem_cons_of_mem _ later)
    simp only [observe, Memory.bus_read, first]
    exact ⟨value, congrArg (Access.read address _ :: ·) accesses⟩
  | write address value next ih =>
    have later : ∀ place byte, Access.read place byte ∈
        (next.observe (memory.set address value)).accesses →
        (other.set address value).get place = (memory.set address value).get place := by
      intro place byte read
      rw [Memory.get_set, Memory.get_set, agree place byte (List.mem_cons_of_mem _ read)]
    obtain ⟨result, accesses⟩ := ih later
    exact ⟨result, congrArg (Access.write address value :: ·) accesses⟩
  | note event next ih => exact ih agree

namespace Machine

variable {machine one twin : Machine Memory}

/-- All accesses of a run, in order. -/
def accesses (machine : Machine Memory) (limit : Nat) : List Access :=
  (machine.steps limit).flatMap Step.accesses

theorem accesses_succ_of_ok {instruction : Instruction}
    (found : machine.step.result = .ok instruction) (limit : Nat) :
    machine.accesses (limit + 1) =
      machine.step.accesses ++ machine.step.machine.accesses limit := by
  rw [accesses, steps_succ_of_ok found, List.flatMap_cons]
  rfl

theorem accesses_step (machine : Machine Memory) :
    machine.step.accesses = (machine.cpu.step.observe machine.bus).accesses := by
  rw [step]
  split <;> rfl

theorem bus_step (machine : Machine Memory) :
    machine.step.machine.bus = machine.step.accesses.foldl Access.replay machine.bus := by
  rw [accesses_step, ← Action.bus_observe, step]
  split <;> rfl

/-- A byte that a step does not write stays as it was. -/
theorem get_step {machine : Machine Memory} {address : UInt16}
    (spared : ∀ value, Access.write address value ∉ machine.step.accesses) :
    machine.step.machine.bus.get address = machine.bus.get address := by
  rw [bus_step]
  exact Memory.get_replay spared machine.bus

theorem bus_history (machine : Machine Memory) (limit : Nat) :
    (machine.history limit).machine.bus =
      (machine.accesses limit).foldl Access.replay machine.bus := by
  induction limit generalizing machine with
  | zero => rfl
  | succ limit ih =>
    cases found : machine.step.result with
    | error fault =>
      rw [accesses, steps_succ_of_error found, history, run_succ_of_error found,
        List.flatMap_singleton]
      exact machine.bus_step
    | ok instruction =>
      rw [accesses, steps_succ_of_ok found, history, run_succ_of_ok found, List.flatMap_cons,
        List.foldl_append, ← bus_step]
      exact ih _

/-- Equal processors on memories that agree on some of their bytes. -/
def Agree (consulted : UInt16 → Prop) (one twin : Machine Memory) : Prop :=
  twin.cpu = one.cpu ∧ ∀ address, consulted address → twin.bus.get address = one.bus.get address

/-- A step that reads only bytes on which the memories agree. -/
theorem step_of_agree {consulted : UInt16 → Prop} (start : Agree consulted one twin)
    (within : ∀ address value, Access.read address value ∈ one.step.accesses → consulted address) :
    Step.Alike (Agree consulted) one.step twin.step := by
  obtain ⟨_, memory⟩ := one
  obtain ⟨cpu, other⟩ := twin
  obtain ⟨rfl, agree⟩ := start
  have reads : ∀ address value, Access.read address value ∈ (cpu.step.observe memory).accesses →
      other.get address = memory.get address := by
    intro address value read
    rw [← accesses_step ⟨cpu, memory⟩] at read
    exact agree address (within address value read)
  obtain ⟨value, same⟩ := Action.observe_congr reads
  have accesses : (⟨cpu, other⟩ : Machine Memory).step.accesses =
      (⟨cpu, memory⟩ : Machine Memory).step.accesses := by
    rw [accesses_step, accesses_step]
    exact same
  have outcome : (⟨cpu, other⟩ : Machine Memory).step.result =
        (⟨cpu, memory⟩ : Machine Memory).step.result ∧
      (⟨cpu, other⟩ : Machine Memory).step.machine.cpu =
        (⟨cpu, memory⟩ : Machine Memory).step.machine.cpu := by
    simp only [step, value]
    split <;> exact ⟨rfl, rfl⟩
  refine ⟨outcome.1, accesses, outcome.2, ?_⟩
  intro address inside
  rw [bus_step, bus_step, accesses]
  exact Memory.get_replay_congr (agree address inside)

theorem accesses_of_alike {related : Machine Memory → Machine Memory → Prop} {limit : Nat}
    (alike : Run.Alike related (one.history limit) (twin.history limit)) :
    twin.accesses limit = one.accesses limit := by
  have steps : List.Forall₂ _ (one.steps limit) (twin.steps limit) := alike.steps
  rw [accesses, accesses]
  generalize one.steps limit = first, twin.steps limit = second at steps
  induction steps with
  | nil => rfl
  | cons first _ ih => rw [List.flatMap_cons, List.flatMap_cons, first.accesses, ih]

/-- A run of any length does the same on every memory that agrees on the bytes it reads: it finds
the same instructions or the same illegal opcode, makes the same accesses with the same values and
takes the processor through the same states. In the end the memories agree on all bytes that were
read or written, and each is as it was everywhere else. -/
theorem run_depends_on_reads {cpu : Cpu} {memory other : Memory} {limit : Nat}
    (agree : ∀ address value,
      Access.read address value ∈ (⟨cpu, memory⟩ : Machine Memory).accesses limit →
      other.get address = memory.get address) :
    let one : Machine Memory := ⟨cpu, memory⟩
    let twin : Machine Memory := ⟨cpu, other⟩
    Run.Alike (fun one twin => twin.cpu = one.cpu) (one.history limit) (twin.history limit) ∧
    (∀ address value, .read address value ∈ one.accesses limit ∨
        .write address value ∈ one.accesses limit →
      (twin.history limit).machine.bus.get address =
        (one.history limit).machine.bus.get address) ∧
    ∀ address, (∀ value, .write address value ∉ one.accesses limit) →
      (one.history limit).machine.bus.get address = memory.get address ∧
        (twin.history limit).machine.bus.get address = other.get address := by
  intro one twin
  let consulted (address : UInt16) : Prop := ∃ value, .read address value ∈ one.accesses limit
  have start : Agree consulted one twin := by
    refine ⟨rfl, ?_⟩
    rintro address ⟨value, read⟩
    exact agree address value read
  have within : ∀ step ∈ one.steps limit, ∀ address value,
      Access.read address value ∈ step.accesses → consulted address := by
    intro step member address value read
    exact ⟨value, List.mem_flatMap.mpr ⟨step, member, read⟩⟩
  have alike := history_alike (fun one twin => step_of_agree) start limit within
  have same := accesses_of_alike alike
  refine ⟨?_, ?_, ?_⟩
  · exact alike.mono fun one twin agree => agree.1
  · rintro address value (read | written)
    · exact alike.machine.2 address ⟨value, read⟩
    · rw [bus_history, bus_history, same]
      exact Memory.get_replay_of_written written
  · intro address untouched
    rw [bus_history, bus_history, same]
    exact ⟨Memory.get_replay untouched _, Memory.get_replay untouched _⟩

/-- The byte behind the one that is incremented twice neither matters nor changes. -/
theorem increment_ignores_next_byte :
    let cpu := (Cpu.ofConfig .default).setRegs { Registers.zero with hl := 0xC000 }
    let memory := Memory.zero.load 0 [0x34, 0x34]
    let one : Machine Memory := ⟨cpu, memory⟩
    let twin : Machine Memory := ⟨cpu, memory.set 0xC001 0x77⟩
    (one.history 2).executed = 2 ∧
      (twin.history 2).machine.cpu = (one.history 2).machine.cpu ∧
      (twin.history 2).machine.bus.get 0xC000 = (one.history 2).machine.bus.get 0xC000 ∧
      (twin.history 2).machine.bus.get 0xC001 = 0x77 := by
  intro cpu memory one twin
  let increment : Instruction := .inc .atHL
  let next := one.step.machine
  have found : one.step.result = .ok increment := by
    simp only [one, cpu, memory]
    rfl
  have again : next.step.result = .ok increment := by
    simp only [next, one, cpu, memory]
    rfl
  have pc : next.cpu.regs.pc = 1 := by
    simp only [next, one, cpu, memory]
    rfl
  have hl : next.cpu.regs.hl = 0xC000 := by
    simp only [next, one, cpu, memory]
    rfl
  have fetched (address : UInt16) : List.zipWith Access.read (Word.upFrom address 1)
      increment.encode = [.read address 0x34] := rfl
  obtain ⟨-, data, ⟨value, result, rfl⟩, first⟩ := step_accesses found
  obtain ⟨-, data, ⟨more, last, rfl⟩, second⟩ := step_accesses again
  rw [pc, hl] at second
  have accesses : one.accesses 2 =
      [.read 0 0x34, .read 0xC000 value, .write 0xC000 result,
        .read 1 0x34, .read 0xC000 more, .write 0xC000 last] := by
    rw [accesses_succ_of_ok found, accesses_succ_of_ok again,
      first.trans (congrArg (· ++ _) (fetched 0)), second.trans (congrArg (· ++ _) (fetched 1))]
    rfl
  have agree : ∀ address value, Access.read address value ∈ one.accesses 2 →
      (memory.set 0xC001 0x77).get address = memory.get address := by
    intro address value read
    have different : 0xC001 ≠ address := by
      rintro rfl
      simp [accesses] at read
    rw [Memory.get_set, if_neg different]
  have written : Access.write 0xC000 last ∈ one.accesses 2 := by simp [accesses]
  have spared : ∀ value, Access.write 0xC001 value ∉ one.accesses 2 := by simp [accesses]
  have executed : (one.history 2).executed = 2 := by
    rw [history, run_succ_of_ok found, run_succ_of_ok again]
    rfl
  obtain ⟨alike, touched, untouched⟩ := run_depends_on_reads agree
  refine ⟨executed, alike.machine, touched 0xC000 last (.inr written), ?_⟩
  rw [(untouched 0xC001 spared).2, Memory.get_set, if_pos rfl]

end Machine
end SM83
