import Mathlib.Data.UInt
import SM83.Proofs.Execute.Pointer
import SM83.Proofs.Run.Control
import SM83.Proofs.Run.Dependence

/-! Instructions that are found in memory one behind the other and those that a run executes. Where
none of them jumps and no write hits them, they are the same, wherever memory wraps. -/
namespace SM83

namespace Instruction

/-- Behind the instruction the next one in memory is executed. -/
def Straight (config : Config) : Instruction → Prop
  | jp _ _ | jpHL | jr _ _ | call _ _ | ret _ | reti | rst _ => False
  | stop => config.stop = .single
  | _ => True

/-- The addresses of instructions that stand one behind the other. -/
def addresses (start : UInt16) : List Instruction → List UInt16
  | [] => []
  | instruction :: rest =>
    Word.upFrom start instruction.length.toNat ++ addresses (start + instruction.length) rest

end Instruction

namespace Memory

variable {memory other : Memory} {start : UInt16} {count : Nat} {instruction : Instruction}
  {instructions : List Instruction}

/-- The instructions that follow each other in memory from an address on, each read behind the one
before; nothing is executed. -/
def sweep (memory : Memory) (start : UInt16) : Nat → Except IllegalOpcode (List Instruction)
  | 0 => .ok []
  | count + 1 => do
    let instruction ← ((decode start).observe memory).value
    let rest ← memory.sweep (start + instruction.length) count
    return instruction :: rest

theorem sweep_succ_eq_ok_iff :
    memory.sweep start (count + 1) = .ok instructions ↔
      ∃ instruction rest, instructions = instruction :: rest ∧
        ((decode start).observe memory).value = .ok instruction ∧
        memory.sweep (start + instruction.length) count = .ok rest := by
  rw [sweep]
  cases ((decode start).observe memory).value with
  | error fault => exact iff_of_false nofun (by rintro ⟨_, _, _, found, _⟩; cases found)
  | ok instruction =>
    change (memory.sweep (start + instruction.length) count >>= fun rest =>
      .ok (instruction :: rest)) = _ ↔ _
    constructor
    · intro swept
      cases behind : memory.sweep (start + instruction.length) count with
      | error fault => rw [behind] at swept; cases swept
      | ok rest =>
        rw [behind] at swept
        exact ⟨instruction, rest, (Except.ok.inj swept).symm, rfl, behind⟩
    · rintro ⟨other, rest, rfl, found, behind⟩
      cases found
      rw [behind]
      rfl

theorem decode_congr
    (agree : ∀ x ∈ Word.upFrom start instruction.length.toNat, other.get x = memory.get x)
    (found : ((decode start).observe memory).value = .ok instruction) :
    ((decode start).observe other).value = .ok instruction := by
  rw [decode_eq_ok_iff] at found ⊢
  exact ⟨found.1, (slice_congr agree).trans found.2⟩

theorem sweep_congr
    (agree : ∀ x ∈ Instruction.addresses start instructions, other.get x = memory.get x)
    (swept : memory.sweep start count = .ok instructions) :
    other.sweep start count = .ok instructions := by
  induction count generalizing start instructions with
  | zero => exact swept
  | succ count ih =>
    obtain ⟨instruction, rest, rfl, found, behind⟩ := sweep_succ_eq_ok_iff.mp swept
    obtain ⟨first, later⟩ := List.forall_mem_append.mp agree
    exact sweep_succ_eq_ok_iff.mpr
      ⟨instruction, rest, rfl, decode_congr first found, ih later behind⟩

end Memory

theorem Cpu.execute_pc {σ : Type} [Bus σ] {cpu : Cpu} {instruction : Instruction}
    (straight : instruction.Straight cpu.config) (bus : σ) :
    ((cpu.execute instruction).observe bus).value.regs.pc = cpu.regs.pc := by
  cases instruction with
  | jp | jpHL | jr | call | ret | reti | rst => exact straight.elim
  | stop =>
    have single : cpu.config.stop = .single := straight
    simp only [execute, stop, single]
    rfl
  | di => rw [execute, observe_disableInterrupts]; rfl
  | ei => rw [execute, observe_enableInterrupts]; rfl
  | ld target source =>
    rw [execute, Action.observe_bind]
    exact (pointers_writeOperand _ _ _ _).pc
  | storeA place => exact (pointers_locate _ place).pc
  | loadA place => exact (pointers_setByte _ _ _).pc.trans (pointers_locate _ place).pc
  | ldImmediate16 target | inc16 target | dec16 target => cases target <;> rfl
  | pop pair => cases pair <;> rfl
  | alu op source =>
    rw [execute, Action.observe_bind]
    exact (pointers_applyAlu _ _ _).pc
  | inc target | dec target | shift _ target =>
    rw [execute]
    exact (pointers_update _ _ _ _).pc
  | res _ target | set _ target =>
    rw [execute]
    exact (pointers_updateBits _ _ _ _).pc
  | rotateA rotation => exact (pointers_rotateA _ rotation).pc
  | bit index target =>
    rw [execute, Action.observe_bind]
    rfl
  | _ => rfl

namespace Machine

variable {machine : Machine Memory} {instruction : Instruction} {instructions : List Instruction}
  {count : Nat}

theorem pc_step (found : machine.step.result = .ok instruction)
    (straight : instruction.Straight machine.cpu.config) :
    machine.step.machine.cpu.regs.pc = machine.cpu.regs.pc + instruction.length := by
  rw [step_of_ok found]
  have config : (machine.fetched instruction).config = machine.cpu.config := rfl
  exact Cpu.execute_pc (config ▸ straight) machine.decoded.bus

theorem get_history {address : UInt16}
    (spared : ∀ value, Access.write address value ∉ machine.accesses count) :
    (machine.history count).machine.bus.get address = machine.bus.get address := by
  rw [bus_history]
  exact Memory.get_replay spared machine.bus

/-- Straight instructions that no write of the run hits are executed one after the other. -/
theorem history_of_swept
    (swept : machine.bus.sweep machine.cpu.regs.pc count = .ok instructions)
    (straight : ∀ instruction ∈ instructions, instruction.Straight machine.cpu.config)
    (spared : ∀ address ∈ Instruction.addresses machine.cpu.regs.pc instructions, ∀ value,
      Access.write address value ∉ machine.accesses count) :
    let run := machine.history count
    run.records.toList.map Step.result = instructions.map .ok ∧
    run.executed = count ∧ run.fault = none ∧
    run.machine.cpu.regs.pc =
      machine.cpu.regs.pc + (instructions.map Instruction.length).sum := by
  -- The machine varies: after the first step the rest is swept from where that step leads, and it
  -- is still the same rest because the step wrote over none of it.
  induction count generalizing machine instructions with
  | zero =>
    cases swept
    exact ⟨rfl, rfl, rfl, (UInt16.add_zero _).symm⟩
  | succ count ih =>
    obtain ⟨instruction, rest, rfl, decoded, behind⟩ := Memory.sweep_succ_eq_ok_iff.mp swept
    have found : machine.step.result = .ok instruction := machine.result_step.trans decoded
    obtain ⟨first, later⟩ := List.forall_mem_cons.mp straight
    let next := machine.step.machine
    have pc : next.cpu.regs.pc = machine.cpu.regs.pc + instruction.length := pc_step found first
    have config : next.cpu.config = machine.cpu.config := machine.config_step
    have ahead : ∀ address ∈ Instruction.addresses next.cpu.regs.pc rest, ∀ value,
        Access.write address value ∉ machine.step.accesses ∧
          Access.write address value ∉ next.accesses count := by
      intro address member value
      rw [pc] at member
      have both := spared address (List.mem_append_right _ member) value
      rw [accesses_succ_of_ok found] at both
      exact ⟨fun hit => both (List.mem_append_left _ hit),
        fun hit => both (List.mem_append_right _ hit)⟩
    have kept : next.bus.sweep next.cpu.regs.pc count = .ok rest := by
      refine Memory.sweep_congr ?_ (pc ▸ behind)
      intro address member
      exact get_step fun value => (ahead address member value).1
    obtain ⟨results, executed, fault, landed⟩ :=
      ih kept (config ▸ later) fun address member value => (ahead address member value).2
    rw [history, run_succ_of_ok found]
    refine ⟨?_, congrArg Nat.succ executed, fault, ?_⟩
    · simpa [history, found] using results
    · rw [List.map_cons, List.sum_cons, ← UInt16.add_assoc, ← pc]
      exact landed

/-- Where the instructions that follow each other in memory are straight, as many steps execute
exactly them, unless the run itself writes over one of them. Then the program counter stands behind
the last, and all of them are still there. -/
theorem straight_line_runs_as_swept
    (swept : machine.bus.sweep machine.cpu.regs.pc count = .ok instructions)
    (straight : ∀ instruction ∈ instructions, instruction.Straight machine.cpu.config)
    (spared : ∀ address ∈ Instruction.addresses machine.cpu.regs.pc instructions, ∀ value,
      Access.write address value ∉ machine.accesses count) :
    let run := machine.history count
    run.records.toList.map Step.result = instructions.map .ok ∧
    run.executed = count ∧ run.fault = none ∧
    run.machine.cpu.regs.pc =
      machine.cpu.regs.pc + (instructions.map Instruction.length).sum ∧
    ∀ address ∈ Instruction.addresses machine.cpu.regs.pc instructions,
      run.machine.bus.get address = machine.bus.get address := by
  obtain ⟨results, executed, fault, pc⟩ := history_of_swept swept straight spared
  exact ⟨results, executed, fault, pc, fun address member => get_history (spared address member)⟩

/-- A store whose bytes stand at the last address and at the first, and what follows it there. -/
theorem store_across_top :
    let machine : Machine Memory :=
      ⟨(Cpu.ofConfig .default).setWord .pc 0xFFFF, (Memory.zero.set 0xFFFF 0xE0).set 0 0x80⟩
    (machine.history 2).records.toList.map Step.result =
        [.ok (.storeA (.high 0x80)), .ok .nop] ∧
      (machine.history 2).executed = 2 ∧ (machine.history 2).machine.cpu.regs.pc = 2 ∧
      (machine.history 2).machine.bus.get 0xFFFF = 0xE0 ∧
      (machine.history 2).machine.bus.get 0 = 0x80 ∧
      (machine.history 2).machine.bus.get 1 = 0x00 := by
  intro machine
  let store : Instruction := .storeA (.high 0x80)
  have start : machine.cpu.regs.pc = 0xFFFF := rfl
  have top : machine.bus.get 0xFFFF = 0xE0 := by simp [machine]
  have bottom : machine.bus.get 0 = 0x80 := by simp [machine]
  have blank : machine.bus.get 1 = 0x00 := by simp [machine]
  have found : ((decode 0xFFFF).observe machine.bus).value = .ok store := by
    refine decode_eq_ok_iff.mpr ⟨trivial, ?_⟩
    change [machine.bus.get 0xFFFF, machine.bus.get 0] = [0xE0, 0x80]
    rw [top, bottom]
  have idle {memory : Memory} (empty : memory.get 1 = 0x00) :
      ((decode 1).observe memory).value = .ok .nop :=
    decode_eq_ok_iff.mpr ⟨trivial, congrArg (· :: []) empty⟩
  have crossed : 0xFFFF + store.length = 1 := by decide
  have swept : machine.bus.sweep 0xFFFF 2 = .ok [store, .nop] := by
    refine Memory.sweep_succ_eq_ok_iff.mpr ⟨store, [.nop], rfl, found, ?_⟩
    rw [crossed]
    exact Memory.sweep_succ_eq_ok_iff.mpr ⟨.nop, [], rfl, idle blank, rfl⟩
  have straight : ∀ instruction ∈ [store, .nop], instruction.Straight machine.cpu.config :=
    List.forall_mem_cons.mpr ⟨trivial, List.forall_mem_singleton.mpr trivial⟩
  have occupied : Instruction.addresses 0xFFFF [store, .nop] = [0xFFFF, 0, 1] := by decide
  have stored : machine.step.result = .ok store := machine.result_step.trans found
  have first : machine.step.accesses =
      [.read 0xFFFF 0xE0, .read 0 0x80, .write 0xFF80 (machine.cpu.regs.byte .a)] := by
    obtain ⟨-, data, rfl, accesses⟩ := step_accesses stored
    have fetched : List.zipWith Access.read (Word.upFrom 0xFFFF 2) store.encode =
        [.read 0xFFFF 0xE0, .read 0 0x80] := by decide
    exact accesses.trans (congrArg (· ++ _) fetched)
  have landed : machine.step.machine.cpu.regs.pc = 1 := by
    rw [pc_step stored trivial, start, crossed]
  have idled : machine.step.machine.step.result = .ok .nop := by
    have kept : machine.step.machine.bus.get 1 = machine.bus.get 1 := get_step (by simp [first])
    rw [result_step, decoded, landed]
    exact idle (kept.trans blank)
  have second : machine.step.machine.step.accesses = [.read 1 0x00] := by
    obtain ⟨-, data, rfl, accesses⟩ := step_accesses idled
    rw [accesses, landed]
    rfl
  have spared : ∀ address ∈ Instruction.addresses 0xFFFF [store, .nop], ∀ value,
      Access.write address value ∉ machine.accesses 2 := by
    have all : machine.accesses 2 = [.read 0xFFFF 0xE0, .read 0 0x80,
        .write 0xFF80 (machine.cpu.regs.byte .a), .read 1 0x00] := by
      rw [accesses_succ_of_ok stored, accesses_succ_of_ok idled, first, second]
      rfl
    simp [all, occupied]
  obtain ⟨results, executed, -, behind, unchanged⟩ :=
    straight_line_runs_as_swept swept straight spared
  rw [start] at behind unchanged
  rw [occupied, List.forall_mem_cons, List.forall_mem_cons, List.forall_mem_singleton, top, bottom,
    blank] at unchanged
  have after : 0xFFFF + ([store, .nop].map Instruction.length).sum = 2 := by decide
  exact ⟨results, executed, behind.trans after, unchanged⟩

end Machine
end SM83
