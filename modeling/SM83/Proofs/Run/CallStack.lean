import SM83.Proofs.Execute.StackEffect
import SM83.Proofs.Run.Dependence
import SM83.Proofs.Run.Fault

/-! The stack in flat memory as a list of words. As long as a program pops only what it pushed,
stores nothing over the words on the stack and moves the stack pointer in no other way, memory holds
the list and every pop gets what the matching push put there. -/
namespace SM83

namespace Memory

/-- The words stand one behind the other from an address upwards, each with its low byte first. -/
def Holds (memory : Memory) (top : UInt16) (words : List UInt16) : Prop :=
  memory.slice top (2 * words.length) = words.flatMap fun word => [Word.low word, Word.high word]

variable {memory other : Memory} {top value : UInt16} {words : List UInt16}

theorem holds_cons :
    memory.Holds top (value :: words) ↔
      memory.get top = Word.low value ∧ memory.get (top + 1) = Word.high value ∧
        memory.Holds (top + 2) words := by
  have third : top + 1 + 1 = top + 2 := by rw [UInt16.add_assoc]; rfl
  rw [Holds, List.length_cons, Nat.mul_succ, slice_succ, slice_succ, third, List.flatMap_cons]
  simp only [List.cons_append, List.nil_append, List.cons.injEq, Holds]

theorem get_top (held : memory.Holds top (value :: words)) :
    Word.ofBytes (memory.get (top + 1)) (memory.get top) = value := by
  obtain ⟨low, high, -⟩ := holds_cons.mp held
  rw [low, high, Word.ofBytes_high_low]

theorem holds_congr
    (agree : ∀ x ∈ Word.upFrom top (2 * words.length), other.get x = memory.get x)
    (held : memory.Holds top words) : other.Holds top words :=
  (slice_congr agree).trans held

/-- A word pushed below at most 32767 others meets none of them. -/
theorem holds_push (room : words.length < 32768) (held : memory.Holds top words) :
    ((memory.set (top - 1) (Word.high value)).set (top - 2) (Word.low value)).Holds (top - 2)
      (value :: words) := by
  have second : top - 2 + 1 = top - 1 := by grind
  have third : top - 2 + 2 = top := UInt16.sub_add_cancel top 2
  have apart : top - 2 ≠ top - 1 := by grind
  rw [holds_cons, second, third]
  refine ⟨?_, ?_, holds_congr (fun x inside => ?_) held⟩
  · rw [get_set, if_pos rfl]
  · rw [get_set, if_neg apart, get_set, if_pos rfl]
  · -- the distance from `top` to either new byte exceeds that to any word held
    rw [Word.mem_upFrom (by omega)] at inside
    have far : (65534 : UInt16).toNat = 65534 ∧ (65535 : UInt16).toNat = 65535 := ⟨rfl, rfl⟩
    have below : top - 2 ≠ x := by
      rintro rfl
      rw [show top - 2 - top = 65534 by grind] at inside
      omega
    have next : top - 1 ≠ x := by
      rintro rfl
      rw [show top - 1 - top = 65535 by grind] at inside
      omega
    rw [get_set, if_neg below, get_set, if_neg next]

end Memory

namespace Machine

/-- What the next step does to the stack; a step that finds no instruction leaves it alone. -/
def stackEffect (machine : Machine Memory) : StackEffect :=
  match machine.step.result with
  | .ok instruction => machine.cpu.stackEffect instruction
  | .error _ => .keep

/-- The words pushed and not yet popped after a number of steps, the last pushed first. -/
def pushed (machine : Machine Memory) : Nat → List UInt16
  | 0 => []
  | steps + 1 => (machine.after steps).stackEffect.apply (machine.pushed steps)

/-- The next step keeps to the rules of a stack with these words on it. -/
structure Respects (machine : Machine Memory) (words : List UInt16) : Prop where
  pops_pushed : machine.stackEffect = .pop → words ≠ []
  room : (machine.stackEffect.apply words).length ≤ 32768
  still : machine.stackEffect ≠ .move
  /-- Stores other than those of a push leave the words on the stack alone. -/
  apart : (∀ value, machine.stackEffect ≠ .push value) →
    ∀ address ∈ Word.upFrom machine.cpu.regs.sp (2 * words.length),
      ∀ value, Access.write address value ∉ machine.step.accesses

/-- What a pop finds on top is what an earlier step pushed: in between the stack stays higher than
it was before the push, and in the end it is higher by one word. -/
structure Matches (machine : Machine Memory) (opening closing : Nat) (value : UInt16) : Prop where
  pushes : (machine.after opening).stackEffect = .push value
  before : opening < closing
  higher : ∀ k, opening < k → k ≤ closing →
    (machine.pushed opening).length < (machine.pushed k).length
  level : (machine.pushed closing).length = (machine.pushed opening).length + 1

variable {machine : Machine Memory} {instruction : Instruction} {value : UInt16}
  {words : List UInt16}

theorem stackEffect_of_ok (found : machine.step.result = .ok instruction) :
    machine.stackEffect = machine.cpu.stackEffect instruction := by
  rw [stackEffect, found]

theorem exists_of_stackEffect (changes : machine.stackEffect ≠ .keep) :
    ∃ instruction, machine.step.result = .ok instruction ∧
      machine.stackEffect = machine.cpu.stackEffect instruction := by
  cases found : machine.step.result with
  | ok instruction => exact ⟨instruction, rfl, stackEffect_of_ok found⟩
  | error fault => exact absurd (by rw [stackEffect, found]) changes

theorem decoded_bus : machine.decoded.bus = machine.bus := by
  rw [decoded, decode, Action.observe_bind, Observed.andThen]
  simp only [Action.observe_readByte, Memory.bus_read]
  cases Opcode.template (machine.bus.get machine.cpu.regs.pc) <;> rfl

/-- The memory after a step, from the data accesses of the instruction. -/
theorem step_bus (found : machine.step.result = .ok instruction) :
    machine.step.machine.bus =
      (machine.executed instruction).accesses.foldl Access.replay machine.bus := by
  rw [step_of_ok found]
  calc (machine.executed instruction).bus
    _ = (machine.executed instruction).accesses.foldl Access.replay machine.decoded.bus :=
      Action.bus_observe _ _
    _ = (machine.executed instruction).accesses.foldl Access.replay machine.bus := by
      rw [decoded_bus]

theorem step_bus_of_push (pushes : machine.stackEffect = .push value) :
    machine.step.machine.bus =
      (machine.bus.set (machine.cpu.regs.sp - 1) (Word.high value)).set (machine.cpu.regs.sp - 2)
        (Word.low value) := by
  have changes : machine.stackEffect ≠ .keep := by simp [pushes]
  obtain ⟨instruction, found, effect⟩ := exists_of_stackEffect changes
  have data := machine.cpu.execute_transfer instruction machine.decoded.bus
  rw [Cpu.transfer_of_push (effect.symm.trans pushes)] at data
  rw [step_bus found, show (machine.executed instruction).accesses = _ from data]
  rfl

theorem executed_of_pop (pops : machine.stackEffect = .pop) :
    ∃ instruction low high, machine.step.result = .ok instruction ∧
      (machine.executed instruction).accesses =
        [.read machine.cpu.regs.sp low, .read (machine.cpu.regs.sp + 1) high] := by
  have changes : machine.stackEffect ≠ .keep := by simp [pops]
  obtain ⟨instruction, found, effect⟩ := exists_of_stackEffect changes
  have data := machine.cpu.execute_transfer instruction machine.decoded.bus
  rw [Cpu.transfer_of_pop (effect.symm.trans pops)] at data
  obtain ⟨low, high, data⟩ := data
  exact ⟨instruction, low, high, found, data⟩

theorem step_bus_of_pop (pops : machine.stackEffect = .pop) :
    machine.step.machine.bus = machine.bus := by
  obtain ⟨instruction, low, high, found, data⟩ := executed_of_pop pops
  rw [step_bus found, data]
  rfl

theorem not_write_of_pop (pops : machine.stackEffect = .pop) (address : UInt16) (value : UInt8) :
    Access.write address value ∉ machine.step.accesses := by
  obtain ⟨instruction, low, high, found, data⟩ := executed_of_pop pops
  rw [result_step] at found
  have fetched := (decode_ok found).2
  rw [step_of_decoded_ok found, data]
  intro written
  rcases List.mem_append.mp written with written | written
  · rw [decoded, fetched, ← List.map_uncurry_zip_eq_zipWith] at written
    obtain ⟨byte, -, read⟩ := List.mem_map.mp written
    cases read
  · simp at written

theorem step_moves (machine : Machine Memory) :
    machine.stackEffect.Moves machine.cpu.regs.sp machine.step.machine.cpu.regs.sp := by
  cases found : machine.step.result with
  | error fault =>
    rw [stackEffect, found, (step_of_fault found).2.1]
    rfl
  | ok instruction =>
    rw [stackEffect_of_ok found]
    rw [step_of_ok found]
    exact machine.cpu.execute_moves instruction machine.decoded.bus

/-- A step that pops receives the word that the stack pointer points to. -/
theorem step_popped (found : machine.step.result = .ok instruction)
    (pops : machine.cpu.stackEffect instruction = .pop) :
    machine.step.machine.cpu.Received instruction
      (Word.ofBytes (machine.bus.get (machine.cpu.regs.sp + 1))
        (machine.bus.get machine.cpu.regs.sp)) := by
  have received := Cpu.execute_received pops machine.bus
  rw [step_of_ok found]
  change ((machine.fetched instruction).execute instruction |>.observe
    machine.decoded.bus).value.Received _ _
  rw [decoded_bus]
  exact received

theorem step_received (found : machine.step.result = .ok instruction)
    (pops : machine.cpu.stackEffect instruction = .pop)
    (held : machine.bus.Holds machine.cpu.regs.sp (value :: words)) :
    machine.step.machine.cpu.Received instruction value := by
  have received := step_popped found pops
  rwa [Memory.get_top held] at received

theorem step_holds (held : machine.bus.Holds machine.cpu.regs.sp words)
    (respects : machine.Respects words) :
    machine.step.machine.bus.Holds machine.step.machine.cpu.regs.sp
      (machine.stackEffect.apply words) := by
  have moved := machine.step_moves
  have apart := respects.apart
  have room := respects.room
  cases effect : machine.stackEffect with
  | move => exact absurd effect respects.still
  | keep =>
    rw [effect] at moved
    rw [show machine.step.machine.cpu.regs.sp = _ from moved]
    refine Memory.holds_congr (fun address inside => ?_) held
    exact get_step (apart (fun value => by simp [effect]) address inside)
  | push value =>
    rw [effect] at moved room
    rw [show machine.step.machine.cpu.regs.sp = _ from moved, step_bus_of_push effect]
    exact Memory.holds_push (Nat.lt_of_succ_le room) held
  | pop =>
    rw [effect] at moved
    obtain ⟨value, rest, rfl⟩ := List.exists_cons_of_ne_nil (respects.pops_pushed effect)
    rw [show machine.step.machine.cpu.regs.sp = _ from moved, step_bus_of_pop effect]
    exact (Memory.holds_cons.mp held).2.2

/-- The stack pointer moves down by two for every word on the stack. -/
theorem step_level {bottom : UInt16}
    (level : machine.cpu.regs.sp = bottom - UInt16.ofNat (2 * words.length))
    (respects : machine.Respects words) :
    machine.step.machine.cpu.regs.sp =
      bottom - UInt16.ofNat (2 * (machine.stackEffect.apply words).length) := by
  have moved := machine.step_moves
  have two : UInt16.ofNat 2 = 2 := rfl
  cases effect : machine.stackEffect with
  | move => exact absurd effect respects.still
  | keep =>
    rw [effect] at moved
    exact Eq.trans moved level
  | push value =>
    rw [effect] at moved
    rw [show machine.step.machine.cpu.regs.sp = _ from moved, level, StackEffect.apply,
      List.length_cons, Nat.mul_succ, UInt16.ofNat_add, two]
    grind
  | pop =>
    rw [effect] at moved
    obtain ⟨value, rest, rfl⟩ := List.exists_cons_of_ne_nil (respects.pops_pushed effect)
    rw [show machine.step.machine.cpu.regs.sp = _ from moved, level, StackEffect.apply,
      List.length_cons, Nat.mul_succ, UInt16.ofNat_add, two, List.tail_cons]
    grind

/-- A run that keeps to the rules keeps the words pushed and not yet popped in memory. -/
theorem after_holds {steps : Nat}
    (respects : ∀ k < steps, (machine.after k).Respects (machine.pushed k)) :
    (machine.after steps).cpu.regs.sp =
        machine.cpu.regs.sp - UInt16.ofNat (2 * (machine.pushed steps).length) ∧
      (machine.after steps).bus.Holds (machine.after steps).cpu.regs.sp
        (machine.pushed steps) := by
  induction steps with
  | zero => exact ⟨(UInt16.sub_zero _).symm, rfl⟩
  | succ steps ih =>
    obtain ⟨level, held⟩ := ih fun k earlier => respects k (by omega)
    have rule := respects steps (Nat.lt_succ_self steps)
    exact ⟨step_level level rule, step_holds held rule⟩

/-- The word on top comes from the last step that left the stack lower than it is. -/
theorem exists_push {steps : Nat} (top : machine.pushed steps = value :: words) :
    ∃ opening < steps, (machine.after opening).stackEffect = .push value ∧
      machine.pushed opening = words ∧
      ∀ k, opening < k → k ≤ steps → words.length < (machine.pushed k).length := by
  induction steps using Nat.strongRecOn generalizing value words with
  | ind steps ih =>
    cases steps with
    | zero => cases top
    | succ steps =>
      have now : words.length < (machine.pushed (steps + 1)).length := by
        rw [top]
        exact Nat.lt_succ_self _
      rw [pushed] at top
      cases effect : (machine.after steps).stackEffect with
      | keep | move =>
        rw [effect] at top
        obtain ⟨opening, before, pushes, same, higher⟩ := ih steps (Nat.lt_succ_self _) top
        refine ⟨opening, by omega, pushes, same, fun k later earlier => ?_⟩
        obtain rfl | earlier := Nat.eq_or_lt_of_le earlier
        · exact now
        · exact higher k later (by omega)
      | push other =>
        rw [effect] at top
        obtain ⟨rfl, same⟩ := List.cons.inj top
        refine ⟨steps, Nat.lt_succ_self _, effect, same, fun k later earlier => ?_⟩
        obtain rfl : k = steps + 1 := by omega
        exact now
      | pop =>
        -- the word popped now was pushed after the one below it: one push leads to the other
        rw [effect] at top
        obtain ⟨other, covered⟩ : ∃ other, machine.pushed steps = other :: value :: words := by
          cases former : machine.pushed steps with
          | nil => rw [former] at top; cases top
          | cons other rest => rw [former] at top; exact ⟨other, congrArg _ top⟩
        obtain ⟨middle, between, -, same, above⟩ := ih steps (Nat.lt_succ_self _) covered
        obtain ⟨opening, before, pushes, below, higher⟩ := ih middle (by omega) same
        refine ⟨opening, by omega, pushes, below, fun k later earlier => ?_⟩
        rcases Nat.lt_or_ge middle k with late | early
        · obtain rfl | earlier := Nat.eq_or_lt_of_le earlier
          · exact now
          · exact Nat.lt_of_succ_lt (above k late (by omega))
        · exact higher k later early

/-- While the stack stays higher than before a push, what was pushed stays on it. -/
theorem pushed_suffix {opening steps : Nat}
    (pushes : (machine.after opening).stackEffect = .push value) (before : opening < steps)
    (higher : ∀ k, opening < k → k ≤ steps →
      (machine.pushed opening).length < (machine.pushed k).length) :
    value :: machine.pushed opening <:+ machine.pushed steps := by
  induction steps with
  | zero => omega
  | succ steps ih =>
    obtain rfl | before := Nat.eq_or_lt_of_le (Nat.le_of_lt_succ before)
    · rw [pushed, pushes]
      exact List.suffix_refl _
    · have kept := ih before fun k later earlier => higher k later (by omega)
      have last := higher (steps + 1) (by omega) le_rfl
      rw [pushed] at last ⊢
      cases effect : (machine.after steps).stackEffect with
      | keep | move => exact kept
      | push other => exact kept.trans (List.suffix_cons other _)
      | pop =>
        rw [effect] at last
        rw [StackEffect.apply] at last ⊢
        cases former : machine.pushed steps with
        | nil => rw [former] at last; cases last
        | cons other rest =>
          rw [former, List.tail_cons] at last
          rw [former] at kept
          obtain same | kept := List.suffix_cons_iff.mp kept
          · obtain ⟨-, same⟩ := List.cons.inj same
            rw [same] at last
            exact absurd last (Nat.lt_irrefl _)
          · exact kept

theorem Matches.pushed_eq {opening closing : Nat}
    (matched : machine.Matches opening closing value) :
    machine.pushed closing = value :: machine.pushed opening := by
  have kept := pushed_suffix matched.pushes matched.before matched.higher
  exact (kept.eq_of_length matched.level.symm).symm

/-- A run of any length keeps to the rules if it pops nothing it has not pushed, has at most 32768
words on the stack, moves the stack pointer by pushes and pops only and stores nothing else over the
words on the stack. Then these stand in memory from the stack pointer upwards, and the pointer has
moved down by two for each of them. Every pop matches a push, gets its word and puts the stack
pointer back to where it was, so every return leads behind its call. -/
theorem stack_refines {steps : Nat}
    (respects : ∀ k < steps, (machine.after k).Respects (machine.pushed k)) :
    (∀ k ≤ steps,
      (machine.after k).cpu.regs.sp =
          machine.cpu.regs.sp - UInt16.ofNat (2 * (machine.pushed k).length) ∧
        (machine.after k).bus.Holds (machine.after k).cpu.regs.sp (machine.pushed k)) ∧
    ∀ k < steps, ∀ instruction, (machine.after k).step.result = .ok instruction →
      (machine.after k).cpu.stackEffect instruction = .pop →
      (∃ opening value, machine.Matches opening k value) ∧
      ∀ opening value, machine.Matches opening k value →
        (machine.after (k + 1)).cpu.Received instruction value ∧
          (machine.after (k + 1)).cpu.regs.sp = (machine.after opening).cpu.regs.sp := by
  have states : ∀ k ≤ steps, _ := fun k within =>
    after_holds fun j earlier => respects j (Nat.lt_of_lt_of_le earlier within)
  refine ⟨states, fun k within instruction found pops => ⟨?_, fun opening value matched => ?_⟩⟩
  · have effect := (stackEffect_of_ok found).trans pops
    obtain ⟨value, words, top⟩ :=
      List.exists_cons_of_ne_nil ((respects k within).pops_pushed effect)
    obtain ⟨opening, before, pushes, below, higher⟩ := exists_push top
    refine ⟨opening, value, pushes, before, ?_, ?_⟩
    · rwa [below]
    · rw [top, below]; rfl
  · have top := matched.pushed_eq
    have held := (states k (Nat.le_of_lt within)).2
    rw [top] at held
    refine ⟨step_received found pops held, ?_⟩
    have popped : machine.pushed (k + 1) = machine.pushed opening := by
      rw [pushed, stackEffect_of_ok found, pops, top]
      rfl
    have earlier : opening ≤ steps := Nat.le_of_lt (Nat.lt_trans matched.before within)
    rw [(states (k + 1) within).1, popped, (states opening earlier).1]

/-- A call and the return that it leads to: the second step ends behind the call, and the stack
pointer is where it was. -/
theorem call_returns :
    let machine : Machine Memory :=
      ⟨Cpu.ofConfig .default, Memory.zero.load 0 [0xCD, 0x04, 0x00, 0x00, 0xC9]⟩
    (machine.after 2).cpu.regs.pc = 3 ∧
      (machine.after 2).cpu.regs.sp = machine.cpu.regs.sp := by
  intro machine
  have called : machine.step.result = .ok (.call none 4) := by
    rw [result_step]
    refine decode_eq_ok_iff.mpr ⟨trivial, ?_⟩
    change machine.bus.slice 0 3 = [0xCD, 0x04, 0x00]
    rw [← Memory.take_slice _ _ (show 3 ≤ 5 by decide)]
    exact congrArg (List.take 3) (Memory.slice_load (by decide))
  have pushes : machine.stackEffect = .push 3 := stackEffect_of_ok called
  have entered : (machine.after 1).cpu.regs.pc = 4 := by
    rw [result_step] at called
    rw [after, after, step_of_decoded_ok called]
    rfl
  have returned : (machine.after 1).step.result = .ok (.ret none) := by
    rw [result_step]
    refine decode_eq_ok_iff.mpr ⟨trivial, ?_⟩
    rw [entered, after, after, step_bus_of_push pushes]
    change [((machine.bus.set (0xFFFE - 1) _).set (0xFFFE - 2) _).get 4] = [0xC9]
    simp [machine, Memory.load]
  have pops : (machine.after 1).stackEffect = .pop := stackEffect_of_ok returned
  have pushed : machine.pushed 1 = [3] := by
    rw [Machine.pushed, Machine.pushed, after, pushes]
    rfl
  have respects : ∀ k < 2, (machine.after k).Respects (machine.pushed k) := by
    intro k within
    obtain rfl | rfl : k = 0 ∨ k = 1 := by omega
    · refine ⟨?_, ?_, ?_, fun none => absurd pushes (none 3)⟩ <;> rw [after, pushes]
      · simp
      · decide
      · simp
    · refine ⟨?_, ?_, ?_, fun _ address _ => not_write_of_pop pops address⟩ <;> rw [pops]
      · simp [pushed]
      · simp [pushed, StackEffect.apply]
      · simp
  obtain ⟨-, pop⟩ := stack_refines respects
  obtain ⟨-, gets⟩ := pop 1 (by decide) _ returned rfl
  refine gets 0 3 ⟨pushes, by decide, fun k later earlier => ?_, ?_⟩
  · obtain rfl : k = 1 := by omega
    rw [pushed]
    decide
  · rw [pushed]
    rfl

end Machine
end SM83
