import SM83.Proofs.Alu.WordAdder
import SM83.Proofs.Run.CallStack
import SM83.Proofs.Run.StraightLine

/-! Where a step leads. The program counter after every instruction is told from the state before it,
in numbers: the place that a jump, a call or a return leads to if it is taken, and otherwise the
address behind the instruction, wherever the address space wraps. -/
namespace SM83

namespace Word

theorem toNat_add_ofSigned (word : UInt16) (offset : Int8) :
    (word + ofSigned offset).toNat = ((word.toNat + offset.toInt) % 65536).toNat := by
  have signed := toNat_ofSigned offset
  rw [UInt16.toNat_add]
  omega

end Word

namespace Cpu

def Calls (cpu : Cpu) : Instruction → Prop
  | .call condition _ => cpu.satisfies condition
  | .rst _ => cpu.config.restart = .pushReturn
  | _ => False

theorem stackEffect_of_calls {cpu : Cpu} {instruction : Instruction}
    (calls : cpu.Calls instruction) :
    cpu.stackEffect instruction = .push (cpu.regs.pc + instruction.length) := by
  cases instruction with
  | call condition address => exact if_pos calls
  | rst vector =>
    have pushes : cpu.config.restart = .pushReturn := calls
    simp only [stackEffect, pushes]
  | _ => exact calls.elim

end Cpu

namespace Machine

def top (machine : Machine Memory) : Nat :=
  (machine.bus.get machine.cpu.regs.sp).toNat +
    256 * (machine.bus.get (machine.cpu.regs.sp + 1)).toNat

/-- Where an instruction at the program counter leads, as a number. -/
def destination (machine : Machine Memory) (instruction : Instruction) : Nat :=
  let next := (machine.cpu.regs.pc.toNat + instruction.length.toNat) % 65536
  match instruction with
  | .jp condition address | .call condition address =>
    if machine.cpu.satisfies condition then address.toNat else next
  | .jpHL => machine.cpu.regs.hl.toNat
  | .jr condition offset =>
    if machine.cpu.satisfies condition then ((next + offset.toInt) % 65536).toNat else next
  | .ret condition => if machine.cpu.satisfies condition then machine.top else next
  | .reti => machine.top
  | .rst vector => vector.toNat
  | .stop =>
    match machine.cpu.config.stop with
    | .single => next
    | .withPadding => (next + 1) % 65536
  | _ => next

variable {machine : Machine Memory} {instruction : Instruction}

/-- What an instruction that pops receives is the word on top. -/
theorem toNat_popped (machine : Machine Memory) :
    (Word.ofBytes (machine.bus.get (machine.cpu.regs.sp + 1))
      (machine.bus.get machine.cpu.regs.sp)).toNat = machine.top := by
  rw [Word.toNat_ofBytes, Nat.add_comm, top]

theorem pc_step_eq_destination (found : machine.step.result = .ok instruction) :
    machine.step.machine.cpu.regs.pc.toNat = machine.destination instruction := by
  have next : (machine.fetched instruction).regs.pc.toNat =
      (machine.cpu.regs.pc.toNat + instruction.length.toNat) % 65536 := UInt16.toNat_add _ _
  have stepped : machine.step.machine.cpu = (machine.executed instruction).value := by
    rw [step_of_ok found]
  have straight (continues : instruction.Straight machine.cpu.config) :
      machine.step.machine.cpu.regs.pc.toNat =
        (machine.cpu.regs.pc.toNat + instruction.length.toNat) % 65536 := by
    rw [pc_step found continues]
    exact next
  cases instruction with
  | jp condition address | call condition address =>
    rw [stepped, executed, Cpu.execute, fetched, Cpu.satisfies_setWord_pc, destination]
    split
    · rfl
    · exact next
  | jr condition offset =>
    rw [stepped, executed, Cpu.execute, fetched, Cpu.satisfies_setWord_pc, destination, ← next]
    split
    · exact Word.toNat_add_ofSigned _ _
    · rfl
  | ret condition =>
    rw [destination]
    split
    case isTrue taken =>
      exact (congrArg UInt16.toNat (step_popped found (if_pos taken))).trans machine.toNat_popped
    case isFalse untaken =>
      rw [stepped, executed, Cpu.execute, fetched, Cpu.satisfies_setWord_pc, if_neg untaken]
      exact next
  | reti => exact (congrArg UInt16.toNat (step_popped found rfl)).trans machine.toNat_popped
  | jpHL =>
    rw [stepped]
    rfl
  | rst vector =>
    rw [stepped, executed, Cpu.execute, Cpu.restart]
    cases (machine.fetched (.rst vector)).config.restart <;> exact UInt8.toNat_toUInt16 vector
  | stop =>
    rw [destination]
    cases rule : machine.cpu.config.stop with
    | single => exact straight rule
    | withPadding =>
      have padded : (machine.fetched .stop).config.stop = .withPadding := rule
      rw [stepped, executed, Cpu.execute, Cpu.stop, padded, ← next]
      exact UInt16.toNat_add _ _
  | _ => exact straight trivial

theorem step_of_calls (found : machine.step.result = .ok instruction)
    (calls : machine.cpu.Calls instruction) :
    let next := machine.cpu.regs.pc + instruction.length
    let sp := machine.cpu.regs.sp
    machine.step.machine.cpu.regs.sp = sp - 2 ∧
      machine.step.machine.bus =
        (machine.bus.set (sp - 1) (Word.high next)).set (sp - 2) (Word.low next) := by
  have pushes := (stackEffect_of_ok found).trans (Cpu.stackEffect_of_calls calls)
  have moves := machine.step_moves
  rw [pushes] at moves
  exact ⟨moves, step_bus_of_push pushes⟩

/-- The program counter after an instruction is the destination told from the state before it. The
conditions on one flag exclude each other and one of them holds; and a call or a restart that pushes
puts the address of the next instruction on the stack, the low byte below the high one. -/
theorem step_reaches_destination (found : machine.step.result = .ok instruction) :
    let before := machine.cpu
    let after := machine.step.machine
    let next := before.regs.pc + instruction.length
    after.cpu.regs.pc.toNat = machine.destination instruction ∧
    (before.satisfies none ∧
      (before.satisfies (some .z) ↔ before.regs.flags.zero) ∧
      (before.satisfies (some .nz) ↔ ¬ before.regs.flags.zero) ∧
      (before.satisfies (some .c) ↔ before.regs.flags.carry) ∧
      (before.satisfies (some .nc) ↔ ¬ before.regs.flags.carry)) ∧
    (before.Calls instruction →
      after.cpu.regs.sp = before.regs.sp - 2 ∧
      after.bus = (machine.bus.set (before.regs.sp - 1) (Word.high next)).set
        (before.regs.sp - 2) (Word.low next)) := by
  intro before after next
  refine ⟨pc_step_eq_destination found, ⟨rfl, Iff.rfl, ?_, Iff.rfl, ?_⟩, step_of_calls found⟩
  · simp [Cpu.satisfies, Condition.holds]
  · simp [Cpu.satisfies, Condition.holds]

/-- A call whose opcode stands at the last address, taken because zero is clear: the return address
is the third of the address space. -/
theorem call_from_last_address :
    let machine : Machine Memory :=
      ⟨(Cpu.ofConfig .default).setWord .pc 0xFFFF, Memory.zero.load 0xFFFF [0xC4, 0x34, 0x12]⟩
    machine.step.result = .ok (.call (some .nz) 0x1234) ∧
      machine.step.machine.cpu.regs.pc.toNat = 0x1234 ∧
      machine.step.machine.bus.get 0xFFFD = 0 ∧ machine.step.machine.bus.get 0xFFFC = 2 := by
  intro machine
  have found : machine.step.result = .ok (.call (some .nz) 0x1234) := by
    rw [result_step]
    exact decode_eq_ok_iff.mpr ⟨trivial, Memory.slice_load (by decide)⟩
  have taken : machine.cpu.satisfies (some .nz) := by decide
  obtain ⟨lands, -, pushes⟩ := step_reaches_destination found
  obtain ⟨-, written⟩ := pushes taken
  have target : machine.destination (.call (some .nz) 0x1234) = 0x1234 := if_pos taken
  have sp : machine.cpu.regs.sp = 0xFFFE := rfl
  have next : machine.cpu.regs.pc + (Instruction.call (some .nz) 0x1234).length = 2 := by decide
  rw [sp, next] at written
  rw [target] at lands
  refine ⟨found, lands, ?_, ?_⟩
  · rw [written, Memory.get_set, if_neg (by decide), Memory.get_set, if_pos (by decide)]
    rfl
  · rw [written, Memory.get_set, if_pos (by decide)]
    rfl

end Machine
end SM83
