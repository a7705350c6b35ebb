import SM83.Proofs.Execute.Pointer
import SM83.Proofs.Execute.Transfer

/-! What each instruction does to the stack: it pushes a word, pops one, moves the stack pointer in
another way, or leaves it alone. -/
namespace SM83

inductive StackEffect where
  | keep
  | push (value : UInt16)
  | pop
  | move

namespace StackEffect

/-- The words on the stack after the effect, the last pushed first. -/
def apply : StackEffect → List UInt16 → List UInt16
  | push value, words => value :: words
  | pop, words => words.tail
  | keep, words | move, words => words

/-- How the effect changes the stack pointer; another move may lead anywhere. -/
def Moves : StackEffect → UInt16 → UInt16 → Prop
  | keep, before, after => after = before
  | push _, before, after => after = before - 2
  | pop, before, after => after = before + 2
  | move, _, _ => True

end StackEffect

namespace Cpu

variable {σ : Type} [Bus σ] (cpu : Cpu)

def stackEffect (instruction : Instruction) : StackEffect :=
  let next := cpu.regs.pc + instruction.length
  match instruction with
  | .push pair => .push (cpu.regs.pair pair)
  | .call condition _ => if cpu.satisfies condition then .push next else .keep
  | .rst _ =>
    match cpu.config.restart with
    | .pushReturn => .push next
    | .jumpOnly => .keep
  | .pop _ | .reti => .pop
  | .ret condition => if cpu.satisfies condition then .pop else .keep
  | .ldImmediate16 .sp _ | .ldSPHL | .addSP _ | .inc16 .sp | .dec16 .sp => .move
  | _ => .keep

theorem sp_stop (bus : σ) : (cpu.stop.observe bus).value.regs.sp = cpu.regs.sp := by
  rw [stop, Action.observe_bind]
  cases cpu.config.stop <;> rfl

theorem execute_moves (instruction : Instruction) (bus : σ) :
    (cpu.stackEffect instruction).Moves cpu.regs.sp
      (((cpu.setWord .pc (cpu.regs.pc + instruction.length)).execute instruction).observe
        bus).value.regs.sp := by
  cases instruction with
  | ld target source =>
    rw [execute, Action.observe_bind]
    exact (pointers_writeOperand _ _ _ _).sp
  | storeA place => exact (pointers_locate _ place).sp
  | loadA place => exact (pointers_setByte _ _ _).sp.trans (pointers_locate _ place).sp
  | ldImmediate16 target value | inc16 target | dec16 target => cases target <;> trivial
  | pop pair => cases pair <;> rfl
  | alu op source =>
    rw [execute, Action.observe_bind]
    exact (pointers_applyAlu _ _ _).sp
  | inc target | dec target | shift _ target =>
    rw [execute]
    exact (pointers_update _ _ _ _).sp
  | res _ target | set _ target =>
    rw [execute]
    exact (pointers_updateBits _ _ _ _).sp
  | rotateA rotation => exact (pointers_rotateA _ rotation).sp
  | stop => exact sp_stop _ _
  | bit index target =>
    rw [execute, Action.observe_bind]
    rfl
  | jp condition address | jr condition offset =>
    simp only [stackEffect, execute]
    split <;> rfl
  | call condition address =>
    simp only [stackEffect, execute, satisfies_setWord_pc]
    split <;> rfl
  | ret condition =>
    simp only [stackEffect, execute, satisfies_setWord_pc]
    split <;> rfl
  | reti =>
    rw [execute, observe_reti]
    rfl
  | rst vector =>
    simp only [stackEffect, execute, restart, config_setWord]
    cases cpu.config.restart <;> rfl
  | di => rw [execute, observe_disableInterrupts]; rfl
  | ei => rw [execute, observe_enableInterrupts]; rfl
  | _ => trivial

variable {cpu} {instruction : Instruction} {value : UInt16}

theorem transfer_of_push (pushes : cpu.stackEffect instruction = .push value) :
    cpu.transfer instruction = .push cpu.regs.sp value := by
  cases instruction with
  | push pair =>
    obtain rfl := StackEffect.push.inj pushes
    rfl
  | call condition address =>
    simp only [stackEffect, transfer] at pushes ⊢
    split at pushes
    case isFalse => cases pushes
    case isTrue taken =>
      obtain rfl := StackEffect.push.inj pushes
      exact if_pos taken
  | ret condition =>
    simp only [stackEffect] at pushes
    split at pushes <;> cases pushes
  | rst vector =>
    simp only [stackEffect, transfer] at pushes ⊢
    cases rule : cpu.config.restart with
    | jumpOnly => rw [rule] at pushes; cases pushes
    | pushReturn =>
      rw [rule] at pushes
      obtain rfl := StackEffect.push.inj pushes
      rfl
  | ldImmediate16 target | inc16 target | dec16 target => cases target <;> cases pushes
  | _ => cases pushes

theorem pop_cases (pops : cpu.stackEffect instruction = .pop) :
    (∃ pair, instruction = .pop pair) ∨ instruction = .reti ∨
      ∃ condition, instruction = .ret condition ∧ cpu.satisfies condition := by
  cases instruction with
  | pop pair => exact .inl ⟨pair, rfl⟩
  | reti => exact .inr (.inl rfl)
  | ret condition =>
    simp only [stackEffect] at pops
    split at pops
    case isFalse => cases pops
    case isTrue taken => exact .inr (.inr ⟨condition, rfl, taken⟩)
  | call condition address =>
    simp only [stackEffect] at pops
    split at pops <;> cases pops
  | rst vector =>
    simp only [stackEffect] at pops
    split at pops <;> cases pops
  | ldImmediate16 target | inc16 target | dec16 target => cases target <;> cases pops
  | _ => cases pops

theorem transfer_of_pop (pops : cpu.stackEffect instruction = .pop) :
    cpu.transfer instruction = .readWord cpu.regs.sp := by
  obtain ⟨pair, rfl⟩ | rfl | ⟨condition, rfl, taken⟩ := pop_cases pops
  · rfl
  · rfl
  · exact if_pos taken

/-- Where an instruction that pops a value puts it: into the program counter, or into its pair, of
which AF has no low nibble. -/
def Received (after : Cpu) : Instruction → UInt16 → Prop
  | .pop .af, value => after.regs.af = value &&& 0xFFF0
  | .pop pair, value => after.regs.pair pair = value
  | .ret _, value | .reti, value => after.regs.pc = value
  | _, _ => False

/-- A pop on flat memory receives the word that the stack pointer points to. -/
theorem execute_received (pops : cpu.stackEffect instruction = .pop) (memory : Memory) :
    (((cpu.setWord .pc (cpu.regs.pc + instruction.length)).execute instruction).observe
      memory).value.Received instruction
        (Word.ofBytes (memory.get (cpu.regs.sp + 1)) (memory.get cpu.regs.sp)) := by
  obtain ⟨pair, rfl⟩ | rfl | ⟨condition, rfl, taken⟩ := pop_cases pops
  · cases pair <;> rfl
  · rw [execute, observe_reti]
    rfl
  · rw [execute, satisfies_setWord_pc, if_pos taken]
    rfl

end Cpu
end SM83
