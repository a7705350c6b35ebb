import SM83.Proofs.Execute.StackEffect
import SM83.Proofs.Registers.Confined

/-! The registers and flags that an instruction leaves alone. -/
namespace SM83

/-- The registers that a place steps. -/
def Place.stepped : Place → List ByteRegister
  | indirect .hlInc | indirect .hlDec => [.h, .l]
  | _ => []

@[simp] theorem Place.f_not_mem_stepped (place : Place) : .f ∉ place.stepped := by
  cases place with
  | indirect pair => cases pair <;> decide
  | _ => exact List.not_mem_nil

namespace Instruction

/-- The byte registers that an instruction writes. -/
def written : Instruction → List ByteRegister
  | ld target _ | res _ target | set _ target => target.bytes
  | inc target | dec target | shift _ target => .f :: target.bytes
  | storeA place => place.stepped
  | loadA place => .a :: place.stepped
  | ldImmediate16 target _ | inc16 target | dec16 target => target.bytes
  | pop pair => pair.bytes
  | alu .cp _ | bit _ _ | scf | ccf | addSP _ => [.f]
  | alu _ _ | daa | cpl | rotateA _ => [.a, .f]
  | addHL _ | ldHLOffset _ => [.f, .h, .l]
  | _ => []

/-- The flags that an instruction writes; some settings spare a few. -/
def writtenFlags (config : Config) : Instruction → Flags
  | inc _ | dec _ | bit _ _ => ⟨true, true, true, false⟩
  | cpl => ⟨false, true, true, false⟩
  | scf | ccf => ⟨false, true, true, true⟩
  | daa => ⟨true, false, true, true⟩
  | addHL _ =>
    match config.add16 with
    | .lowByte => ⟨true, true, true, true⟩
    | .hardware => ⟨false, true, true, true⟩
  | alu .or _ | alu .xor _ =>
    match config.logic with
    | .zeroOnly => ⟨true, false, false, false⟩
    | .hardware => ⟨true, true, true, true⟩
  | alu _ _ | addSP _ | ldHLOffset _ | rotateA _ | shift _ _ | pop .af => ⟨true, true, true, true⟩
  | _ => .clear

end Instruction

namespace Cpu

variable {σ : Type} [Bus σ] {written : List ByteRegister} {before cpu : Cpu}

namespace Confined

theorem writeOperand (confined : Confined written before cpu) {target : Operand8}
    (subset : target.bytes ⊆ written) (value : UInt8) (bus : σ) :
    Confined written before ((cpu.writeOperand target value).observe bus).value := by
  unfold Cpu.writeOperand
  cases named : target.register? with
  | none => exact confined
  | some register =>
    rw [Operand8.bytes_of_register named] at subset
    exact confined.setByte (subset (by simp)) value

theorem update (confined : Confined written before cpu) {target : Operand8}
    (subset : .f :: target.bytes ⊆ written)
    (operation : Flags → UInt8 → UInt8 × Flags) (bus : σ) :
    Confined written before ((cpu.update target operation).observe bus).value := by
  obtain ⟨member, subset⟩ := List.cons_subset.mp subset
  rw [Cpu.update, Action.observe_bind]
  exact (confined.setFlags member _).writeOperand subset _ _

theorem updateBits (confined : Confined written before cpu) {target : Operand8}
    (subset : target.bytes ⊆ written) (operation : UInt8 → UInt8) (bus : σ) :
    Confined written before ((cpu.updateBits target operation).observe bus).value := by
  rw [Cpu.updateBits, Action.observe_bind]
  exact confined.writeOperand subset _ _

theorem updateA (confined : Confined written before cpu) (a : .a ∈ written) (f : .f ∈ written)
    (operation : Flags → UInt8 → UInt8 × Flags) :
    Confined written before (cpu.updateA operation) :=
  (confined.setFlags f _).setByte a _

theorem applyAlu (confined : Confined written before cpu) {op : AluOp} {source : Source}
    (subset : (Instruction.alu op source).written ⊆ written) (value : UInt8) :
    Confined written before (cpu.applyAlu op value) := by
  have flags : .f ∈ written := subset (by cases op <;> simp [Instruction.written])
  by_cases compare : op = .cp
  · subst compare
    exact confined.setFlags flags _
  · have a : .a ∈ written := subset (by cases op <;> simp_all [Instruction.written])
    unfold Cpu.applyAlu
    dsimp only
    split
    · exact (confined.setFlags flags _).setByte a _
    · exact confined.setFlags flags _

theorem addToHL (confined : Confined written before cpu) (f : .f ∈ written)
    (subset : WordRegister.hl.bytes ⊆ written) (value : UInt16) :
    Confined written before (cpu.addToHL value) :=
  (confined.setFlags f _).setWord subset _

theorem offsetSP (confined : Confined written before cpu) (f : .f ∈ written)
    {target : WordRegister} (subset : target.bytes ⊆ written) (offset : Int8) :
    Confined written before (cpu.offsetSP target offset) :=
  (confined.setFlags f _).setWord subset _

theorem rotateA (confined : Confined written before cpu) (a : .a ∈ written) (f : .f ∈ written)
    (rotation : Rotation) : Confined written before (cpu.rotateA rotation) := by
  have rotated := confined.updateA a f rotation.apply
  unfold Cpu.rotateA
  dsimp only
  split
  · exact rotated
  · exact rotated.setFlags f _

theorem locate (confined : Confined written before cpu) {place : Place}
    (subset : place.stepped ⊆ written) : Confined written before (cpu.locate place).2 := by
  cases place with
  | indirect pair =>
    cases pair with
    | bc | de => exact confined
    | hlInc | hlDec =>
      have pair : WordRegister.hl.bytes ⊆ written := subset
      exact confined.setWord pair _
  | _ => exact confined

theorem stop (confined : Confined written before cpu) (bus : σ) :
    Confined written before (cpu.stop.observe bus).value := by
  rw [Cpu.stop, Action.observe_bind]
  cases cpu.config.stop with
  | single => exact confined
  | withPadding => exact confined.setPointer rfl (cpu.regs.pc + 1)

theorem call (confined : Confined written before cpu) (address : UInt16) (bus : σ) :
    Confined written before ((cpu.call address).observe bus).value :=
  (confined.setPointer rfl _).setPointer rfl _

theorem ret (confined : Confined written before cpu) (bus : σ) :
    Confined written before (cpu.ret.observe bus).value :=
  (confined.setPointer rfl _).setPointer rfl _

end Confined

variable (cpu) (bus : σ)

/-- Executing an instruction changes the byte registers it writes and no others. -/
theorem execute_confined (instruction : Instruction) :
    Confined instruction.written cpu ((cpu.execute instruction).observe bus).value := by
  have start : Confined instruction.written cpu cpu := .refl _ cpu
  cases instruction with
  | stop => exact start.stop bus
  | di => rw [execute, observe_disableInterrupts]; exact start
  | ei => rw [execute, observe_enableInterrupts]; exact start
  | ld target source =>
    rw [execute, Action.observe_bind]
    exact start.writeOperand (List.Subset.refl _) _ _
  | storeA place => exact start.locate (List.Subset.refl _)
  | loadA place => exact (start.locate (List.subset_cons_self _ _)).setByte List.mem_cons_self _
  | ldImmediate16 target | inc16 target | dec16 target =>
    exact start.setWord (target.bytes_register ▸ List.Subset.refl _) _
  | ldSPHL | push pair | jpHL => exact start.setPointer rfl _
  | ldHLOffset offset =>
    exact start.offsetSP (by simp [Instruction.written])
      (by simp [Instruction.written, WordRegister.bytes]) offset
  | pop pair => exact (start.setPointer rfl _).setWord (pair.bytes_register ▸ List.Subset.refl _) _
  | alu op source =>
    rw [execute, Action.observe_bind]
    exact start.applyAlu (List.Subset.refl _) _
  | inc target | dec target | shift _ target =>
    rw [execute]
    exact start.update (List.Subset.refl _) _ bus
  | daa =>
    exact start.updateA (by simp [Instruction.written]) (by simp [Instruction.written])
      Alu.decimalAdjust
  | cpl =>
    exact (start.setByte (by simp [Instruction.written]) _).setFlags
      (by simp [Instruction.written]) _
  | scf | ccf => exact start.setFlags (by simp [Instruction.written]) _
  | addHL source =>
    exact start.addToHL (by simp [Instruction.written])
      (by simp [Instruction.written, WordRegister.bytes]) _
  | addSP offset =>
    exact start.offsetSP (by simp [Instruction.written]) (by simp [WordRegister.bytes]) offset
  | rotateA rotation =>
    exact start.rotateA (by simp [Instruction.written]) (by simp [Instruction.written]) rotation
  | jp condition address | jr condition offset =>
    rw [execute, Action.observe_pure]
    split
    · exact start.setPointer rfl _
    · exact start
  | call condition address =>
    rw [execute]
    split
    · exact start.call address bus
    · exact start
  | ret condition =>
    rw [execute]
    split
    · exact start.ret bus
    · exact start
  | reti =>
    rw [execute, observe_reti]
    exact start.ret bus
  | rst vector =>
    rw [execute, restart]
    cases cpu.config.restart with
    | pushReturn => exact start.call _ bus
    | jumpOnly => exact start.setPointer rfl _
  | bit index target =>
    rw [execute, Action.observe_bind]
    exact start.setFlags (by simp [Instruction.written]) _
  | res _ target | set _ target =>
    rw [execute]
    exact start.updateBits (List.Subset.refl _) _ bus
  | _ => exact start

theorem flags_applyAlu (op : AluOp) (value : UInt8) :
    (cpu.applyAlu op value).regs.flags =
      (op.apply cpu.config.logic cpu.regs.flags (cpu.regs.byte .a) value).2 := by
  unfold applyAlu
  dsimp only
  split <;> simp [setFlags, setByte, setRegs]

theorem flags_addToHL (value : UInt16) :
    (cpu.addToHL value).regs.flags =
      match cpu.config.add16 with
      | .lowByte => (Alu.add16 cpu.regs.hl value).2
      | .hardware => (Alu.add16Hardware cpu.regs.flags cpu.regs.hl value).2 := by
  unfold addToHL
  cases cpu.config.add16 <;> exact Registers.flags_setFlags _ _

theorem flags_update (target : Operand8) (operation : Flags → UInt8 → UInt8 × Flags) :
    ∃ value, ((cpu.update target operation).observe bus).value.regs.flags =
      (operation cpu.regs.flags value).2 := by
  let value := ((cpu.readOperand target).observe bus).value
  let noted := cpu.setFlags (operation cpu.regs.flags value).2
  refine ⟨value, ?_⟩
  rw [update, Action.observe_bind]
  have stored : Confined target.bytes noted _ :=
    (Confined.refl _ noted).writeOperand (List.Subset.refl _) (operation cpu.regs.flags value).1
      ((cpu.readOperand target).observe bus).bus
  exact (stored.flags (by simp)).trans (Registers.flags_setFlags _ _)

/-- Executing an instruction changes the flags it writes and no others. -/
theorem execute_flags (instruction : Instruction) :
    Flags.AlikeBut (instruction.writtenFlags cpu.config) cpu.regs.flags
      ((cpu.execute instruction).observe bus).value.regs.flags := by
  have unwritten (spared : .f ∉ instruction.written) :
      Flags.AlikeBut (instruction.writtenFlags cpu.config) cpu.regs.flags
        ((cpu.execute instruction).observe bus).value.regs.flags := by
    rw [(cpu.execute_confined bus instruction).flags spared]
    exact .refl _ _
  cases instruction with
  | addSP _ | ldHLOffset _ | rotateA _ | shift _ _ => exact .all _ _
  | pop pair =>
    cases pair with
    | af => exact .all _ _
    | _ => exact unwritten (by decide)
  | inc target | dec target =>
    obtain ⟨value, flags⟩ := cpu.flags_update bus target _
    rw [execute, flags]
    constructor <;> intro spared <;> first | rfl | cases spared
  | bit index target =>
    rw [execute, Action.observe_bind]
    simp only [Observed.andThen, Action.observe_pure, setFlags, setRegs, Registers.flags_setFlags]
    constructor <;> intro spared <;> first | rfl | cases spared
  | daa =>
    simp only [execute, Action.observe_pure, updateA, setFlags, setByte, setRegs,
      Registers.flags_setByte_a, Registers.flags_setFlags]
    constructor <;> intro spared <;> first | rfl | cases spared
  | cpl =>
    simp only [execute, Action.observe_pure, complement, setFlags, setByte, setRegs,
      Registers.flags_setByte_a, Registers.flags_setFlags]
    constructor <;> intro spared <;> first | rfl | cases spared
  | scf | ccf =>
    simp only [execute, Action.observe_pure, setCarry, setFlags, setRegs, Registers.flags_setFlags]
    constructor <;> intro spared <;> first | rfl | cases spared
  | addHL source =>
    rw [execute, Action.observe_pure, flags_addToHL, Instruction.writtenFlags]
    cases cpu.config.add16 with
    | lowByte => exact .all _ _
    | hardware => constructor <;> intro spared <;> first | rfl | cases spared
  | alu op source =>
    rw [execute, Action.observe_bind, Observed.andThen, Action.observe_pure, flags_applyAlu]
    cases op with
    | or | xor =>
      unfold Instruction.writtenFlags
      cases cpu.config.logic with
      | zeroOnly => constructor <;> intro spared <;> first | rfl | cases spared
      | hardware => exact .all _ _
    | _ => exact .all _ _
  | _ => exact unwritten (by simp [Instruction.written])

end Cpu

namespace Machine

variable {σ : Type} [Bus σ]

/-- A step leaves everything alone that its instruction does not write: the other byte registers,
the stack pointer unless the instruction works on the stack or moves it, and the other flags. -/
theorem step_frame {machine : Machine σ} {instruction : Instruction}
    (found : machine.step.result = .ok instruction) :
    let before := machine.cpu
    let after := machine.step.machine.cpu
    (∀ register ∉ instruction.written, after.regs.byte register = before.regs.byte register) ∧
    (before.stackEffect instruction = .keep → after.regs.sp = before.regs.sp) ∧
    Flags.AlikeBut (instruction.writtenFlags before.config) before.regs.flags after.regs.flags := by
  intro before after
  rw [result_step] at found
  have stepped : after = (machine.executed instruction).value := by
    simp only [after, step_of_decoded_ok found]
  have fetched : before.Confined [] (machine.fetched instruction) :=
    (Cpu.Confined.refl [] before).setPointer rfl _
  have config : (machine.fetched instruction).config = before.config := rfl
  rw [stepped]
  refine ⟨?_, ?_, ?_⟩
  · intro register spared
    have confined := (machine.fetched instruction).execute_confined machine.decoded.bus instruction
    exact (confined register spared).trans (fetched register List.not_mem_nil)
  · intro keeps
    have moves := before.execute_moves instruction machine.decoded.bus
    rwa [keeps] at moves
  · have flags := (machine.fetched instruction).execute_flags machine.decoded.bus instruction
    rwa [config, fetched.flags List.not_mem_nil] at flags

/-- An addition to HL leaves A and the stack pointer alone, and as the processor does it also the
zero flag. -/
theorem add_hl_frame :
    let machine : Machine Feed := ⟨Cpu.ofConfig .hardware, ⟨[0x09]⟩⟩
    let after := machine.step.machine.cpu
    machine.step.result = .ok (.addHL .bc) ∧
      after.regs.byte .a = machine.cpu.regs.byte .a ∧ after.regs.sp = machine.cpu.regs.sp ∧
      after.regs.flags.zero = machine.cpu.regs.flags.zero := by
  intro machine after
  have found : machine.step.result = .ok (.addHL .bc) := rfl
  obtain ⟨bytes, sp, flags⟩ := step_frame found
  exact ⟨found, bytes .a (by decide), sp rfl, flags.zero rfl⟩

end Machine
end SM83
