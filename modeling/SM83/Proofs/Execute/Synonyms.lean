import SM83.Proofs.Execute.Transfer
import SM83.Proofs.Registers.Confined
import SM83.Proofs.Run.Operations

/-! Instructions that mean the same. A short form does what the long form does with the operand
written out, a conditional form what the plain one does, and a form that does two things at once
what two instructions do in a row. An operation on one operand does not depend on where the operand
is. -/
namespace SM83

/-- The processor and the flat memory that an action leaves. -/
def Action.leave (action : Action Cpu) (memory : Memory) : Machine Memory :=
  let observed := action.observe memory
  ⟨observed.value, observed.bus⟩

/-- An operation on one byte operand. -/
inductive Unary where
  | inc
  | dec
  | shift (op : ShiftOp)
  | res (index : UInt8)
  | set (index : UInt8)
  | bit (index : UInt8)

namespace Unary

def on (target : Operand8) : Unary → Instruction
  | inc => .inc target
  | dec => .dec target
  | shift op => .shift op target
  | res index => .res index target
  | set index => .set index target
  | bit index => .bit index target

/-- The byte that the operation leaves in its operand, and the flags. -/
def apply (flags : Flags) (value : UInt8) : Unary → UInt8 × Flags
  | inc => Alu.inc8 flags value
  | dec => Alu.dec8 flags value
  | shift op => op.apply flags value
  | res index => (Alu.resetBit value index, flags)
  | set index => (Alu.setBit value index, flags)
  | bit index => (value, Alu.bitTest flags value index)

end Unary

namespace Registers

variable (regs : Registers)

theorem restore_a (flags : Flags) (value : UInt8) :
    ((regs.setFlags flags).setByte .a value).setByte .a (regs.byte .a) = regs.setFlags flags := by
  simp only [setFlags, setByte, byte, Word.low_ofBytes]

end Registers

namespace Cpu

variable (cpu : Cpu)

theorem locate_high (offset : UInt8) :
    cpu.locate (.high offset) = cpu.locate (.absolute (0xFF00 + offset.toUInt16)) :=
  congrArg (·, cpu) (lastPage_or offset)

/-- A comparison is a subtraction whose result is dropped. -/
theorem applyAlu_cp (value : UInt8) :
    cpu.applyAlu .cp value = (cpu.applyAlu .sub value).setByte .a (cpu.regs.byte .a) :=
  congrArg cpu.setRegs (cpu.regs.restore_a _ _).symm

end Cpu

namespace Machine

/-- One instruction carried out wherever it stands, the program counter being left to jumps. -/
def execute (machine : Machine Memory) (instruction : Instruction) : Machine Memory :=
  (machine.cpu.execute instruction).leave machine.bus

/-- The byte that an operand stands for. -/
def operand (machine : Machine Memory) (operand : Operand8) : UInt8 :=
  (machine.cpu.regs.held? operand).getD (machine.bus.get machine.cpu.regs.hl)

variable (machine : Machine Memory)

/-- To read an operand of flat memory leaves everything as it is. -/
theorem leave_readOperand (target : Operand8) (next : UInt8 → Action Cpu) :
    (machine.cpu.readOperand target >>= next).leave machine.bus =
      (next (machine.operand target)).leave machine.bus := by
  cases target <;> rfl

theorem execute_alu (op : AluOp) (target : Operand8) :
    machine.execute (.alu op (.operand target)) =
      ⟨machine.cpu.applyAlu op (machine.operand target), machine.bus⟩ :=
  machine.leave_readOperand target _

theorem execute_storeA {place other : Place}
    (same : machine.cpu.locate place = machine.cpu.locate other) :
    machine.execute (.storeA place) = machine.execute (.storeA other) := by
  simp only [execute, Cpu.execute, same]

theorem execute_loadA {place other : Place}
    (same : machine.cpu.locate place = machine.cpu.locate other) :
    machine.execute (.loadA place) = machine.execute (.loadA other) := by
  simp only [execute, Cpu.execute, same]

theorem execute_rotateA (rotation : Rotation) :
    let rotated := machine.execute (.shift (.rotate rotation) .a)
    machine.execute (.rotateA rotation) =
      match machine.cpu.config.rotateA with
      | .zeroFromResult => rotated
      | .zeroCleared => rotated.perform (.assignFlags { Flags.clear with zero := true } false) := by
  simp only [execute, Cpu.execute, Cpu.rotateA]
  cases machine.cpu.config.rotateA <;> rfl

theorem execute_of_satisfies {condition : Option Condition}
    (taken : machine.cpu.satisfies condition = true) :
    (∀ address, machine.execute (.call condition address) =
      machine.execute (.call none address)) ∧
    machine.execute (.ret condition) = machine.execute (.ret none) ∧
    (∀ address, machine.execute (.jp condition address) = machine.execute (.jp none address)) ∧
    ∀ offset, machine.execute (.jr condition offset) = machine.execute (.jr none offset) := by
  refine ⟨fun address => ?_, ?_, fun address => ?_, fun offset => ?_⟩ <;>
    simp only [execute, Cpu.execute, taken] <;> rfl

theorem leave_writeOperand (target : Operand8) (value : UInt8) :
    let after := (machine.cpu.writeOperand target value).leave machine.bus
    after.operand target = value ∧ after.cpu.regs.flags = machine.cpu.regs.flags := by
  unfold Cpu.writeOperand operand
  cases named : target.register? with
  | none =>
    obtain rfl := Operand8.eq_atHL_of_register named
    exact ⟨(Memory.get_set ..).trans (if_pos rfl), rfl⟩
  | some register =>
    have data := Operand8.register_ne_f named
    refine ⟨?_, machine.cpu.regs.flags_setByte data value⟩
    rw [Operand8.held_of_register named]
    exact (machine.cpu.regs.byte_setByte_self register value).trans (if_neg data)

theorem operand_setFlags (target : Operand8) (flags : Flags) :
    operand { machine with cpu := machine.cpu.setFlags flags } target = machine.operand target := by
  unfold operand
  cases named : target.register? with
  | none =>
    obtain rfl := Operand8.eq_atHL_of_register named
    rfl
  | some register =>
    rw [Operand8.held_of_register named, Operand8.held_of_register named]
    exact machine.cpu.regs.byte_setByte_of_ne (Operand8.register_ne_f named) _

theorem leave_update (target : Operand8) (operation : Flags → UInt8 → UInt8 × Flags) :
    let after := (machine.cpu.update target operation).leave machine.bus
    let answer := operation machine.cpu.regs.flags (machine.operand target)
    after.operand target = answer.1 ∧ after.cpu.regs.flags = answer.2 := by
  intro after answer
  let flagged : Machine Memory := { machine with cpu := machine.cpu.setFlags answer.2 }
  have written : after = (flagged.cpu.writeOperand target answer.1).leave flagged.bus :=
    machine.leave_readOperand target _
  obtain ⟨value, flags⟩ := flagged.leave_writeOperand target answer.1
  rw [written]
  exact ⟨value, flags.trans (machine.cpu.regs.flags_setFlags _)⟩

theorem leave_updateBits (target : Operand8) (operation : UInt8 → UInt8) :
    let after := (machine.cpu.updateBits target operation).leave machine.bus
    after.operand target = operation (machine.operand target) ∧
      after.cpu.regs.flags = machine.cpu.regs.flags := by
  intro after
  have written : after =
      (machine.cpu.writeOperand target (operation (machine.operand target))).leave machine.bus :=
    machine.leave_readOperand target _
  rw [written]
  exact machine.leave_writeOperand target _

/-- A bit test writes the flags alone. -/
theorem execute_bit (index : UInt8) (target : Operand8) :
    machine.execute (.bit index target) =
      { machine with
        cpu := machine.cpu.setFlags
          (Alu.bitTest machine.cpu.regs.flags (machine.operand target) index) } :=
  machine.leave_readOperand target _

/-- What an operation leaves in its operand, and the flags, depend on what the operand held and on
the flags, and not on which operand it is. -/
theorem execute_unary (unary : Unary) (target : Operand8) :
    let after := machine.execute (unary.on target)
    let answer := unary.apply machine.cpu.regs.flags (machine.operand target)
    after.operand target = answer.1 ∧ after.cpu.regs.flags = answer.2 := by
  cases unary with
  | inc => exact machine.leave_update target Alu.inc8
  | dec => exact machine.leave_update target Alu.dec8
  | shift op => exact machine.leave_update target op.apply
  | res index => exact machine.leave_updateBits target (Alu.resetBit · index)
  | set index => exact machine.leave_updateBits target (Alu.setBit · index)
  | bit index =>
    intro after answer
    have tested : after = { machine with cpu := machine.cpu.setFlags answer.2 } :=
      machine.execute_bit index target
    rw [tested]
    exact ⟨machine.operand_setFlags target answer.2, machine.cpu.regs.flags_setFlags answer.2⟩

/-- Instructions of the same meaning leave the same processor and the same memory. -/
theorem instruction_forms_agree (machine : Machine Memory) :
    let c := machine.cpu.regs.byte .c
    let stored := machine.execute (.ld .atHL (.operand .a))
    let loaded := machine.execute (.ld .a (.operand .atHL))
    (∀ op target, machine.execute (.alu op (.operand target)) =
      machine.execute (.alu op (.immediate (machine.operand target)))) ∧
    (∀ offset : UInt8,
      machine.execute (.storeA (.high offset)) =
        machine.execute (.storeA (.absolute (0xFF00 + offset.toUInt16))) ∧
      machine.execute (.loadA (.high offset)) =
        machine.execute (.loadA (.absolute (0xFF00 + offset.toUInt16)))) ∧
    (machine.execute (.storeA .highC) = machine.execute (.storeA (.high c)) ∧
      machine.execute (.loadA .highC) = machine.execute (.loadA (.high c))) ∧
    (machine.execute (.storeA (.indirect .hlInc)) = stored.execute (.inc16 .hl) ∧
      machine.execute (.storeA (.indirect .hlDec)) = stored.execute (.dec16 .hl)) ∧
    (machine.execute (.loadA (.indirect .hlInc)) = loaded.execute (.inc16 .hl) ∧
      machine.execute (.loadA (.indirect .hlDec)) = loaded.execute (.dec16 .hl)) ∧
    (∀ rotation,
      let rotated := machine.execute (.shift (.rotate rotation) .a)
      (machine.cpu.config.rotateA = .zeroFromResult →
        machine.execute (.rotateA rotation) = rotated) ∧
      (machine.cpu.config.rotateA = .zeroCleared →
        machine.execute (.rotateA rotation) =
          rotated.perform (.assignFlags { Flags.clear with zero := true } false))) ∧
    (machine.cpu.config.restart = .pushReturn → ∀ vector : UInt8,
      machine.execute (.rst vector) = machine.execute (.call none vector.toUInt16)) ∧
    (∀ condition : Condition, condition.holds machine.cpu.regs.flags = true →
      (∀ address, machine.execute (.call (some condition) address) =
        machine.execute (.call none address)) ∧
      machine.execute (.ret (some condition)) = machine.execute (.ret none) ∧
      (∀ address, machine.execute (.jp (some condition) address) =
        machine.execute (.jp none address)) ∧
      ∀ offset, machine.execute (.jr (some condition) offset) =
        machine.execute (.jr none offset)) ∧
    (∀ target, machine.execute (.alu .cp (.operand target)) =
      (machine.execute (.alu .sub (.operand target))).perform
        (.setByte .a (machine.cpu.regs.byte .a))) ∧
    (∀ offset,
      let moved := machine.execute (.addSP offset)
      machine.execute (.ldHLOffset offset) =
        (moved.execute (.ldImmediate16 .hl moved.cpu.regs.sp)).perform
          (.setWord .sp machine.cpu.regs.sp)) ∧
    ∀ (unary : Unary) (target other : Operand8) (twin : Machine Memory),
      twin.operand other = machine.operand target →
      twin.cpu.regs.flags = machine.cpu.regs.flags →
      let one := machine.execute (unary.on target)
      let another := twin.execute (unary.on other)
      another.operand other = one.operand target ∧
        another.cpu.regs.flags = one.cpu.regs.flags := by
  intro c stored loaded
  refine ⟨machine.execute_alu, fun offset => ⟨?_, ?_⟩, ⟨rfl, rfl⟩, ⟨rfl, rfl⟩, ⟨rfl, rfl⟩,
    fun rotation => ⟨?_, ?_⟩, ?_, ?_, ?_, fun _ => rfl, ?_⟩
  · exact machine.execute_storeA (machine.cpu.locate_high offset)
  · exact machine.execute_loadA (machine.cpu.locate_high offset)
  · intro setting
    rw [execute_rotateA, setting]
  · intro setting
    rw [execute_rotateA, setting]
  · intro setting vector
    simp only [execute, Cpu.execute, Cpu.restart, setting]
    rfl
  · intro condition holds
    exact machine.execute_of_satisfies holds
  · intro target
    rw [execute_alu, execute_alu, Cpu.applyAlu_cp]
    rfl
  · intro unary target other twin same flags one another
    obtain ⟨value, after⟩ := machine.execute_unary unary target
    obtain ⟨alsoValue, alsoAfter⟩ := twin.execute_unary unary other
    rw [same, flags] at alsoValue alsoAfter
    exact ⟨alsoValue.trans value.symm, alsoAfter.trans after.symm⟩

/-- At the processor's start, a rotation of A under either setting, a restart, a call that is taken,
and the increments of B and of the byte in memory that holds the same. -/
theorem forms_agree_at_start :
    let cpu := (Cpu.ofConfig .default).setRegs { Registers.zero with af := 0x8090, bc := 0xFF00 }
    let machine : Machine Memory := ⟨cpu, Memory.zero.set 0 0xFF⟩
    let hardware : Machine Memory := ⟨cpu.withConfig .hardware, Memory.zero⟩
    machine.execute (.rotateA .rl) = machine.execute (.shift (.rotate .rl) .a) ∧
      hardware.execute (.rotateA .rl) =
        (hardware.execute (.shift (.rotate .rl) .a)).perform
          (.assignFlags { Flags.clear with zero := true } false) ∧
      machine.execute (.rst 0x38) = machine.execute (.call none 0x0038) ∧
      machine.execute (.call (some .z) 0x1234) = machine.execute (.call none 0x1234) ∧
      (machine.execute (.inc .atHL)).operand .atHL = (machine.execute (.inc .b)).operand .b := by
  intro cpu machine hardware
  obtain ⟨-, -, -, -, -, rotations, restarts, conditions, -, -, operands⟩ :=
    instruction_forms_agree machine
  obtain ⟨-, -, -, -, -, others, -⟩ := instruction_forms_agree hardware
  have same : machine.operand .atHL = machine.operand .b := by
    have stored : machine.operand .atHL = 0xFF := (Memory.get_set ..).trans (if_pos rfl)
    have held : machine.operand .b = 0xFF := by decide
    rw [stored, held]
  exact ⟨(rotations .rl).1 rfl, (others .rl).2 rfl, restarts rfl 0x38,
    (conditions .z (by decide)).1 0x1234, (operands .inc .b .atHL machine same rfl).1⟩

end Machine
end SM83
