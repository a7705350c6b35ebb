import SM83.Cpu.Execute
import SM83.Proofs.Run.Observation

/-! The stack pointer and the program counter are no pairs of byte registers: what works on bytes
and flags leaves them where they are. -/
namespace SM83.Cpu

/-- Stack pointer and program counter stayed as they were. -/
structure SamePointers (before after : Cpu) : Prop where
  sp : after.regs.sp = before.regs.sp
  pc : after.regs.pc = before.regs.pc

variable {σ : Type} [Bus σ] (cpu : Cpu)

theorem pointers_setByte (register : ByteRegister) (value : UInt8) :
    SamePointers cpu (cpu.setByte register value) := by
  cases register <;> exact ⟨rfl, rfl⟩

theorem pointers_applyAlu (op : AluOp) (value : UInt8) :
    SamePointers cpu (cpu.applyAlu op value) := by
  unfold applyAlu
  dsimp only
  split <;> exact ⟨rfl, rfl⟩

theorem pointers_rotateA (rotation : Rotation) : SamePointers cpu (cpu.rotateA rotation) := by
  unfold rotateA
  dsimp only
  split <;> exact ⟨rfl, rfl⟩

theorem pointers_locate (place : Place) : SamePointers cpu (cpu.locate place).2 := by
  cases place with
  | indirect pair => cases pair <;> exact ⟨rfl, rfl⟩
  | _ => exact ⟨rfl, rfl⟩

theorem pointers_writeOperand (target : Operand8) (value : UInt8) (bus : σ) :
    SamePointers cpu ((cpu.writeOperand target value).observe bus).value := by
  cases target <;> exact ⟨rfl, rfl⟩

theorem pointers_update (target : Operand8) (operation : Flags → UInt8 → UInt8 × Flags)
    (bus : σ) : SamePointers cpu ((cpu.update target operation).observe bus).value := by
  cases target <;> exact ⟨rfl, rfl⟩

theorem pointers_updateBits (target : Operand8) (operation : UInt8 → UInt8) (bus : σ) :
    SamePointers cpu ((cpu.updateBits target operation).observe bus).value := by
  cases target <;> exact ⟨rfl, rfl⟩

end SM83.Cpu
