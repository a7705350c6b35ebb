import SM83.Cpu.Operands
import SM83.Proofs.Registers.FlagMask
import SM83.Proofs.Registers.Naming

/-! Writes to the register file seen byte by byte: each reaches the bytes it names and leaves the
others as they were, also the other byte of the same pair. -/
namespace SM83

/-- The bytes of a word register that are registers themselves. -/
def WordRegister.bytes : WordRegister → List ByteRegister
  | af => [.a, .f]
  | bc => [.b, .c]
  | de => [.d, .e]
  | hl => [.h, .l]
  | sp | pc => []

theorem Operand16.bytes_register (operand : Operand16) :
    operand.register.bytes = operand.bytes := by
  cases operand <;> rfl

theorem StackPair.bytes_register (pair : StackPair) : pair.register.bytes = pair.bytes := by
  cases pair <;> rfl

namespace Registers

variable (regs : Registers) {other : ByteRegister}

theorem byte_setByte_self (register : ByteRegister) (value : UInt8) :
    (regs.setByte register value).byte register =
      if register = .f then value &&& 0xF0 else value := by
  cases register <;> simp [setByte, byte]

theorem byte_setByte_of_ne {register : ByteRegister} (different : other ≠ register)
    (value : UInt8) : (regs.setByte register value).byte other = regs.byte other := by
  cases register <;> cases other <;> first
    | exact absurd rfl different
    | simp only [setByte, byte, Word.high_ofBytes, Word.low_ofBytes]

theorem flags_setByte {register : ByteRegister} (data : register ≠ .f) (value : UInt8) :
    (regs.setByte register value).flags = regs.flags :=
  congrArg Flags.ofByte (regs.byte_setByte_of_ne data.symm value)

theorem byte_setWord_of_not_mem {register : WordRegister} (outside : other ∉ register.bytes)
    (value : UInt16) : (regs.setWord register value).byte other = regs.byte other := by
  cases register <;> cases other <;> first
    | rfl
    | exact absurd (by decide) outside

end Registers

namespace Cpu

/-- Between two states of the processor no byte register changed but those in the list. -/
def Confined (written : List ByteRegister) (before after : Cpu) : Prop :=
  ∀ register ∉ written, after.regs.byte register = before.regs.byte register

namespace Confined

variable {written : List ByteRegister} {before cpu : Cpu}

theorem refl (written : List ByteRegister) (cpu : Cpu) : Confined written cpu cpu :=
  fun _ _ => rfl

theorem setByte (confined : Confined written before cpu) {register : ByteRegister}
    (member : register ∈ written) (value : UInt8) :
    Confined written before (cpu.setByte register value) := by
  intro other spared
  rw [← confined other spared]
  exact cpu.regs.byte_setByte_of_ne (ne_of_mem_of_not_mem member spared).symm value

theorem setFlags (confined : Confined written before cpu) (member : .f ∈ written)
    (flags : Flags) : Confined written before (cpu.setFlags flags) :=
  confined.setByte member flags.toByte

theorem setWord (confined : Confined written before cpu) {register : WordRegister}
    (subset : register.bytes ⊆ written) (value : UInt16) :
    Confined written before (cpu.setWord register value) := by
  intro other spared
  rw [← confined other spared]
  exact cpu.regs.byte_setWord_of_not_mem (fun member => spared (subset member)) value

/-- The stack pointer and the program counter hold no byte register. -/
theorem setPointer (confined : Confined written before cpu) {register : WordRegister}
    (pointer : register.bytes = []) (value : UInt16) :
    Confined written before (cpu.setWord register value) :=
  confined.setWord (by simp [pointer]) value

theorem flags (confined : Confined written before cpu) (spared : .f ∉ written) :
    cpu.regs.flags = before.regs.flags :=
  congrArg Flags.ofByte (confined .f spared)

end Confined
end Cpu
end SM83
