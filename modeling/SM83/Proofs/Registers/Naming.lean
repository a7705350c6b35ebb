import SM83.Instruction.Operand

/-! What the operands of instructions stand for, told operand by operand. The tables that
instructions are executed by say the same. -/
namespace SM83

/-- The register of a byte operand, if it is one. -/
def Operand8.bytes : Operand8 → List ByteRegister
  | a => [.a]
  | b => [.b]
  | c => [.c]
  | d => [.d]
  | e => [.e]
  | h => [.h]
  | l => [.l]
  | atHL => []

def Operand16.bytes : Operand16 → List ByteRegister
  | bc => [.b, .c]
  | de => [.d, .e]
  | hl => [.h, .l]
  | sp => []

def StackPair.bytes : StackPair → List ByteRegister
  | af => [.a, .f]
  | bc => [.b, .c]
  | de => [.d, .e]
  | hl => [.h, .l]

namespace Registers

/-- The byte that an operand stands for, unless that is in memory. -/
def held? (regs : Registers) : Operand8 → Option UInt8
  | .a => some (Word.high regs.af)
  | .b => some (Word.high regs.bc)
  | .c => some (Word.low regs.bc)
  | .d => some (Word.high regs.de)
  | .e => some (Word.low regs.de)
  | .h => some (Word.high regs.hl)
  | .l => some (Word.low regs.hl)
  | .atHL => none

def pair (regs : Registers) : StackPair → UInt16
  | .af => regs.af
  | .bc => regs.bc
  | .de => regs.de
  | .hl => regs.hl

end Registers

namespace Operand8

variable {operand : Operand8} {register : ByteRegister}

theorem bytes_of_register (named : operand.register? = some register) :
    operand.bytes = [register] := by
  cases operand <;> cases named <;> rfl

theorem held_of_register (named : operand.register? = some register) (regs : Registers) :
    regs.held? operand = some (regs.byte register) := by
  cases operand <;> cases named <;> rfl

theorem eq_atHL_of_register (unnamed : operand.register? = none) : operand = .atHL := by
  cases operand <;> first
    | rfl
    | cases unnamed

@[simp] theorem f_not_mem_bytes (operand : Operand8) : .f ∉ operand.bytes := by
  cases operand <;> decide

/-- No operand names the flag byte. -/
theorem register_ne_f (named : operand.register? = some register) : register ≠ .f := by
  rintro rfl
  exact operand.f_not_mem_bytes (by simp [bytes_of_register named])

end Operand8

@[simp] theorem Operand16.f_not_mem_bytes (operand : Operand16) : .f ∉ operand.bytes := by
  cases operand <;> decide

end SM83
