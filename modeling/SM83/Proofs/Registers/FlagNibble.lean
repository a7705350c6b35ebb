import SM83.Proofs.Alu.Adder
import SM83.Proofs.Registers.FlagMask

/-! Register files in which the low nibble of the flag byte is clear. Every write to the register
file keeps it so, and the flags are then all that the byte holds. -/
namespace SM83

namespace Word

theorem low_and (word mask : UInt16) : low (word &&& mask) = low word &&& low mask :=
  UInt16.toUInt8_and word mask

theorem high_and (word mask : UInt16) : high (word &&& mask) = high word &&& high mask := by
  rw [high, UInt16.shiftRight_and, UInt16.toUInt8_and]
  rfl

/-- The mask of the pair AF reaches the flag byte alone. -/
theorem and_flagMask (word : UInt16) :
    word &&& 0xFFF0 = ofBytes (high word) (low word &&& 0xF0) := by
  rw [← ofBytes_high_low (word &&& 0xFFF0), high_and, low_and]
  exact congrArg (ofBytes · _) UInt8.and_neg_one

end Word

namespace Registers

/-- The low nibble of the flag byte is clear. -/
def Clean (regs : Registers) : Prop :=
  regs.byte .f &&& 0x0F = 0

instance (regs : Registers) : Decidable regs.Clean :=
  inferInstanceAs (Decidable (_ = _))

variable {regs : Registers}

theorem masked_eq_of_clear : ∀ byte : UInt8, byte &&& 0x0F = 0 → byte &&& 0xF0 = byte := by
  decide +kernel

namespace Clean

theorem setByte (clean : regs.Clean) (register : ByteRegister) (value : UInt8) :
    (regs.setByte register value).Clean := by
  cases register with
  | f =>
    simp only [Clean, Registers.setByte, byte, Word.low_ofBytes]
    exact Flags.masked_nibble value
  | a => simpa only [Clean, Registers.setByte, byte, Word.low_ofBytes] using clean
  | _ => exact clean

theorem setFlags (clean : regs.Clean) (flags : Flags) : (regs.setFlags flags).Clean :=
  clean.setByte .f flags.toByte

theorem setWord (clean : regs.Clean) (register : WordRegister) (value : UInt16) :
    (regs.setWord register value).Clean := by
  cases register with
  | af =>
    simp only [Clean, Registers.setWord, byte, Word.low_and]
    exact Flags.masked_nibble _
  | _ => exact clean

/-- The flags are all that the byte holds. -/
theorem byte_f_eq (clean : regs.Clean) : regs.byte .f = regs.flags.toByte := by
  have whole := Flags.toByte_ofByte (regs.byte .f)
  rw [show regs.byte .f &&& 0x0F = 0 from clean, UInt8.or_zero] at whole
  exact whole.symm

theorem setFlags_flags (clean : regs.Clean) : regs.setFlags regs.flags = regs := by
  rw [Registers.setFlags, ← clean.byte_f_eq, Registers.setByte, masked_eq_of_clear _ clean, byte,
    Word.ofBytes_high_low]

theorem af (clean : regs.Clean) : regs.af &&& 0x000F = 0 := by
  have nibble : regs.af.toNat % 256 % 16 = 0 := by
    rw [← Word.toNat_low, ← Alu.toNat_lowNibble]
    exact congrArg UInt8.toNat clean
  have masked : (regs.af &&& 0x000F).toNat = regs.af.toNat % 16 := by
    rw [UInt16.toNat_and]
    exact Nat.and_two_pow_sub_one_eq_mod regs.af.toNat 4
  apply UInt16.toNat_inj.mp
  rw [masked, UInt16.toNat_zero]
  omega

end Clean

theorem clean_values (state : InitialState) : state.values.1.Clean := by
  cases state <;> decide

end Registers

end SM83
