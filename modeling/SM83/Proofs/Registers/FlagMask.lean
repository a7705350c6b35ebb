import Mathlib.Data.FinEnum
import SM83.Cpu.Operands

/-! Register files and processors that may differ in some of the flags and are the same, bit for
bit, in everything else. The flags in question are given as a mask. -/
namespace SM83

namespace Flags

/-- The same flags but for those in the mask. -/
structure AlikeBut (mask one other : Flags) : Prop where
  zero : mask.zero = false → other.zero = one.zero
  subtract : mask.subtract = false → other.subtract = one.subtract
  halfCarry : mask.halfCarry = false → other.halfCarry = one.halfCarry
  carry : mask.carry = false → other.carry = one.carry

theorem AlikeBut.refl (mask flags : Flags) : AlikeBut mask flags flags :=
  ⟨fun _ => rfl, fun _ => rfl, fun _ => rfl, fun _ => rfl⟩

/-- If any flag may differ, nothing is to be shown. -/
theorem AlikeBut.all (one other : Flags) : AlikeBut ⟨true, true, true, true⟩ one other :=
  ⟨nofun, nofun, nofun, nofun⟩

theorem ofByte_toByte_masked (flags : Flags) : ofByte (flags.toByte &&& 0xF0) = flags := by
  obtain ⟨zero, subtract, halfCarry, carry⟩ := flags
  cases zero <;> cases subtract <;> cases halfCarry <;> cases carry <;> rfl

theorem masked_nibble : ∀ byte : UInt8, (byte &&& 0xF0) &&& 0x0F = 0 := by
  decide +kernel

/-- A byte is its flags and its unused low nibble. -/
theorem toByte_ofByte : ∀ byte : UInt8, (ofByte byte).toByte ||| (byte &&& 0x0F) = byte := by
  decide +kernel

end Flags

namespace Registers

/-- The same registers but for the flags in the mask. -/
structure AlikeBut (mask : Flags) (one other : Registers) : Prop where
  flags : Flags.AlikeBut mask one.flags other.flags
  unused : other.byte .f &&& 0x0F = one.byte .f &&& 0x0F
  a : other.byte .a = one.byte .a
  bc : other.bc = one.bc
  de : other.de = one.de
  hl : other.hl = one.hl
  sp : other.sp = one.sp
  pc : other.pc = one.pc

variable {mask : Flags} {one other : Registers}

@[simp] theorem flags_setFlags (regs : Registers) (flags : Flags) :
    (regs.setFlags flags).flags = flags := by
  simp only [setFlags, setByte, Registers.flags, byte, Word.low_ofBytes]
  exact flags.ofByte_toByte_masked

@[simp] theorem flags_setByte_a (regs : Registers) (value : UInt8) :
    (regs.setByte .a value).flags = regs.flags := by
  simp only [setByte, flags, byte, Word.low_ofBytes]

/-- Flags that were just written can be written again. -/
theorem setFlags_flags (regs : Registers) (flags : Flags) (value : UInt8) :
    let written := (regs.setFlags flags).setByte .a value
    written.setFlags written.flags = written := by
  intro written
  have same : written.flags = flags := by
    simp only [written, flags_setByte_a, flags_setFlags]
  rw [same]
  simp only [written, setFlags, setByte, Word.low_ofBytes, Word.high_ofBytes]

namespace AlikeBut

theorem refl (mask : Flags) (regs : Registers) : AlikeBut mask regs regs :=
  ⟨.refl mask _, rfl, rfl, rfl, rfl, rfl, rfl, rfl⟩

theorem setFlags (alike : AlikeBut mask one other) {first second : Flags}
    (flags : Flags.AlikeBut mask first second) :
    AlikeBut mask (one.setFlags first) (other.setFlags second) := by
  refine ⟨?_, ?_, ?_, alike.bc, alike.de, alike.hl, alike.sp, alike.pc⟩
  · rwa [flags_setFlags, flags_setFlags]
  · simp only [Registers.setFlags, setByte, byte, Word.low_ofBytes, Flags.masked_nibble]
  · simp only [Registers.setFlags, setByte, byte, Word.high_ofBytes]
    exact alike.a

/-- Writing the same byte on both sides; the flags apart, which are written as flags. -/
theorem setByte (alike : AlikeBut mask one other) (register : ByteRegister) (value : UInt8)
    (data : register ≠ .f) :
    AlikeBut mask (one.setByte register value) (other.setByte register value) := by
  obtain ⟨flags, unused, a, bc, de, hl, sp, pc⟩ := alike
  cases register with
  | f => exact absurd rfl data
  | a =>
    refine ⟨?_, ?_, ?_, bc, de, hl, sp, pc⟩
    · rwa [flags_setByte_a, flags_setByte_a]
    · simpa only [Registers.setByte, byte, Word.low_ofBytes] using unused
    · simp only [Registers.setByte, byte, Word.high_ofBytes]
  | b => exact ⟨flags, unused, a, by simp only [Registers.setByte, bc], de, hl, sp, pc⟩
  | c => exact ⟨flags, unused, a, by simp only [Registers.setByte, bc], de, hl, sp, pc⟩
  | d => exact ⟨flags, unused, a, bc, by simp only [Registers.setByte, de], hl, sp, pc⟩
  | e => exact ⟨flags, unused, a, bc, by simp only [Registers.setByte, de], hl, sp, pc⟩
  | h => exact ⟨flags, unused, a, bc, de, by simp only [Registers.setByte, hl], sp, pc⟩
  | l => exact ⟨flags, unused, a, bc, de, by simp only [Registers.setByte, hl], sp, pc⟩

theorem setWord (alike : AlikeBut mask one other) (register : WordRegister) (value : UInt16) :
    AlikeBut mask (one.setWord register value) (other.setWord register value) := by
  obtain ⟨flags, unused, a, bc, de, hl, sp, pc⟩ := alike
  cases register with
  | af => exact ⟨.refl mask _, rfl, rfl, bc, de, hl, sp, pc⟩
  | bc => exact ⟨flags, unused, a, rfl, de, hl, sp, pc⟩
  | de => exact ⟨flags, unused, a, bc, rfl, hl, sp, pc⟩
  | hl => exact ⟨flags, unused, a, bc, de, rfl, sp, pc⟩
  | sp => exact ⟨flags, unused, a, bc, de, hl, rfl, pc⟩
  | pc => exact ⟨flags, unused, a, bc, de, hl, sp, rfl⟩

theorem byte (alike : AlikeBut mask one other) {register : ByteRegister} (data : register ≠ .f) :
    other.byte register = one.byte register := by
  cases register with
  | f => exact absurd rfl data
  | a => exact alike.a
  | b | c => simp only [Registers.byte, alike.bc]
  | d | e => simp only [Registers.byte, alike.de]
  | h | l => simp only [Registers.byte, alike.hl]

theorem word (alike : AlikeBut mask one other) {register : WordRegister} (data : register ≠ .af) :
    other.word register = one.word register := by
  cases register with
  | af => exact absurd rfl data
  | bc => exact alike.bc
  | de => exact alike.de
  | hl => exact alike.hl
  | sp => exact alike.sp
  | pc => exact alike.pc

/-- If no flag differs, the whole pair is the same. -/
theorem af (alike : AlikeBut mask one other) (flags : other.flags = one.flags) :
    other.af = one.af := by
  have unused := alike.unused
  have low : other.byte .f = one.byte .f := by
    rw [← Flags.toByte_ofByte (other.byte .f), ← Flags.toByte_ofByte (one.byte .f), unused]
    exact congrArg (Flags.toByte · ||| _) flags
  calc other.af
    _ = Word.ofBytes (other.byte .a) (other.byte .f) := (Word.ofBytes_high_low _).symm
    _ = Word.ofBytes (one.byte .a) (one.byte .f) := by rw [alike.a, low]
    _ = one.af := Word.ofBytes_high_low _

end AlikeBut
end Registers

namespace Cpu

/-- The same processor but for the flags in the mask. -/
structure AlikeBut (mask : Flags) (one other : Cpu) : Prop where
  regs : Registers.AlikeBut mask one.regs other.regs
  ime : other.ime = one.ime
  power : other.power = one.power
  config : other.config = one.config

variable {mask : Flags} {one other : Cpu}

namespace AlikeBut

theorem refl (mask : Flags) (cpu : Cpu) : AlikeBut mask cpu cpu :=
  ⟨.refl mask _, rfl, rfl, rfl⟩

theorem setFlags (alike : AlikeBut mask one other) {first second : Flags}
    (flags : Flags.AlikeBut mask first second) :
    AlikeBut mask (one.setFlags first) (other.setFlags second) :=
  ⟨alike.regs.setFlags flags, alike.ime, alike.power, alike.config⟩

theorem setByte (alike : AlikeBut mask one other) (register : ByteRegister) (value : UInt8)
    (data : register ≠ .f) :
    AlikeBut mask (one.setByte register value) (other.setByte register value) :=
  ⟨alike.regs.setByte register value data, alike.ime, alike.power, alike.config⟩

theorem setWord (alike : AlikeBut mask one other) (register : WordRegister) (value : UInt16) :
    AlikeBut mask (one.setWord register value) (other.setWord register value) :=
  ⟨alike.regs.setWord register value, alike.ime, alike.power, alike.config⟩

theorem setIme (alike : AlikeBut mask one other) (enabled : Bool) :
    AlikeBut mask (one.setIme enabled) (other.setIme enabled) :=
  ⟨alike.regs, rfl, alike.power, alike.config⟩

end AlikeBut
end Cpu
end SM83
