import SM83.Proofs.Registers.Confined
import SM83.Proofs.Registers.FlagNibble

/-! The register file beside registers that share no storage. Eight bytes and two words, each of its
own, answer every question as the register file does, whatever was written to both. -/
namespace SM83

inductive RegisterWrite where
  | setByte (register : ByteRegister) (value : UInt8)
  | setWord (register : WordRegister) (value : UInt16)
  | setFlags (flags : Flags)
  | assignFlags (mask : Flags) (value : Bool)

/-- Eight bytes and two words that share nothing. -/
structure SeparateRegisters where
  byte : ByteRegister → UInt8
  sp : UInt16
  pc : UInt16

namespace SeparateRegisters

def zero : SeparateRegisters := ⟨fun _ => 0, 0, 0⟩

/-- Writes one byte and no other; of the flag byte the low nibble stays clear. -/
def setByte (cells : SeparateRegisters) (register : ByteRegister) (value : UInt8) :
    SeparateRegisters :=
  let kept := if register = .f then value &&& 0xF0 else value
  { cells with byte := fun other => if other = register then kept else cells.byte other }

/-- Writes the two bytes of a word to two registers, the high one to the first. -/
def setPair (cells : SeparateRegisters) (first second : ByteRegister) (value : UInt16) :
    SeparateRegisters :=
  (cells.setByte first (.ofNat (value.toNat / 256))).setByte second (.ofNat (value.toNat % 256))

def setWord (cells : SeparateRegisters) (register : WordRegister) (value : UInt16) :
    SeparateRegisters :=
  match register with
  | .af => cells.setPair .a .f value
  | .bc => cells.setPair .b .c value
  | .de => cells.setPair .d .e value
  | .hl => cells.setPair .h .l value
  | .sp => { cells with sp := value }
  | .pc => { cells with pc := value }

def pair (cells : SeparateRegisters) (first second : ByteRegister) : Nat :=
  256 * (cells.byte first).toNat + (cells.byte second).toNat

def word (cells : SeparateRegisters) : WordRegister → Nat
  | .af => cells.pair .a .f
  | .bc => cells.pair .b .c
  | .de => cells.pair .d .e
  | .hl => cells.pair .h .l
  | .sp => cells.sp.toNat
  | .pc => cells.pc.toNat

/-- Sets or clears bits of the flag byte. -/
def assignBits (cells : SeparateRegisters) (bits : UInt8) (value : Bool) : SeparateRegisters :=
  let flags := cells.byte .f
  cells.setByte .f (if value then flags ||| bits else flags &&& ~~~bits)

def perform (cells : SeparateRegisters) : RegisterWrite → SeparateRegisters
  | .setByte register value => cells.setByte register value
  | .setWord register value => cells.setWord register value
  | .setFlags flags => cells.setByte .f flags.toByte
  | .assignFlags mask value => cells.assignBits mask.toByte value

end SeparateRegisters

namespace Flags

/-- Flags are set and cleared as the bits of the byte that holds them. -/
theorem toByte_assign (flags mask : Flags) (value : Bool) :
    (flags.assign mask value).toByte =
      if value then flags.toByte ||| mask.toByte else flags.toByte &&& ~~~mask.toByte := by
  obtain ⟨z, n, h, c⟩ := flags
  obtain ⟨z', n', h', c'⟩ := mask
  revert z n h c z' n' h' c' value
  decide +kernel

theorem contains_iff (flags mask : Flags) :
    flags.contains mask = true ↔ flags.toByte &&& mask.toByte = mask.toByte := by
  obtain ⟨z, n, h, c⟩ := flags
  obtain ⟨z', n', h', c'⟩ := mask
  revert z n h c z' n' h' c'
  decide +kernel

end Flags

namespace Registers

variable (regs : Registers)

def perform : RegisterWrite → Registers
  | .setByte register value => regs.setByte register value
  | .setWord register value => regs.setWord register value
  | .setFlags flags => regs.setFlags flags
  | .assignFlags mask value => regs.assignFlags mask value

/-- The register file answers for every register what its separate twin holds. -/
structure Simulates (regs : Registers) (cells : SeparateRegisters) : Prop where
  byte : ∀ register, regs.byte register = cells.byte register
  sp : regs.sp = cells.sp
  pc : regs.pc = cells.pc
  /-- The flags are all that the flag byte holds. -/
  clean : regs.Clean

namespace Simulates

variable {regs : Registers} {cells : SeparateRegisters}

theorem zero : Simulates .zero .zero :=
  ⟨by intro register; cases register <;> rfl, rfl, rfl, by decide⟩

theorem setByte (simulates : Simulates regs cells) (register : ByteRegister) (value : UInt8) :
    Simulates (regs.setByte register value) (cells.setByte register value) := by
  refine ⟨?_, ?_, ?_, simulates.clean.setByte register value⟩
  · intro other
    by_cases same : other = register
    · subst same
      rw [byte_setByte_self]
      exact (if_pos rfl).symm
    · rw [byte_setByte_of_ne regs same, simulates.byte]
      exact (if_neg same).symm
  · cases register <;> exact simulates.sp
  · cases register <;> exact simulates.pc

/-- Writing a pair is writing its two registers. -/
theorem setPair (simulates : Simulates regs cells) {pair : WordRegister}
    {first second : ByteRegister} {value : UInt16}
    (halves : regs.setWord pair value =
      (regs.setByte first (Word.high value)).setByte second (Word.low value)) :
    Simulates (regs.setWord pair value) (cells.setPair first second value) := by
  have high : Word.high value = .ofNat (value.toNat / 256) := by
    rw [← Word.toNat_high, UInt8.ofNat_toNat]
  have low : Word.low value = .ofNat (value.toNat % 256) := by
    rw [← Word.toNat_low, UInt8.ofNat_toNat]
  rw [halves, SeparateRegisters.setPair, ← high, ← low]
  exact (simulates.setByte first _).setByte second _

theorem setWord (simulates : Simulates regs cells) (register : WordRegister) (value : UInt16) :
    Simulates (regs.setWord register value) (cells.setWord register value) := by
  cases register with
  | af =>
    refine simulates.setPair ?_
    simp only [Registers.setWord, Registers.setByte, Word.and_flagMask, Word.high_ofBytes]
  | bc | de | hl =>
    refine simulates.setPair ?_
    simp only [Registers.setWord, Registers.setByte, Word.high_ofBytes, Word.ofBytes_high_low]
  | sp => exact ⟨simulates.byte, rfl, simulates.pc, simulates.clean⟩
  | pc => exact ⟨simulates.byte, simulates.sp, rfl, simulates.clean⟩

theorem flags (simulates : Simulates regs cells) : regs.flags.toByte = cells.byte .f := by
  rw [← simulates.clean.byte_f_eq, simulates.byte]

theorem assignFlags (simulates : Simulates regs cells) (mask : Flags) (value : Bool) :
    Simulates (regs.assignFlags mask value) (cells.assignBits mask.toByte value) := by
  rw [Registers.assignFlags, setFlags, Flags.toByte_assign, simulates.flags]
  exact simulates.setByte .f _

theorem perform (simulates : Simulates regs cells) (write : RegisterWrite) :
    Simulates (regs.perform write) (cells.perform write) := by
  cases write with
  | setByte register value => exact simulates.setByte register value
  | setWord register value => exact simulates.setWord register value
  | setFlags flags => exact simulates.setByte .f flags.toByte
  | assignFlags mask value => exact simulates.assignFlags mask value

theorem performAll (simulates : Simulates regs cells) (writes : List RegisterWrite) :
    Simulates (writes.foldl Registers.perform regs)
      (writes.foldl SeparateRegisters.perform cells) := by
  induction writes generalizing regs cells with
  | nil => exact simulates
  | cons write rest ih => exact ih (simulates.perform write)

theorem pair (simulates : Simulates regs cells) {word : UInt16} {first second : ByteRegister}
    (high : regs.byte first = Word.high word) (low : regs.byte second = Word.low word) :
    word.toNat = cells.pair first second := by
  rw [SeparateRegisters.pair, ← simulates.byte, ← simulates.byte, high, low, Word.toNat_high,
    Word.toNat_low]
  omega

theorem word (simulates : Simulates regs cells) (register : WordRegister) :
    (regs.word register).toNat = cells.word register := by
  cases register with
  | af | bc | de | hl => exact simulates.pair rfl rfl
  | sp => exact congrArg UInt16.toNat simulates.sp
  | pc => exact congrArg UInt16.toNat simulates.pc

end Simulates

/-- After any writes to a cleared register file every register answers as if it were stored apart
from all others: a byte, a pair as 256 times its first register and its second, the pointers, the
flags as the flag byte, and a test of flags by their bits. -/
theorem answers_as_separate (writes : List RegisterWrite) :
    let regs := writes.foldl Registers.perform .zero
    let cells := writes.foldl SeparateRegisters.perform .zero
    (∀ register, regs.byte register = cells.byte register) ∧
    (∀ register, (regs.word register).toNat = cells.word register) ∧
    regs.flags.toByte = cells.byte .f ∧
    ∀ mask : Flags,
      regs.hasFlags mask = true ↔ cells.byte .f &&& mask.toByte = mask.toByte := by
  intro regs cells
  have simulates : Simulates regs cells := Simulates.zero.performAll writes
  refine ⟨simulates.byte, simulates.word, simulates.flags, ?_⟩
  intro mask
  rw [← simulates.flags]
  exact Flags.contains_iff regs.flags mask

end Registers
end SM83
