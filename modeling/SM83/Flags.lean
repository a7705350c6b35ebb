/-!
The four condition flags and the byte that holds them. Zero is bit 7, subtract bit 6, half carry
bit 5 and carry bit 4; the low four bits of the byte hold nothing, so they are ignored when it is
read and clear when it is written.
-/

namespace SM83

structure Flags where
  zero : Bool
  subtract : Bool
  halfCarry : Bool
  carry : Bool
deriving DecidableEq

namespace Flags

def clear : Flags := ⟨false, false, false, false⟩

/-- The zero flag alone, set when `value` is zero. -/
def zeroIf (value : UInt8) : Flags :=
  { clear with zero := value == 0 }

def ofByte (byte : UInt8) : Flags where
  zero := byte &&& 0x80 != 0
  subtract := byte &&& 0x40 != 0
  halfCarry := byte &&& 0x20 != 0
  carry := byte &&& 0x10 != 0

def toByte (flags : Flags) : UInt8 :=
  (if flags.zero then 0x80 else 0) ||| (if flags.subtract then 0x40 else 0) |||
    (if flags.halfCarry then 0x20 else 0) ||| (if flags.carry then 0x10 else 0)

/-- Every flag set in `mask` is set, so an empty mask is always contained. -/
def contains (flags mask : Flags) : Bool :=
  (!mask.zero || flags.zero) && (!mask.subtract || flags.subtract) &&
    (!mask.halfCarry || flags.halfCarry) && (!mask.carry || flags.carry)

/-- The flags with those in `mask` set to `value` and the others as they were. -/
def assign (flags mask : Flags) (value : Bool) : Flags where
  zero := if mask.zero then value else flags.zero
  subtract := if mask.subtract then value else flags.subtract
  halfCarry := if mask.halfCarry then value else flags.halfCarry
  carry := if mask.carry then value else flags.carry

@[simp] theorem ofByte_toByte (flags : Flags) : ofByte flags.toByte = flags := by
  obtain ⟨zero, subtract, halfCarry, carry⟩ := flags
  cases zero <;> cases subtract <;> cases halfCarry <;> cases carry <;> rfl

end Flags

end SM83
