import SM83.Flags

/-!
Packed decimal: a byte holds two decimal digits, one a nibble. After a binary addition or
subtraction of two such bytes the adjustment brings the result back into that form.
-/

namespace SM83.Alu

/-- What the flags alone call for: a carry out of a digit put its nibble six too low. -/
def carriedAdjustment (flags : Flags) : UInt8 :=
  (if flags.carry then 0x60 else 0) ||| (if flags.halfCarry then 0x06 else 0)

def digitAdjustment (sum : UInt8) : UInt8 :=
  (if sum &&& 0x0F > 0x09 then 0x06 else 0) ||| (if sum > 0x99 then 0x60 else 0)

def adjustment (flags : Flags) (value : UInt8) : UInt8 :=
  if flags.subtract then carriedAdjustment flags
  else carriedAdjustment flags ||| digitAdjustment value

/-- Decimal adjustment of the result of an addition or subtraction, whose flags are given. Carry
tells that the high digit was adjusted, half carry is clear, subtract stays as it was. -/
def decimalAdjust (flags : Flags) (value : UInt8) : UInt8 × Flags :=
  let adjust := adjustment flags value
  let result := if flags.subtract then value - adjust else value + adjust
  (result,
    { flags with
      zero := result == 0
      halfCarry := false
      carry := adjust >= 0x60 })

end SM83.Alu
