import SM83.Flags

/-!
Bitwise operations on bytes. Disjunction and exclusive disjunction come with two flag rules: the
processor's own, which clears all flags but zero, and one that writes the zero flag only.
-/

namespace SM83.Alu

/-- Conjunction; it sets half carry. -/
def and8 (a b : UInt8) : UInt8 × Flags :=
  (a &&& b, { Flags.zeroIf (a &&& b) with halfCarry := true })

def or8 (a b : UInt8) : UInt8 × Flags :=
  (a ||| b, Flags.zeroIf (a ||| b))

def xor8 (a b : UInt8) : UInt8 × Flags :=
  (a ^^^ b, Flags.zeroIf (a ^^^ b))

def or8ZeroOnly (flags : Flags) (a b : UInt8) : UInt8 × Flags :=
  (a ||| b, { flags with zero := a ||| b == 0 })

def xor8ZeroOnly (flags : Flags) (a b : UInt8) : UInt8 × Flags :=
  (a ^^^ b, { flags with zero := a ^^^ b == 0 })

end SM83.Alu
