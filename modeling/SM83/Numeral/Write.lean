/-!
Numbers as text: bytes and words in a fixed number of upper-case hexadecimal digits, counts and
signed displacements in decimal.
-/

namespace SM83.Numeral

def hexDigit (value : Nat) : Char :=
  if value < 10 then Char.ofNat ('0'.toNat + value) else Char.ofNat ('A'.toNat + (value - 10))

/-- The last `width` hexadecimal digits of a number, leading zeros included. -/
def hexDigits : Nat → Nat → List Char
  | 0, _ => []
  | width + 1, value => hexDigits width (value / 16) ++ [hexDigit (value % 16)]

def hexByte (byte : UInt8) : String :=
  String.ofList (hexDigits 2 byte.toNat)

def hexWord (word : UInt16) : String :=
  String.ofList (hexDigits 4 word.toNat)

def decimal (value : Nat) : String :=
  Nat.repr value

/-- A displacement in decimal, a minus sign before a negative one. -/
def signed (offset : Int8) : String :=
  if offset < 0 then "-" ++ decimal offset.toInt.natAbs else decimal offset.toInt.natAbs

/-- A displacement in decimal, with a sign also when it is zero or positive. -/
def explicitlySigned (offset : Int8) : String :=
  if offset < 0 then signed offset else "+" ++ signed offset

end SM83.Numeral
