import SM83.Numeral.Read

/-!
Addresses as text: hexadecimal behind `0x` or a dollar sign, decimal without either.
-/

namespace SM83

/-- A text that is no address, and why. -/
structure AddressError where
  text : String
  cause : NumeralError
deriving DecidableEq

namespace AddressError

def summary (error : AddressError) : String :=
  "invalid address '" ++ error.text ++ "'"

def message (error : AddressError) : String :=
  error.summary ++ ": " ++ error.cause.message

end AddressError

namespace Address

/-- The radix of an address text and its digits. One marker at most is taken off. -/
def radixAndDigits (text : String) : Nat × String :=
  match text.toList with
  | '0' :: 'x' :: digits => (16, String.ofList digits)
  | '$' :: digits => (16, String.ofList digits)
  | _ => (10, text)

def read (text : String) : Except AddressError UInt16 :=
  let (radix, digits) := radixAndDigits text
  match Numeral.read radix 0xFFFF digits with
  | .ok value => .ok value.toUInt16
  | .error cause => .error ⟨text, cause⟩

end Address

end SM83
