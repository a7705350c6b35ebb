/-!
Unsigned numbers read from text in a given radix. One plus sign may stand before the digits. The
digits are read from the left and the first fault counts; at one place a character that is no digit
comes before a number that grows too large.
-/

namespace SM83

inductive NumeralError where
  | empty
  | invalidDigit
  | tooLarge
deriving DecidableEq

namespace NumeralError

def message : NumeralError → String
  | empty => "cannot parse integer from empty string"
  | invalidDigit => "invalid digit found in string"
  | tooLarge => "number too large to fit in target type"

end NumeralError

namespace Numeral

/-- The value of a decimal digit or of a letter from `a` on, in either case. -/
def digitValue? (char : Char) : Option Nat :=
  if '0' ≤ char ∧ char ≤ '9' then some (char.toNat - '0'.toNat)
  else if 'a' ≤ char ∧ char ≤ 'z' then some (char.toNat - 'a'.toNat + 10)
  else if 'A' ≤ char ∧ char ≤ 'Z' then some (char.toNat - 'A'.toNat + 10)
  else none

def digit? (radix : Nat) (char : Char) : Option Nat :=
  (digitValue? char).filter (· < radix)

def readDigits (radix bound value : Nat) : List Char → Except NumeralError Nat
  | [] => .ok value
  | char :: rest =>
    match digit? radix char with
    | none => .error .invalidDigit
    | some digit =>
      let next := value * radix + digit
      if bound < next then .error .tooLarge else readDigits radix bound next rest

/-- Reads a number that is at most `bound`. A sign that stands alone is no number. -/
def read (radix bound : Nat) (text : String) : Except NumeralError Nat :=
  match text.toList with
  | [] => .error .empty
  | '+' :: char :: rest => readDigits radix bound 0 (char :: rest)
  | chars => readDigits radix bound 0 chars

end Numeral

end SM83
