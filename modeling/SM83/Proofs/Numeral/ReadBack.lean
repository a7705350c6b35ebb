import Mathlib.Algebra.Group.Nat.Defs
import SM83.Numeral.Read
import SM83.Numeral.Write

/-! Written numerals are read back: the value of the digits is the number that was written. -/
namespace SM83.Numeral

variable {radix bound value : Nat}

theorem digit?_hexDigit : ∀ value < 16, digit? 16 (hexDigit value) = some value := by
  decide

theorem readDigits_append (first second : List Char) :
    readDigits radix bound value (first ++ second) =
      (readDigits radix bound value first).bind (readDigits radix bound · second) := by
  induction first generalizing value with
  | nil => rfl
  | cons char rest ih =>
    simp only [List.cons_append, readDigits]
    cases digit? radix char with
    | none => rfl
    | some digit =>
      dsimp only
      split
      · rfl
      · exact ih

/-- Reading hexadecimal digits appends them to the number read before. -/
theorem readDigits_hexDigits {width number : Nat}
    (fits : value * 16 ^ width + number % 16 ^ width ≤ bound) :
    readDigits 16 bound value (hexDigits width number) =
      .ok (value * 16 ^ width + number % 16 ^ width) := by
  induction width generalizing number with
  | zero => simp [hexDigits, readDigits, Nat.mod_one]
  | succ width ih =>
    -- The last digit is the one that is cut off first.
    have digits : number % 16 ^ (width + 1) = number % 16 + 16 * (number / 16 % 16 ^ width) := by
      rw [Nat.pow_succ', Nat.mod_mul]
    have power : value * 16 ^ (width + 1) = 16 * (value * 16 ^ width) := by
      rw [Nat.pow_succ', Nat.mul_left_comm]
    rw [digits, power] at fits ⊢
    have before := @ih (number / 16) (by omega)
    have last := digit?_hexDigit (number % 16) (Nat.mod_lt _ (by decide))
    rw [hexDigits, readDigits_append, before]
    simp only [Except.bind, readDigits, last]
    rw [if_neg (by omega)]
    congr 1
    omega

theorem mem_hexDigits {width number : Nat} {char : Char} (member : char ∈ hexDigits width number) :
    ∃ value < 16, char = hexDigit value := by
  induction width generalizing number with
  | zero => cases member
  | succ width ih =>
    rw [hexDigits, List.mem_append, List.mem_singleton] at member
    rcases member with member | rfl
    · exact ih member
    · exact ⟨_, Nat.mod_lt _ (by decide), rfl⟩

theorem length_hexDigits (width number : Nat) : (hexDigits width number).length = width := by
  induction width generalizing number with
  | zero => rfl
  | succ width ih => simp [hexDigits, ih]

theorem readDigits_hexByte (byte : UInt8) :
    readDigits 16 0xFFFF 0 (hexByte byte).toList = .ok byte.toNat := by
  have small := byte.toNat_lt
  rw [hexByte, String.toList_ofList, readDigits_hexDigits (by omega)]
  congr 1
  omega

theorem readDigits_hexWord (word : UInt16) :
    readDigits 16 0xFFFF 0 (hexWord word).toList = .ok word.toNat := by
  have small := word.toNat_lt
  rw [hexWord, String.toList_ofList, readDigits_hexDigits (by omega)]
  congr 1
  omega

theorem toList_decimal (value : Nat) : (decimal value).toList = Nat.toDigits 10 value :=
  Nat.toList_repr

theorem isDigit_of_mem_decimal {value : Nat} {char : Char} (member : char ∈ (decimal value).toList) :
    char.isDigit := by
  rw [toList_decimal] at member
  exact Nat.isDigit_of_mem_toDigits (by decide) (by decide) member

theorem ofDigitChars_decimal (value : Nat) :
    Nat.ofDigitChars 10 (decimal value).toList 0 = value := by
  rw [toList_decimal]
  exact Nat.ofDigitChars_ten_toDigits

end SM83.Numeral
