import SM83.Address
import SM83.Proofs.Numeral.Spelling

/-! The texts that are addresses: a marker that chooses the radix, a plus sign, and digits that
stand for a number in the address space. Every other text is told apart by what is wrong with it. -/
namespace SM83.Address

open Numeral

/-- The radix that a text calls for, and what stands behind its marker. The letter of the marker is
small, and no second marker is taken off. -/
inductive Marked : List Char → Nat → List Char → Prop
  | letter (digits : List Char) : Marked ('0' :: 'x' :: digits) 16 digits
  | dollar (digits : List Char) : Marked ('$' :: digits) 16 digits
  | plain (digits : List Char) :
    ¬ ['0', 'x'] <+: digits → ¬ ['$'] <+: digits → Marked digits 10 digits

/-- The parts of a text: its radix, what stands behind its marker, and of that the digits behind the
sign. -/
structure Parts (text : String) (radix : Nat) (digits numeral : List Char) : Prop where
  marker : Marked text.toList radix digits
  sign : Unsigned digits numeral

variable {text : String} {radix : Nat} {digits numeral chars : List Char} {address : UInt16}

theorem Marked.small (marker : Marked chars radix digits) : radix ≤ 16 := by
  cases marker <;> decide

theorem exists_marked (chars : List Char) : ∃ radix digits, Marked chars radix digits := by
  by_cases letter : ['0', 'x'] <+: chars
  · obtain ⟨digits, rfl⟩ := letter
    exact ⟨16, digits, .letter digits⟩
  · by_cases dollar : ['$'] <+: chars
    · obtain ⟨digits, rfl⟩ := dollar
      exact ⟨16, digits, .dollar digits⟩
    · exact ⟨10, chars, .plain chars letter dollar⟩

theorem radixAndDigits_of_marked (marker : Marked text.toList radix digits) :
    radixAndDigits text = (radix, String.ofList digits) := by
  unfold radixAndDigits
  generalize written : text.toList = chars at marker
  cases marker with
  | letter => rfl
  | dollar => rfl
  | plain _ letter dollar =>
    split
    · exact absurd ⟨_, rfl⟩ letter
    · exact absurd ⟨_, rfl⟩ dollar
    · rw [← written, String.ofList_toList]

theorem read_of_parts (parts : Parts text radix digits numeral) :
    read text =
      match if digits = [] then .error .empty else readDigits radix 0xFFFF 0 numeral with
      | .ok value => .ok value.toUInt16
      | .error cause => .error ⟨text, cause⟩ := by
  rewrite [read, radixAndDigits_of_marked parts.marker, ← read_of_unsigned parts.sign]
  rfl

theorem read_eq_ok_iff (parts : Parts text radix digits numeral) :
    read text = .ok address ↔ numeral ≠ [] ∧ Spells radix numeral address.toNat := by
  rw [read_of_parts parts, Ne, parts.sign.eq_nil_iff]
  split_ifs with empty
  · exact iff_of_false nofun fun spelt => spelt.1 empty
  · have small := parts.marker.small
    have inside : address.toNat ≤ 0xFFFF := Nat.le_of_lt_succ address.toNat_lt
    rw [and_iff_right empty]
    constructor
    · intro found
      cases digits : readDigits radix 0xFFFF 0 numeral with
      | error cause => rw [digits] at found; cases found
      | ok value =>
        rw [digits] at found
        cases found
        obtain ⟨spelt, fits⟩ := (readDigits_eq_iff small).mp digits
        rwa [Nat.toUInt16_eq, UInt16.toNat_ofNat_of_lt' (Nat.lt_succ_of_le fits)]
    · intro spelt
      have answer : Answers radix 0xFFFF numeral (.ok address.toNat) := ⟨spelt, inside⟩
      rw [(readDigits_eq_iff small).mpr answer]
      exact congrArg _ UInt16.ofNat_toNat

theorem read_eq_error_iff (parts : Parts text radix digits numeral) {error : AddressError} :
    read text = .error error ↔
      error.text = text ∧
        if digits = [] then error.cause = .empty
        else Answers radix 0xFFFF numeral (.error error.cause) := by
  rw [read_of_parts parts]
  obtain ⟨other, cause⟩ := error
  split_ifs with empty
  · simp [eq_comm]
  · rw [← readDigits_eq_iff parts.marker.small]
    cases readDigits radix 0xFFFF 0 numeral with
    | ok value => simp
    | error cause => simp [eq_comm]

/-- What is wrong with a text that is no address. -/
theorem cause_of_error (parts : Parts text radix digits numeral) {error : AddressError}
    (failed : read text = .error error) :
    (error.cause = .empty ↔ digits = []) ∧
      (error.cause = .tooLarge ↔ Exceeds radix 0xFFFF numeral) ∧
      (error.cause = .invalidDigit ↔ digits ≠ [] ∧ ¬ Exceeds radix 0xFFFF numeral) := by
  obtain ⟨-, answer⟩ := (read_eq_error_iff parts).mp failed
  split_ifs at answer with empty
  · have blank : ¬ Exceeds radix 0xFFFF numeral := by
      rw [parts.sign.eq_nil_iff.mpr empty]
      exact (spells_nil.mpr rfl).not_exceeds parts.marker.small (Nat.zero_le _)
    simp [answer, empty, blank]
  · cases cause : error.cause <;> rw [cause] at answer
    case empty => exact answer.elim
    case tooLarge =>
      have large : Exceeds radix 0xFFFF numeral := answer
      simp [empty, large]
    case invalidDigit => simp [empty, answer.2]

/-- Hexadecimal digits behind a marker, as many as the address needs or more. -/
theorem read_hexDigits {width : Nat} (marker : Marked text.toList 16 chars) (positive : 0 < width)
    (fits : address.toNat < 16 ^ width)
    (written : chars.map Char.toUpper = hexDigits width address.toNat) :
    read text = .ok address := by
  have spelt := spells_hexDigits written
  rw [Nat.mod_eq_of_lt fits] at spelt
  refine (read_eq_ok_iff ⟨marker, spelt.unsigned (by decide)⟩).mpr ⟨?_, spelt⟩
  rintro rfl
  have length := congrArg List.length written
  rw [length_hexDigits] at length
  exact absurd length (Nat.ne_of_lt positive)

theorem read_decimal (address : UInt16) : read (decimal address.toNat) = .ok address := by
  have spelt := spells_decimal address.toNat
  have letter : digit? 10 'x' = none := rfl
  have dollar : digit? 10 '$' = none := rfl
  have marker : Marked (decimal address.toNat).toList 10 (decimal address.toNat).toList :=
    .plain _ (fun start => @not_spells_of_digit? 10 _ 'x' ['0'] _ (by decide) letter start spelt)
      (fun start => @not_spells_of_digit? 10 _ '$' [] _ (by decide) dollar start spelt)
  refine (read_eq_ok_iff ⟨marker, spelt.unsigned (by decide)⟩).mpr ⟨?_, spelt⟩
  rw [toList_decimal]
  exact Nat.toDigits_ne_nil

/-- Every text has a radix, digits and a numeral, and is an address exactly if the numeral is not
empty and spells a number in the address space, which is then the address. Otherwise the message
quotes the text, and the cause is that there are no digits, or that the numeral is too large up to
some place, or else that a character is no digit. In particular the hexadecimal digits of an address
behind either marker, in either case and with any number of leading zeros, and its decimal digits
alone are read as that address. -/
theorem read_accepts_exactly_grammar :
    (∀ text, ∃ radix digits numeral, Parts text radix digits numeral) ∧
    (∀ text radix digits numeral, Parts text radix digits numeral →
      (∀ address, read text = .ok address ↔ numeral ≠ [] ∧ Spells radix numeral address.toNat) ∧
      ∀ error, read text = .error error →
        error.text = text ∧
        error.message = "invalid address '" ++ text ++ "'" ++ ": " ++ error.cause.message ∧
        (error.cause = .empty ↔ digits = []) ∧
        (error.cause = .tooLarge ↔ Exceeds radix 0xFFFF numeral) ∧
        (error.cause = .invalidDigit ↔ digits ≠ [] ∧ ¬ Exceeds radix 0xFFFF numeral)) ∧
    (∀ (address : UInt16) (width : Nat) (chars : List Char), 0 < width →
      address.toNat < 16 ^ width → chars.map Char.toUpper = hexDigits width address.toNat →
      read ("0x" ++ String.ofList chars) = .ok address ∧
        read ("$" ++ String.ofList chars) = .ok address) ∧
    ∀ address : UInt16, read (decimal address.toNat) = .ok address := by
  refine ⟨fun text => ?_, fun text radix digits numeral parts => ?_, ?_, read_decimal⟩
  · obtain ⟨radix, digits, marker⟩ := exists_marked text.toList
    obtain ⟨numeral, sign⟩ := exists_unsigned digits
    exact ⟨radix, digits, numeral, marker, sign⟩
  · refine ⟨fun address => read_eq_ok_iff parts, fun error failed => ?_⟩
    obtain ⟨rfl, -⟩ := (read_eq_error_iff parts).mp failed
    exact ⟨rfl, rfl, cause_of_error parts failed⟩
  · intro address width chars positive fits written
    have letter : Marked ("0x" ++ String.ofList chars).toList 16 chars := by
      simpa using Marked.letter chars
    have dollar : Marked ("$" ++ String.ofList chars).toList 16 chars := by
      simpa using Marked.dollar chars
    exact ⟨read_hexDigits letter positive fits written, read_hexDigits dollar positive fits written⟩

/-- A sign behind the marker is taken off, a number that is too large before a character that is no
digit is called too large, and letters may be of either case. -/
theorem sign_behind_marker :
    read "0x+fF" = .ok 255 ∧ read "65536x" = .error ⟨"65536x", .tooLarge⟩ ∧
      read ("$" ++ String.ofList ['0', 'f', 'F']) = .ok 255 := by
  obtain ⟨-, grammar, hexadecimal, -⟩ := read_accepts_exactly_grammar
  have signed : Parts "0x+fF" 16 ['+', 'f', 'F'] ['f', 'F'] :=
    ⟨.letter ['+', 'f', 'F'], .plus 'f' ['F']⟩
  have spelt : Spells 16 ['f', 'F'] 255 := @spells_hexDigits 255 ['f', 'F'] 2 rfl
  have plain : Parts "65536x" 10 "65536x".toList "65536x".toList :=
    ⟨.plain _ (by decide) (by decide), .bare _ nofun⟩
  have large : Exceeds 10 0xFFFF "65536x".toList :=
    ⟨(decimal 65536).toList, 65536, by decide, spells_decimal 65536, by decide⟩
  refine ⟨((grammar _ _ _ _ signed).1 255).mpr ⟨by decide, spelt⟩, ?_, ?_⟩
  · obtain ⟨accepts, refuses⟩ := grammar _ _ _ _ plain
    cases outcome : read "65536x" with
    | ok address =>
      obtain ⟨-, number⟩ := (accepts address).mp outcome
      exact absurd large (number.not_exceeds (by decide) (Nat.le_of_lt_succ address.toNat_lt))
    | error error =>
      obtain ⟨text, -, -, tooLarge, -⟩ := refuses error outcome
      obtain ⟨_, cause⟩ := error
      cases text
      cases tooLarge.mpr large
      rfl
  · exact (hexadecimal 255 3 ['0', 'f', 'F'] (by decide) (by decide) rfl).2

end SM83.Address
