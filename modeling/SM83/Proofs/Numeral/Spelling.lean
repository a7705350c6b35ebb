import Mathlib.Data.List.Induction
import Mathlib.Data.List.Forall2
import Mathlib.Data.Nat.Digits.Defs
import SM83.Proofs.Numeral.ReadBack

/-! The number that a string of characters stands for by the places of its digits. Reading the
string finds that number, or tells which is met first: a character that is no digit, or digits that
are too large together. -/
namespace SM83.Numeral

/-- The character is the digit with this value in the radix, a letter in either case. -/
def Denotes (radix : Nat) (char : Char) (digit : Nat) : Prop :=
  digit < radix ∧ char.toUpper = hexDigit digit

/-- All characters are digits of the radix, and they stand for this number. The places count from
the last character. -/
def Spells (radix : Nat) (chars : List Char) (number : Nat) : Prop :=
  ∃ digits, List.Forall₂ (Denotes radix) chars.reverse digits ∧ number = Nat.ofDigits radix digits

/-- The digits up to some place are already too large. -/
def Exceeds (radix bound : Nat) (chars : List Char) : Prop :=
  ∃ front number, front <+: chars ∧ Spells radix front number ∧ bound < number

/-- What is to be answered to a string of characters: the number that it spells, or that it is too
large up to some place, or that neither is the case. -/
def Answers (radix bound : Nat) (chars : List Char) : Except NumeralError Nat → Prop
  | .ok number => Spells radix chars number ∧ number ≤ bound
  | .error .tooLarge => Exceeds radix bound chars
  | .error .invalidDigit => (∀ number, ¬ Spells radix chars number) ∧ ¬ Exceeds radix bound chars
  | .error .empty => False

variable {radix bound value number other digit : Nat} {char : Char} {front back chars : List Char}

theorem digitValue?_ascii : ∀ code < 128, ∀ digit < 16,
    digitValue? (Char.ofNat code) = some digit ↔ (Char.ofNat code).toUpper = hexDigit digit := by
  decide +kernel

theorem toNat_hexDigit_lt : ∀ digit < 16, (hexDigit digit).toNat < 128 := by
  decide

/-- No character behind the first 128 is a digit or has another case. -/
theorem digitValue?_of_ge (large : 128 ≤ char.toNat) :
    digitValue? char = none ∧ char.toUpper = char := by
  have code : char.val.toNat = char.toNat := rfl
  constructor
  · simp only [digitValue?, Char.le_def, UInt32.le_iff_toNat_le]
    rw [if_neg, if_neg, if_neg] <;> simp <;> omega
  · unfold Char.toUpper
    rw [dif_neg]
    simp only [UInt32.le_iff_toNat_le]
    simp
    omega

theorem digitValue?_eq_some_iff (small : digit < 16) :
    digitValue? char = some digit ↔ char.toUpper = hexDigit digit := by
  by_cases large : 128 ≤ char.toNat
  · obtain ⟨none, same⟩ := digitValue?_of_ge large
    rw [none, same]
    refine iff_of_false nofun ?_
    rintro rfl
    exact absurd (toNat_hexDigit_lt digit small) (Nat.not_lt_of_le large)
  · have ascii := digitValue?_ascii char.toNat (Nat.lt_of_not_le large) digit small
    rwa [Char.ofNat_toNat] at ascii

theorem digit?_eq_some_iff (small : radix ≤ 16) :
    digit? radix char = some digit ↔ Denotes radix char digit := by
  rw [digit?, Option.filter_eq_some_iff, Denotes, decide_eq_true_eq, and_comm]
  refine and_congr_right fun below => digitValue?_eq_some_iff ?_
  omega

theorem spells_nil : Spells radix [] number ↔ number = 0 := by
  simp [Spells]

theorem spells_snoc :
    Spells radix (front ++ [char]) number ↔
      ∃ value digit, Spells radix front value ∧ Denotes radix char digit ∧
        number = value * radix + digit := by
  simp only [Spells, List.reverse_append, List.reverse_singleton, List.singleton_append,
    List.forall₂_cons_left_iff]
  constructor
  · rintro ⟨digits, ⟨digit, others, denotes, behind, rfl⟩, rfl⟩
    refine ⟨_, digit, ⟨others, behind, rfl⟩, denotes, ?_⟩
    rw [Nat.ofDigits_cons, Nat.add_comm, Nat.mul_comm]
  · rintro ⟨value, digit, ⟨others, behind, rfl⟩, denotes, rfl⟩
    refine ⟨digit :: others, ⟨digit, others, denotes, behind, rfl⟩, ?_⟩
    rw [Nat.ofDigits_cons, Nat.add_comm, Nat.mul_comm]

namespace Spells

theorem unique (small : radix ≤ 16) (one : Spells radix chars number)
    (two : Spells radix chars other) : number = other := by
  induction chars using List.reverseRecOn generalizing number other with
  | nil =>
    rw [spells_nil.mp one, spells_nil.mp two]
  | append_singleton front char ih =>
    obtain ⟨first, digit, before, denotes, rfl⟩ := spells_snoc.mp one
    obtain ⟨second, again, alike, same, rfl⟩ := spells_snoc.mp two
    rw [← digit?_eq_some_iff small] at denotes same
    cases denotes.symm.trans same
    rw [ih before alike]

/-- Digits in front stand for no more than all of them. -/
theorem of_prefix (spelt : Spells radix chars number) (start : front <+: chars) :
    ∃ value ≤ number, Spells radix front value := by
  obtain ⟨back, rfl⟩ := start
  induction back using List.reverseRecOn generalizing number with
  | nil =>
    rw [List.append_nil] at spelt
    exact ⟨number, Nat.le_refl _, spelt⟩
  | append_singleton back char ih =>
    rw [← List.append_assoc] at spelt
    obtain ⟨before, digit, first, denotes, rfl⟩ := spells_snoc.mp spelt
    obtain ⟨value, below, spelt⟩ := ih first
    have : before ≤ before * radix := Nat.le_mul_of_pos_right _ (Nat.zero_lt_of_lt denotes.1)
    exact ⟨value, by omega, spelt⟩

theorem le_of_prefix (small : radix ≤ 16) (whole : Spells radix chars number)
    (start : front <+: chars) (part : Spells radix front value) : value ≤ number := by
  obtain ⟨same, below, again⟩ := whole.of_prefix start
  rwa [part.unique small again]

theorem not_exceeds (small : radix ≤ 16) (whole : Spells radix chars number)
    (fits : number ≤ bound) : ¬ Exceeds radix bound chars := by
  rintro ⟨front, value, start, part, large⟩
  have below := whole.le_of_prefix small start part
  omega

end Spells

theorem Answers.unique (small : radix ≤ 16) :
    ∀ {first second}, Answers radix bound chars first → Answers radix bound chars second →
      first = second
  | .ok _, .ok _, one, two => congrArg _ (one.1.unique small two.1)
  | .ok _, .error .tooLarge, one, two | .error .tooLarge, .ok _, two, one =>
    absurd two (one.1.not_exceeds small one.2)
  | .ok _, .error .invalidDigit, one, two | .error .invalidDigit, .ok _, two, one =>
    absurd one.1 (two.1 _)
  | .error .tooLarge, .error .invalidDigit, one, two
  | .error .invalidDigit, .error .tooLarge, two, one => absurd one two.2
  | .error .tooLarge, .error .tooLarge, _, _ | .error .invalidDigit, .error .invalidDigit, _, _ => rfl

theorem not_spells_of_digit? (small : radix ≤ 16) (none : digit? radix char = none)
    (start : front ++ [char] <+: chars) : ¬ Spells radix chars number := by
  intro spelt
  obtain ⟨value, -, part⟩ := spelt.of_prefix start
  obtain ⟨_, digit, -, denotes, -⟩ := spells_snoc.mp part
  rw [← digit?_eq_some_iff small, none] at denotes
  cases denotes

/-- Reading what stands behind digits that were read gives the answer to all together. -/
theorem answers_readDigits (small : radix ≤ 16) (spelt : Spells radix front value)
    (fits : value ≤ bound) :
    Answers radix bound (front ++ back) (readDigits radix bound value back) := by
  -- The digits already read grow by one character at each step.
  induction back generalizing front value with
  | nil =>
    rw [List.append_nil]
    exact ⟨spelt, fits⟩
  | cons char rest ih =>
    have start : front ++ [char] <+: front ++ char :: rest := ⟨rest, by simp⟩
    cases found : digit? radix char with
    | none =>
      simp only [readDigits, found]
      refine ⟨fun _ => not_spells_of_digit? small found start, ?_⟩
      rintro ⟨part, number, begins, spells, large⟩
      rcases List.prefix_or_prefix_of_prefix begins start with short | long
      · rcases List.prefix_concat_iff.mp short with rfl | short
        · exact not_spells_of_digit? small found List.prefix_rfl spells
        · exact spelt.not_exceeds small fits ⟨part, number, short, spells, large⟩
      · exact not_spells_of_digit? small found long spells
    | some digit =>
      have denotes := (digit?_eq_some_iff small).mp found
      have next : Spells radix (front ++ [char]) (value * radix + digit) :=
        spells_snoc.mpr ⟨value, digit, spelt, denotes, rfl⟩
      simp only [readDigits, found]
      split
      case isTrue large => exact ⟨_, _, start, next, large⟩
      case isFalse within =>
        have rest := ih next (Nat.le_of_not_lt within)
        rwa [List.append_assoc] at rest

theorem readDigits_eq_iff (small : radix ≤ 16) {answer : Except NumeralError Nat} :
    readDigits radix bound 0 chars = answer ↔ Answers radix bound chars answer := by
  have read := @answers_readDigits radix bound 0 [] chars small (spells_nil.mpr rfl) (Nat.zero_le _)
  constructor
  · rintro rfl
    exact read
  · exact read.unique small

/-- Hexadecimal digits spell the number they were written for, in whatever case the letters are. -/
theorem spells_hexDigits {width : Nat} (written : chars.map Char.toUpper = hexDigits width number) :
    Spells 16 chars (number % 16 ^ width) := by
  induction width generalizing chars number with
  | zero =>
    obtain rfl := List.map_eq_nil_iff.mp written
    exact spells_nil.mpr (Nat.mod_one number)
  | succ width ih =>
    rw [hexDigits] at written
    obtain ⟨front, last, rfl, before, behind⟩ := List.map_eq_append_iff.mp written
    obtain ⟨char, rfl, upper⟩ := List.map_eq_singleton_iff.mp behind
    have digits : number % 16 ^ (width + 1) = number / 16 % 16 ^ width * 16 + number % 16 := by
      rw [Nat.pow_succ', Nat.mod_mul, Nat.add_comm, Nat.mul_comm]
    rw [digits]
    exact spells_snoc.mpr ⟨_, _, ih before, ⟨Nat.mod_lt _ (by decide), upper⟩, rfl⟩

theorem denotes_digitChar : ∀ digit < 10, Denotes 10 digit.digitChar digit := by
  unfold Denotes
  decide

/-- Decimal digits spell the number they were written for. -/
theorem spells_decimal (number : Nat) : Spells 10 (decimal number).toList number := by
  rw [toList_decimal]
  induction number using Nat.strongRecOn with
  | ind number ih =>
    by_cases small : number < 10
    · rw [Nat.toDigits_of_lt_base small]
      refine @spells_snoc 10 number number.digitChar [] |>.mpr ?_
      exact ⟨0, number, spells_nil.mpr rfl, denotes_digitChar number small, by omega⟩
    · rw [Nat.toDigits_of_base_le (by decide) (Nat.le_of_not_lt small)]
      have last := denotes_digitChar (number % 10) (Nat.mod_lt _ (by decide))
      exact spells_snoc.mpr ⟨number / 10, number % 10, ih _ (by omega), last, by omega⟩

/-- The digits of a numeral: what stands behind a plus sign, if anything does. -/
inductive Unsigned : List Char → List Char → Prop
  | plus (first : Char) (rest : List Char) : Unsigned ('+' :: first :: rest) (first :: rest)
  | bare (chars : List Char) : (∀ first rest, chars ≠ '+' :: first :: rest) → Unsigned chars chars

variable {numeral : List Char}

theorem Unsigned.eq_nil_iff (sign : Unsigned chars numeral) : numeral = [] ↔ chars = [] := by
  cases sign with
  | plus first rest => exact iff_of_false nofun nofun
  | bare => rfl

theorem exists_unsigned (chars : List Char) : ∃ numeral, Unsigned chars numeral := by
  by_cases signed : ∃ first rest, chars = '+' :: first :: rest
  · obtain ⟨first, rest, rfl⟩ := signed
    exact ⟨_, .plus first rest⟩
  · exact ⟨chars, .bare chars fun first rest same => signed ⟨first, rest, same⟩⟩

/-- A sign is no digit. -/
theorem Spells.unsigned (small : radix ≤ 16) (spelt : Spells radix chars number) :
    Unsigned chars chars := by
  refine .bare chars ?_
  rintro first rest rfl
  have start : [] ++ ['+'] <+: '+' :: first :: rest := ⟨first :: rest, rfl⟩
  exact not_spells_of_digit? small rfl start spelt

/-- A numeral is read as its digits are, unless there is nothing to read. -/
theorem read_of_unsigned (sign : Unsigned chars numeral) :
    read radix bound (String.ofList chars) =
      if chars = [] then .error .empty else readDigits radix bound 0 numeral := by
  rw [read, String.toList_ofList]
  cases sign with
  | plus first rest => rfl
  | bare _ bare =>
    split
    · rfl
    · exact absurd rfl (bare _ _)
    · rename_i nonempty _
      rw [if_neg nonempty]

end SM83.Numeral
