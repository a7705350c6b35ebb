import SM83.Proofs.Numeral.ReadBack

/-! The parts of a line of assembly text. Between its separators stand names and numerals, and the
characters of a part tell which of them it is and of which form. -/
namespace SM83.Assembly

inductive Term where
  | name (letters : String)
  | byte (value : UInt8)
  | word (value : UInt16)
  | byteCell (offset : UInt8)
  | wordCell (address : UInt16)
  | number (value : Int)
  | fromSP (offset : Int)

namespace Term

def text : Term → String
  | name letters => letters
  | byte value => "$" ++ Numeral.hexByte value
  | word value => "$" ++ Numeral.hexWord value
  | byteCell offset => "($" ++ Numeral.hexByte offset ++ ")"
  | wordCell address => "($" ++ Numeral.hexWord address ++ ")"
  | number value =>
    if value < 0 then "-" ++ Numeral.decimal value.natAbs else Numeral.decimal value.natAbs
  | fromSP offset =>
    if offset < 0 then "SP-" ++ Numeral.decimal offset.natAbs
    else "SP+" ++ Numeral.decimal offset.natAbs

@[simp] theorem text_name (letters : String) : (name letters).text = letters := rfl

theorem decimal_eq (value : Nat) : Numeral.decimal value = (number value).text := by
  have natural : ¬(value : Int) < 0 := by omega
  rw [text, if_neg natural]
  rfl

theorem signed_eq (offset : Int8) : Numeral.signed offset = (number offset.toInt).text := by
  unfold Numeral.signed text
  simp only [Int8.lt_iff_toInt_lt, Int8.toInt_zero]

theorem toList_explicitlySigned (offset : Int8) :
    'S' :: 'P' :: (Numeral.explicitlySigned offset).toList =
      (fromSP offset.toInt).text.toList := by
  unfold Numeral.explicitlySigned Numeral.signed text
  simp only [Int8.lt_iff_toInt_lt, Int8.toInt_zero]
  split <;> simp

/-- Two hexadecimal digits are those of a byte, and four are those of a word. -/
def ofHex (byte : UInt8 → Term) (word : UInt16 → Term) (digits : List Char) : Term :=
  let value := (Numeral.readDigits 16 0xFFFF 0 digits).toOption.getD 0
  if digits.length = 2 then byte value.toUInt8 else word value.toUInt16

def natural (digits : List Char) : Int :=
  Nat.ofDigitChars 10 digits 0

/-- Reads one part, whatever it holds. -/
def read : List Char → Term
  | '$' :: digits => ofHex byte word digits
  | '(' :: '$' :: rest => ofHex byteCell wordCell rest.dropLast
  | 'S' :: 'P' :: '+' :: digits => fromSP (natural digits)
  | 'S' :: 'P' :: '-' :: digits => fromSP (-natural digits)
  | '-' :: digits => number (-natural digits)
  | chars => if chars.all Char.isDigit then number (natural chars) else name (String.ofList chars)

/-- The part is read back from its text, and no separator stands in it. -/
structure Readable (term : Term) : Prop where
  back : read term.text.toList = term
  blank : ' ' ∉ term.text.toList
  comma : ',' ∉ term.text.toList

theorem ofHex_hexByte (byte : UInt8 → Term) (word : UInt16 → Term) (value : UInt8) :
    ofHex byte word (Numeral.hexByte value).toList = byte value := by
  have two : (Numeral.hexByte value).toList.length = 2 := by
    rw [Numeral.hexByte, String.toList_ofList, Numeral.length_hexDigits]
  rw [ofHex, Numeral.readDigits_hexByte, if_pos two]
  exact congrArg byte UInt8.ofNat_toNat

theorem ofHex_hexWord (byte : UInt8 → Term) (word : UInt16 → Term) (value : UInt16) :
    ofHex byte word (Numeral.hexWord value).toList = word value := by
  have four : (Numeral.hexWord value).toList.length = 4 := by
    rw [Numeral.hexWord, String.toList_ofList, Numeral.length_hexDigits]
  rw [ofHex, Numeral.readDigits_hexWord, if_neg (by omega)]
  exact congrArg word UInt16.ofNat_toNat

/-- Hexadecimal digits are no separators. -/
theorem not_mem_hexDigits {char : Char} (separator : char = ' ' ∨ char = ',') (width number : Nat) :
    char ∉ Numeral.hexDigits width number := by
  intro member
  obtain ⟨value, small, rfl⟩ := Numeral.mem_hexDigits member
  clear member
  revert value
  decide

theorem not_mem_hexByte {char : Char} (separator : char = ' ' ∨ char = ',') (value : UInt8) :
    char ∉ (Numeral.hexByte value).toList := by
  rw [Numeral.hexByte, String.toList_ofList]
  exact not_mem_hexDigits separator _ _

theorem not_mem_hexWord {char : Char} (separator : char = ' ' ∨ char = ',') (value : UInt16) :
    char ∉ (Numeral.hexWord value).toList := by
  rw [Numeral.hexWord, String.toList_ofList]
  exact not_mem_hexDigits separator _ _

theorem not_mem_decimal {char : Char} (other : char.isDigit = false) (value : Nat) :
    char ∉ (Numeral.decimal value).toList := by
  intro member
  rw [Numeral.isDigit_of_mem_decimal member] at other
  cases other

theorem readable_byte (value : UInt8) : (byte value).Readable := by
  constructor <;> simp [text, read, ofHex_hexByte, not_mem_hexByte]

theorem readable_word (value : UInt16) : (word value).Readable := by
  constructor <;> simp [text, read, ofHex_hexWord, not_mem_hexWord]

theorem readable_byteCell (offset : UInt8) : (byteCell offset).Readable := by
  constructor <;> simp [text, read, ofHex_hexByte, not_mem_hexByte]

theorem readable_wordCell (address : UInt16) : (wordCell address).Readable := by
  constructor <;> simp [text, read, ofHex_hexWord, not_mem_hexWord]

theorem natural_decimal (value : Nat) : natural (Numeral.decimal value).toList = value := by
  rw [natural, Numeral.ofDigitChars_decimal]

/-- A part that holds digits alone is the number they are the digits of. -/
theorem read_digits {chars : List Char} (digits : ∀ char ∈ chars, char.isDigit) :
    read chars = number (natural chars) := by
  have all : chars.all Char.isDigit := List.all_eq_true.mpr digits
  unfold read
  split
  case h_6 => exact if_pos all
  all_goals simp [Char.isDigit] at digits

theorem readable_number (value : Int) : (number value).Readable := by
  by_cases negative : value < 0
  · have magnitude : -(value.natAbs : Int) = value := by omega
    constructor <;> simp only [text, if_pos negative, String.toList_append]
    · change number (-natural (Numeral.decimal value.natAbs).toList) = number value
      rw [natural_decimal, magnitude]
    · simp [not_mem_decimal]
    · simp [not_mem_decimal]
  · have magnitude : (value.natAbs : Int) = value := by omega
    constructor <;> simp only [text, if_neg negative]
    · rw [read_digits fun char => Numeral.isDigit_of_mem_decimal, natural_decimal, magnitude]
    · exact not_mem_decimal (by decide) _
    · exact not_mem_decimal (by decide) _

theorem readable_fromSP (offset : Int) : (fromSP offset).Readable := by
  by_cases negative : offset < 0
  · have magnitude : -(offset.natAbs : Int) = offset := by omega
    constructor <;> simp only [text, if_pos negative, String.toList_append]
    · change fromSP (-natural (Numeral.decimal offset.natAbs).toList) = fromSP offset
      rw [natural_decimal, magnitude]
    · simp [not_mem_decimal]
    · simp [not_mem_decimal]
  · have magnitude : (offset.natAbs : Int) = offset := by omega
    constructor <;> simp only [text, if_neg negative, String.toList_append]
    · change fromSP (natural (Numeral.decimal offset.natAbs).toList) = fromSP offset
      rw [natural_decimal, magnitude]
    · simp [not_mem_decimal]
    · simp [not_mem_decimal]

end Term
end SM83.Assembly
