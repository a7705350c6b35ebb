import SM83.Logging.Pattern.Bracket
import SM83.Logging.Text.Letter
import SM83.Logging.Text.Numeral

/-!
Groups and their flags, and counts of repetition.
-/

namespace SM83.Logging.Pattern

/-- What an opening parenthesis, which stands at `span`, begins. The match of a group is not kept if
flags, or a colon alone, say so. -/
inductive Opening where
  | flags (span : Span) (items : List FlagItem)
  | group (span : Span) (isKept : Bool) (name : Option (String × Span)) (items : List FlagItem)

structure Quantifier where
  least : Nat
  most : Option Nat
  isLazy : Bool

namespace Reader

def readFlag (char : Char) : Reader (Option Flag) := do
  if char = '-' then return none
  match Flag.ofChar? char with
  | some flag => return some flag
  | none => fail .flagUnknown (← charSpan)

/-- Reads flags up to a colon or a closing parenthesis. None may be there twice, and a negation
negates something. -/
def readFlags (items : List FlagItem) : Nat → Reader (List FlagItem)
  | 0 => do fail .flagUnfinished (← point)
  | fuel + 1 => do
    match ← peek with
    | none => fail .flagUnfinished (← point)
    | some char =>
      if char = ':' || char = ')' then
        match items.getLast? with
        | some ⟨span, none⟩ => fail .flagNegationDangling span
        | _ => return items
      else
        let flag ← readFlag char
        let span ← charSpan
        match items.find? (·.flag == flag) with
        | some earlier =>
          conflict (if flag.isNone then .flagNegationTwice else .flagTwice) span earlier.span
        | none => pure ()
        advance
        readFlags (items ++ [⟨span, flag⟩]) fuel

def isNameStart (char : Char) : Bool := char == '_' || Text.isLetter char

def isNameChar (char : Char) : Bool :=
  char ∈ ['_', '.', '[', ']'] || Text.isLetter char || Text.isNumeral char

def readName : Reader (String × Span) := do
  let first ← here
  match ← peek with
  | none => fail .groupNameUnfinished (← point)
  | some '>' => fail .groupNameEmpty (.point first)
  | some char =>
    unless isNameStart char do fail .groupNameCharacter (← charSpan)
    let chars ← collect advance isNameChar
    let span ← spanFrom first
    match ← peek with
    | none => fail .groupNameUnfinished (← point)
    | some '>' =>
      advance
      return (String.ofList chars, span)
    | some _ => fail .groupNameCharacter (← charSpan)

def takeLookAround : Reader Bool := do
  if ← takeText "?=" then return true
  else if ← takeText "?!" then return true
  else if ← takeText "?<=" then return true
  else takeText "?<!"

def takeNameSign : Reader Bool := do
  if ← takeText "?P<" then return true else takeText "?<"

def readOpening : Reader Opening := do
  let start ← here
  let paren ← charSpan
  advance
  skip
  if ← takeLookAround then fail .lookAround (← spanFrom start)
  let inner ← point
  if ← takeNameSign then
    return .group paren true (some (← readName)) []
  else if ← takeText "?" then
    if ← atEnd then fail .groupUnclosed paren
    let items ← readFlags [] ((← get).bound + 1)
    let isGroup := (← peek) == some ':'
    advance
    if isGroup then return .group paren false none items
    else
      if items.isEmpty then fail .repetitionOfNothing inner
      return .flags (← spanFrom start) items
  else
    return .group paren true none []

/-! Counts. -/

def maxCount : Nat := UInt32.size - 1

/-- A count, or why there is none. -/
abbrev Count := Except Fault Nat

def readCount : Reader Count := do
  let _ ← collect advance Text.isBlank
  let first ← here
  let digits ← collect advanceSkipping Char.isDigit
  let span ← spanFrom first
  let _ ← collect advanceSkipping Text.isBlank
  let value := valueOf 10 digits
  if digits.isEmpty then return .error (.located .countMissing span none)
  else if value > maxCount then return .error (.located .decimalInvalid span none)
  else return .ok value

/-- Takes the question mark behind the sign of a repetition, which asks for short matches. -/
def takeLazy : Reader Bool := takeText "?"

def readCounts : Reader Quantifier := do
  let start ← here
  advanceSkipping
  if ← atEnd then fail .countUnclosed (← spanFrom start)
  let least ← readCount
  if ← atEnd then fail .countUnclosed (← spanFrom start)
  let counts ← do
    if (← peek) != some ',' then
      let count ← least
      pure (count, some count)
    else
      advanceSkipping
      if ← atEnd then fail .countUnclosed (← spanFrom start)
      if (← peek) != some '\x7d' then
        let least ← least
        let most ← (← readCount)
        pure (least, some most)
      else
        pure (← least, none)
  unless (← peek) == some '\x7d' do fail .countUnclosed (← spanFrom start)
  advanceSkipping
  let isLazy ← takeLazy
  let (least, most) := counts
  if most.any (· < least) then fail .countReversed (← spanFrom start)
  return ⟨least, most, isLazy⟩

def readQuantifier (char : Char) : Reader Quantifier := do
  if char = '\x7b' then readCounts
  else
    advance
    let isLazy ← takeLazy
    return ⟨if char = '+' then 1 else 0, if char = '?' then some 1 else none, isLazy⟩

end Reader

end SM83.Logging.Pattern
