import SM83.Numeral.Read
import SM83.Logging.Pattern.Cursor
import SM83.Logging.Pattern.Expr

/-!
Escape sequences: signs that stand for themselves, characters by number, classes and assertions.
-/

namespace SM83.Logging.Pattern.Reader

def isSign (char : Char) : Bool :=
  char ∈ ['\\', '.', '+', '*', '?', '(', ')', '|', '[', ']', '\x7b', '\x7d', '^', '$', '#', '&',
    '-', '~']

/-- A character that stands for itself behind a backslash: every one below 128 but letters, digits
and angles. -/
def isEscapable (char : Char) : Bool :=
  isSign char || (char.toNat < 128 && !char.isAlphanum && char != '<' && char != '>')

def isHex (char : Char) : Bool := (Numeral.digit? 16 char).isSome

def valueOf (radix : Nat) (digits : List Char) : Nat :=
  digits.foldl (fun value digit => radix * value + (Numeral.digit? radix digit).getD 0) 0

def charOf? (digits : List Char) : Option Char :=
  let code := valueOf 16 digits
  if code.isValidChar then some (Char.ofNat code) else none

def readHexDigits : Nat → Reader (List Char)
  | 0 => return []
  | count + 1 => do
    match ← peek with
    | none => fail .escapeUnfinished (← point)
    | some char =>
      unless isHex char do fail .hexDigit (← charSpan)
      advanceSkipping
      return char :: (← readHexDigits count)

def readFixedHex (count : Nat) : Reader Char := do
  let first ← here
  let digits ← readHexDigits count
  match charOf? digits with
  | none => fail .hexNoCharacter (← spanFrom first)
  | some char => return char

def readBracedHex : Reader Char := do
  let brace ← here
  advance
  let first ← here
  skip
  let digits ← collect advanceSkipping isHex
  match ← peek with
  | none => fail .escapeUnfinished (← spanFrom brace)
  | some '\x7d' =>
    let last ← here
    advanceSkipping
    if digits.isEmpty then fail .hexEmpty (← spanFrom brace)
    match charOf? digits with
    | none => fail .hexNoCharacter ⟨first, last⟩
    | some char => return char
  | some _ => fail .hexDigit (← charSpan)

/-- Reads a character by number; `kind` is the letter before the number. -/
def readHex (start : Position) (kind : Char) : Reader Atom := do
  advanceSkipping
  match ← peek with
  | none => fail .escapeUnfinished (← point)
  | some '\x7b' =>
    let char ← readBracedHex
    return .literal ⟨← spanFrom start, char, false⟩
  | some _ =>
    let count := if kind = 'x' then 2 else if kind = 'u' then 4 else 8
    let char ← readFixedHex count
    return .literal ⟨← spanFrom start, char, kind == 'x'⟩

/-- A text at the first place where it holds a sign, without the sign. -/
def splitAt? (sign : List Char) : List Char → Option (List Char × List Char)
  | [] => none
  | char :: rest =>
    if sign.isPrefixOf (char :: rest) then some ([], (char :: rest).drop sign.length)
    else (splitAt? sign rest).map fun (before, behind) => (char :: before, behind)

def propertyOf (chars : List Char) : Property :=
  match (splitAt? ['!', '='] chars).or ((splitAt? [':'] chars).or (splitAt? ['='] chars)) with
  | some (name, value) => .ofValue (String.ofList name) (String.ofList value)
  | none => .ofName (String.ofList chars)

def readProperty (start : Position) (negated : Bool) : Reader Atom := do
  advanceSkipping
  match ← peek with
  | none => fail .escapeUnfinished (← point)
  | some '\x7b' =>
    advanceSkipping
    let chars ← collect advanceSkipping (· != '\x7d')
    if ← atEnd then fail .escapeUnfinished (← point)
    advance
    return .property (← spanFrom start) (propertyOf chars) negated
  | some '\\' => fail .propertyCharacter (← charSpan)
  | some char =>
    advanceSkipping
    return .property (← spanFrom start) (.ofName (String.singleton char)) negated

def isBoundaryChar (char : Char) : Bool := char.isAlpha || char == '-'

def wordEdgeOfName? : String → Option WordEdge
  | "start" => some .start
  | "end" => some .finish
  | "start-half" => some .startHalf
  | "end-half" => some .finishHalf
  | _ => none

/-- Reads what may follow a word boundary in braces. What cannot be a name is left, since it may be
a count. -/
def readBoundary (start : Position) : Reader WordEdge := do
  let before ← get
  advanceSkipping
  let first ← here
  match ← peek with
  | none => fail .wordBoundaryUnfinished (← spanFrom start)
  | some char =>
    unless isBoundaryChar char do
      set before
      return .boundary
    let chars ← collect advanceSkipping isBoundaryChar
    unless (← peek) == some '\x7d' do fail .wordBoundaryUnclosed (← spanFrom before.position)
    let last ← here
    advance
    match wordEdgeOfName? (String.ofList chars) with
    | some edge => return edge
    | none => fail .wordBoundaryUnknown ⟨first, last⟩

def control? : Char → Option Char
  | 'a' => some '\x07'
  | 'f' => some '\x0c'
  | 't' => some '\t'
  | 'n' => some '\n'
  | 'r' => some '\r'
  | 'v' => some '\x0b'
  | _ => none

def assertion? : Char → Option Assertion
  | 'A' => some .textStart
  | 'z' => some .textEnd
  | 'B' => some (.word .noBoundary)
  | '<' => some (.word .start)
  | '>' => some (.word .finish)
  | _ => none

/-- The classes with a shorthand; capital letters stand for the complements. -/
def shorthand? : Char → Option (Shorthand × Bool)
  | 'd' => some (.digit, false)
  | 'D' => some (.digit, true)
  | 's' => some (.space, false)
  | 'S' => some (.space, true)
  | 'w' => some (.word, false)
  | 'W' => some (.word, true)
  | _ => none

def readEscape : Reader Atom := do
  let start ← here
  advance
  match ← peek with
  | none => fail .escapeUnfinished (← spanFrom start)
  | some char =>
    if char.isDigit then
      advance
      fail .backreference (← spanFrom start)
    else if char ∈ ['x', 'u', 'U'] then readHex start char
    else if char ∈ ['p', 'P'] then readProperty start (char == 'P')
    else
      advance
      let span ← spanFrom start
      if isEscapable char then return .literal ⟨span, char, false⟩
      else if let some (kind, negated) := shorthand? char then return .shorthand span kind negated
      else if let some control := control? char then return .literal ⟨span, control, false⟩
      else if let some kind := assertion? char then return .assertion span kind
      else if char = 'b' then
        if (← peek) == some '\x7b' then
          let edge ← readBoundary start
          return .assertion (← spanFrom start) (.word edge)
        else return .assertion span (.word .boundary)
      else fail .escapeUnknown span

def readAtom (char : Char) : Reader Atom := do
  let span ← charSpan
  match char with
  | '\\' => readEscape
  | '.' => advance; return .dot span
  | '^' => advance; return .assertion span .lineStart
  | '$' => advance; return .assertion span .lineEnd
  | char => advance; return .literal ⟨span, char, false⟩

end SM83.Logging.Pattern.Reader
