import SM83.Logging.Pattern.Fault

/-!
Reading a pattern from its front. In a verbose pattern blanks and comments may stand between the
parts; a comment runs from its sign through the end of the line.
-/

namespace SM83.Logging.Pattern

/-- What is left of a pattern. -/
structure Cursor where
  rest : List Char
  position : Position
  verbose : Bool
  /-- No more characters than this are left. -/
  bound : Nat

abbrev Reader := StateT Cursor (Except Fault)

namespace Cursor

def ofPattern (pattern : String) : Cursor := ⟨pattern.toList, .start, false, pattern.length⟩

def advance (cursor : Cursor) : Cursor :=
  match cursor.rest with
  | [] => cursor
  | char :: rest => { cursor with rest, position := cursor.position.next char }

def drop : Nat → Cursor → Cursor
  | 0, cursor => cursor
  | count + 1, cursor => drop count cursor.advance

/-- Passes blanks and comments: what is left behind them, and where it stands. -/
def skipFrom (inComment : Bool) (position : Position) : List Char → List Char × Position
  | [] => ([], position)
  | char :: rest =>
    if inComment then skipFrom (char != '\n') (position.next char) rest
    else if Text.isBlank char then skipFrom false (position.next char) rest
    else if char = '#' then skipFrom true (position.next char) rest
    else (char :: rest, position)

def skip (cursor : Cursor) : Cursor :=
  if cursor.verbose then
    let (rest, position) := skipFrom false cursor.position cursor.rest
    { cursor with rest, position }
  else cursor

/-- The character behind the next, in a verbose pattern the first that is neither a blank nor the
sign of a comment; what a comment says counts. -/
def second? (cursor : Cursor) : Option Char :=
  let behind := cursor.rest.drop 1
  if !cursor.verbose then behind.head?
  else
    let counted := match behind.dropWhile Text.isBlank with
      | '#' :: comment => comment.dropWhile Text.isBlank
      | counted => counted
    counted.head?.or behind.head?

end Cursor

namespace Reader

def fail {α : Type} (cause : Cause) (span : Span) : Reader α :=
  throw (.located cause span none)

def conflict {α : Type} (cause : Cause) (span earlier : Span) : Reader α :=
  throw (.located cause span (some earlier))

def here : Reader Position := do return (← get).position

def peek : Reader (Option Char) := do return (← get).rest.head?

def atEnd : Reader Bool := do return (← get).rest.isEmpty

def advance : Reader Unit := modify .advance

def skip : Reader Unit := modify .skip

def advanceSkipping : Reader Unit := modify fun cursor => cursor.advance.skip

def spanFrom (first : Position) : Reader Span := do return ⟨first, ← here⟩

def point : Reader Span := do return .point (← here)

def charSpan : Reader Span := do
  let cursor ← get
  return ⟨cursor.position, cursor.advance.position⟩

def takeText (text : String) : Reader Bool := do
  if text.toList.isPrefixOf (← get).rest then
    modify (.drop text.length)
    return true
  else
    return false

/-- Takes the next characters as long as they are accepted, each passed by `pass`; `before` is taken
already, last first. -/
def collectUpTo (pass : Reader Unit) (accepts : Char → Bool) (before : List Char) :
    Nat → Reader (List Char)
  | 0 => return before.reverse
  | fuel + 1 => do
    match ← peek with
    | none => return before.reverse
    | some char =>
      if accepts char then
        pass
        collectUpTo pass accepts (char :: before) fuel
      else
        return before.reverse

/-- Takes the next characters as long as they are accepted. There are no more than are left. -/
def collect (pass : Reader Unit) (accepts : Char → Bool) : Reader (List Char) := do
  collectUpTo pass accepts [] (← get).bound

end Reader

end SM83.Logging.Pattern
