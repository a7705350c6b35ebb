import SM83.Logging.Pattern.Group
import SM83.Logging.Pattern.Meaning
import SM83.Logging.Pattern.Regex.Size

/-!
Patterns read from text. The groups that are open wait below the one at hand; each holds the
branches that are closed and the parts of the branch being read.
-/

namespace SM83.Logging.Pattern

/-- A group, or the whole pattern, as far as it is read: the closed branches and the parts of the
branch at hand, both last first. -/
structure Level where
  first : Position
  branches : List Expr
  start : Position
  parts : List Expr

namespace Level

def ofStart (position : Position) : Level := ⟨position, [], position, []⟩

def push (level : Level) (part : Expr) : Level := { level with parts := part :: level.parts }

def branch (level : Level) (last : Position) : Expr :=
  match level.parts with
  | [] => .empty ⟨level.start, last⟩
  | [part] => part
  | parts => .sequence ⟨level.start, last⟩ parts.reverse

def alternate (level : Level) (last next : Position) : Level :=
  { level with branches := level.branch last :: level.branches, start := next, parts := [] }

def close (level : Level) (last : Position) : Expr :=
  if level.branches.isEmpty then level.branch last
  else .alternation ⟨level.first, last⟩ (level.branch last :: level.branches).reverse

end Level

structure OpenGroup where
  outer : Level
  paren : Span
  number : Option Nat
  items : List FlagItem
  verbose : Bool

structure Reading where
  level : Level
  groups : List OpenGroup
  names : List (String × Span)
  kept : Nat

namespace Reader

def setVerbose (items : List FlagItem) : Reader Unit :=
  modify fun cursor =>
    { cursor with verbose := (FlagItem.state? .verbose true items).getD cursor.verbose }

/-- Keeps the name of a group; no two groups share one. -/
def addName (names : List (String × Span)) : Option (String × Span) →
    Reader (List (String × Span))
  | none => return names
  | some (name, span) =>
    match names.find? (·.1 == name) with
    | some (_, earlier) => conflict .groupNameTwice span earlier
    | none => return (name, span) :: names

def openGroup (reading : Reading) : Reader Reading := do
  match ← readOpening with
  | .flags span items =>
    setVerbose items
    return { reading with level := reading.level.push (.flags span items) }
  | .group paren isKept name items =>
    let names ← addName reading.names name
    let verbose := (← get).verbose
    setVerbose items
    let kept := reading.kept + isKept.toNat
    let number := if isKept then some kept else none
    let group : OpenGroup := ⟨reading.level, paren, number, items, verbose⟩
    return ⟨.ofStart (← here), group :: reading.groups, names, kept⟩

def closeGroup (reading : Reading) : Reader Reading := do
  match reading.groups with
  | [] => fail .groupUnopened (← charSpan)
  | group :: groups =>
    modify fun cursor => { cursor with verbose := group.verbose }
    let body := reading.level.close (← here)
    advance
    let part := .group (← spanFrom group.paren.first) group.number group.items body
    return { reading with level := group.outer.push part, groups }

def alternate (reading : Reading) : Reader Reading := do
  let last ← here
  advance
  return { reading with level := reading.level.alternate last (← here) }

/-- Reads the sign of a repetition, which applies to the part before it. -/
def repeatLast (reading : Reading) (char : Char) : Reader Reading := do
  match reading.level.parts with
  | [] | .empty _ :: _ | .flags _ _ :: _ => fail .repetitionOfNothing (← point)
  | body :: parts =>
    let ⟨least, most, isLazy⟩ ← readQuantifier char
    let part := .repetition (← spanFrom body.span.first) least most isLazy body
    return { reading with level := { reading.level with parts := part :: parts } }

def finish (reading : Reading) : Reader Expr := do
  match reading.groups with
  | group :: _ => fail .groupUnclosed group.paren
  | [] => return reading.level.close (← here)

/-- Reads on. Every round passes a character. -/
def readFrom (reading : Reading) : Nat → Reader Expr
  | 0 => finish reading
  | fuel + 1 => do
    skip
    match ← peek with
    | none => finish reading
    | some '(' => readFrom (← openGroup reading) fuel
    | some ')' => readFrom (← closeGroup reading) fuel
    | some '|' => readFrom (← alternate reading) fuel
    | some '[' =>
      let part ← readBracketed
      readFrom { reading with level := reading.level.push part } fuel
    | some char =>
      if char ∈ ['?', '*', '+', '\x7b'] then readFrom (← repeatLast reading char) fuel
      else
        let part ← readAtom char
        readFrom { reading with level := reading.level.push (.atom part) } fuel

end Reader

namespace Expr

def read (pattern : String) : Except Fault Expr := do
  let reading : Reading := ⟨.ofStart .start, [], [], 0⟩
  let (expr, _) ← Reader.readFrom reading (pattern.length + 1) (.ofPattern pattern)
  expr.checkDepth 0
  return expr

end Expr

namespace Regex

/-- Reads a pattern as a regular expression that can be searched for: of bounded size in either
direction, and without words beyond the first 128 characters. Words are looked at when the size
forward is known. -/
def read (pattern : String) : Except Fault Regex := do
  let expr ← Expr.read pattern
  let (regex, _) ← expr.meaning {}
  if regex.automatonSize .forward > sizeLimit then .error (.tooLarge sizeLimit)
  else if regex.asksWords then .error .wordsUnknown
  else if regex.automatonSize .backward > sizeLimit then .error (.tooLarge sizeLimit)
  else .ok regex

end Regex

end SM83.Logging.Pattern
