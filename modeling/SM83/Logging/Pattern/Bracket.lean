import SM83.Logging.Pattern.Escape

/-!
Sets between brackets. A set that is open is kept with what has been read of it; the sets around it
wait below.
-/

namespace SM83.Logging.Pattern

/-- The items of a set that stand side by side, last first. -/
structure Union where
  span : Span
  items : List SetExpr

namespace Union

def start (position : Position) : Union := ⟨.point position, []⟩

def push (union : Union) (item : SetExpr) : Union :=
  let first := if union.items.isEmpty then item.span.first else union.span.first
  ⟨⟨first, item.span.last⟩, item :: union.items⟩

def close (union : Union) : SetExpr :=
  match union.items with
  | [] => .empty union.span
  | [item] => item
  | items => .union union.span items.reverse

end Union

/-- A set whose bracket is not closed yet. -/
structure OpenSet where
  opening : Span
  negated : Bool
  pending : Option (SetOperation × SetExpr)
  union : Union

namespace OpenSet

def push (set : OpenSet) (item : SetExpr) : OpenSet :=
  { set with union := set.union.push item }

/-- What has been read, as one set. Operations are taken from the left. -/
def inner (set : OpenSet) : SetExpr :=
  let right := set.union.close
  match set.pending with
  | none => right
  | some (operation, left) =>
    .combined ⟨left.span.first, right.span.last⟩ operation left right

def operate (set : OpenSet) (operation : SetOperation) (position : Position) : OpenSet :=
  { set with pending := some (operation, set.inner), union := .start position }

end OpenSet

namespace Reader

def readHyphens (start : Position) : Nat → Union → Reader Union
  | 0, union => return union
  | fuel + 1, union => do
    if (← peek) == some '-' then
      let union := union.push (.literal ⟨← charSpan, '-', false⟩)
      advanceSkipping
      if ← atEnd then fail .bracketUnclosed (.point start)
      readHyphens start fuel union
    else
      return union

/-- Reads an opening bracket: a negation, hyphens, and a closing bracket that comes first, belong to
it. -/
def openSet : Reader OpenSet := do
  let start ← here
  advanceSkipping
  if ← atEnd then fail .bracketUnclosed (← spanFrom start)
  let negated := (← peek) == some '^'
  if negated then
    advanceSkipping
    if ← atEnd then fail .bracketUnclosed (← spanFrom start)
  let union ← readHyphens start (← get).bound (.start (← here))
  if union.items.isEmpty && (← peek) == some ']' then
    let union := union.push (.literal ⟨← charSpan, ']', false⟩)
    advanceSkipping
    if ← atEnd then fail .bracketUnclosed (← spanFrom start)
    return ⟨← spanFrom start, negated, none, union⟩
  else
    return ⟨← spanFrom start, negated, none, union⟩

def namedClass? (chars : List Char) : Option (NamedClass × Bool × Nat) :=
  match chars with
  | '[' :: ':' :: rest =>
    let (negated, rest) := match rest with
      | '^' :: rest => (true, rest)
      | rest => (false, rest)
    let name := rest.takeWhile (· != ':')
    if [':', ']'].isPrefixOf (rest.drop name.length) then
      (NamedClass.ofName? (String.ofList name)).map fun kind =>
        (kind, negated, name.length + if negated then 5 else 4)
    else none
  | _ => none

def takeNamedClass : Reader (Option SetExpr) := do
  let start ← here
  match namedClass? (← get).rest with
  | none => return none
  | some (kind, negated, length) =>
    modify (.drop length)
    return some (.named (← spanFrom start) kind negated)

def readMember (char : Char) : Reader Atom := do
  if char = '\\' then readEscape
  else
    let span ← charSpan
    advance
    return .literal ⟨span, char, false⟩

def itemOf : Atom → Reader SetExpr
  | .literal source => return .literal source
  | .shorthand span kind negated => return .shorthand span kind negated
  | .property span asked negated => return .property span asked negated
  | other => fail .bracketEscape other.span

def boundOf : Atom → Reader Literal
  | .literal source => return source
  | other => fail .rangeBoundary other.span

/-- Reads a member of a set or a range of members. A hyphen before a closing bracket or before
another hyphen makes no range. -/
def readItem (opening : Span) (char : Char) : Reader SetExpr := do
  let first ← readMember char
  skip
  if ← atEnd then fail .bracketUnclosed opening
  let second? := (← get).second?
  if (← peek) != some '-' || second? == some ']' || second? == some '-' then
    itemOf first
  else
    advanceSkipping
    match ← peek with
    | none => fail .bracketUnclosed opening
    | some char =>
      let last ← readMember char
      let span := ⟨first.span.first, last.span.last⟩
      let first ← boundOf first
      let last ← boundOf last
      if last.char < first.char then fail .rangeReversed span
      return .range span first last

def operation? : List Char → Option SetOperation
  | '&' :: '&' :: _ => some .intersection
  | '-' :: '-' :: _ => some .difference
  | '~' :: '~' :: _ => some .symmetricDifference
  | _ => none

/-- Reads on in a set that is open within others, the innermost of those first. Every round passes a
character. -/
def readSet (set : OpenSet) (outer : List OpenSet) : Nat → Reader Expr
  | 0 => fail .bracketUnclosed set.opening
  | fuel + 1 => do
    skip
    match ← peek with
    | none => fail .bracketUnclosed set.opening
    | some '[' =>
      match ← takeNamedClass with
      | some item => readSet (set.push item) outer fuel
      | none => readSet (← openSet) (set :: outer) fuel
    | some ']' =>
      advance
      let span ← spanFrom set.opening.first
      match outer with
      | [] => return .bracketed span set.negated set.inner
      | next :: outer =>
        readSet (next.push (.bracketed span set.negated set.inner)) outer fuel
    | some char =>
      match operation? (← get).rest with
      | some operation =>
        modify (.drop 2)
        readSet (set.operate operation (← here)) outer fuel
      | none => readSet (set.push (← readItem set.opening char)) outer fuel

def readBracketed : Reader Expr := do
  readSet (← openSet) [] ((← get).bound + 1)

end Reader

end SM83.Logging.Pattern
