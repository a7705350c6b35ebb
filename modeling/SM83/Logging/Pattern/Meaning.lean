import SM83.Logging.Pattern.Regex.Build

/-!
What an expression means: the regular expression that it stands for, given the flags in force. Flags
that stand alone hold through the end of their group, also in its later branches.

Characters beyond the first 128 are matched, but no table of their cases, properties and words is at
hand. What needs such a table is refused, unless the flag for bytes confines it to the first 128.
-/

namespace SM83.Logging.Pattern

structure Mode where
  caseInsensitive : Bool := false
  multiLine : Bool := false
  dotAll : Bool := false
  /-- Repetitions are lazy, and those written as lazy are not. -/
  swapGreed : Bool := false
  /-- Characters are matched; bytes, if switched off. -/
  unicode : Bool := true
  crlf : Bool := false

namespace Mode

def set (mode : Mode) (on : Bool) : Flag → Mode
  | .caseInsensitive => { mode with caseInsensitive := on }
  | .multiLine => { mode with multiLine := on }
  | .dotAll => { mode with dotAll := on }
  | .unicode => { mode with unicode := on }
  | .crlf => { mode with crlf := on }
  | .swapGreed => { mode with swapGreed := on }
  | .verbose => mode

def switch (on : Bool) (mode : Mode) : List FlagItem → Mode
  | [] => mode
  | item :: rest =>
    match item.flag with
    | none => mode.switch false rest
    | some flag => (mode.set on flag).switch on rest

end Mode

def refuse {α : Type} (cause : Cause) (span : Span) : Except Fault α :=
  .error (.located cause span none)

/-! Sets. -/

structure Members where
  set : CharSet
  /-- The set is known to hold, with each letter, its other case. -/
  caseClosed : Bool

namespace Members

def none : Members := ⟨.empty, true⟩

def ofSet (set : CharSet) : Members := ⟨set, false⟩

def union (first second : Members) : Members :=
  ⟨first.set.union second.set, first.caseClosed && second.caseClosed⟩

def combine (operation : SetOperation) (first second : Members) : Members :=
  ⟨first.set.combine operation.apply second.set, first.caseClosed && second.caseClosed⟩

def negateIf (negated : Bool) (members : Members) : Members :=
  if negated then { members with set := members.set.complement } else members

def closeCase (mode : Mode) (span : Span) (members : Members) : Except Fault Members :=
  if !mode.caseInsensitive || members.caseClosed then .ok members
  else if mode.unicode then refuse .caseUnavailable span
  else .ok ⟨members.set.closeCase, true⟩

/-- A set of bytes holds those of texts alone, which are below 128. -/
def confine (mode : Mode) (span : Span) (members : Members) : Except Fault Members :=
  if mode.unicode || members.set.isAscii then .ok members else refuse .notForText span

/-- What stands between brackets: case first, then the negation. -/
def settle (mode : Mode) (span : Span) (negated : Bool) (members : Members) :
    Except Fault Members := do
  confine mode span (negateIf negated (← closeCase mode span members))

end Members

namespace Literal

def value (mode : Mode) (literal : Literal) : Except Fault Char :=
  if !mode.unicode && literal.isByte && literal.char.toNat > 0x7F then
    refuse .notForText literal.span
  else .ok literal.char

def member (mode : Mode) (literal : Literal) : Except Fault Char := do
  let char ← literal.value mode
  if !mode.unicode && char.toNat > 0x7F then refuse .notForBytes literal.span else .ok char

end Literal

def Shorthand.meaning (mode : Mode) (span : Span) (kind : Shorthand) (negated : Bool) :
    Except Fault Members :=
  if mode.unicode then refuse .shorthandUnavailable span
  else Members.confine mode span (.negateIf negated (.ofSet kind.set))

namespace Property

def canonical (name : String) : String :=
  let chars := match name.toList with
    | first :: second :: rest =>
      if first.toLower = 'i' ∧ second.toLower = 's' then rest else name.toList
    | chars => chars
  String.ofList ((chars.filter fun char => char.toNat < 128 && char ∉ [' ', '_', '-']).map
    Char.toLower)

/-- Why a property has no table: the three names that are those of a value too are looked up as
values first. -/
def unavailable : Property → Cause
  | ofName name =>
    if canonical name ∈ ["cf", "sc", "lc"] then .propertyValueUnknown else .propertyUnknown
  | ofValue _ _ => .propertyUnknown

def meaning (mode : Mode) (span : Span) (property : Property) : Except Fault Members :=
  refuse (if mode.unicode then property.unavailable else .notForBytes) span

end Property

mutual

def SetExpr.meaning (mode : Mode) : SetExpr → Except Fault Members
  | .empty _ => .ok .none
  | .literal source => do
    let char ← source.member mode
    return .ofSet (.range char char)
  | .range _ first last => do
    let first ← first.member mode
    let last ← last.member mode
    return .ofSet (.range first last)
  | .named span kind negated => Members.settle mode span negated (.ofSet kind.set)
  | .shorthand span kind negated => kind.meaning mode span negated
  | .property span asked _ => asked.meaning mode span
  | .bracketed span negated inner => do Members.settle mode span negated (← inner.meaning mode)
  | .union _ items => SetExpr.meanings mode items
  | .combined _ operation left right => do
    let first ← left.meaning mode
    let second ← right.meaning mode
    let second ← second.closeCase mode right.span
    let first ← first.closeCase mode left.span
    return .combine operation first second

def SetExpr.meanings (mode : Mode) : List SetExpr → Except Fault Members
  | [] => .ok .none
  | item :: rest => do
    let members ← item.meaning mode
    return members.union (← SetExpr.meanings mode rest)

end

/-! Expressions. -/

def Assertion.look (mode : Mode) : Assertion → Look
  | .textStart => .textStart
  | .textEnd => .textEnd
  | .lineStart => if mode.multiLine then .lineStart mode.crlf else .textStart
  | .lineEnd => if mode.multiLine then .lineEnd mode.crlf else .textEnd
  | .word edge => .word edge mode.unicode

/-- A character as an expression, in either case if case does not count. -/
def Literal.meaning (mode : Mode) (literal : Literal) : Except Fault Regex := do
  let char ← literal.value mode
  if !mode.caseInsensitive then return .literal [char]
  else if mode.unicode then refuse .caseUnavailable literal.span
  else return .ofSet true (CharSet.range char char).closeCase

def Members.meaning (mode : Mode) (members : Members) : Regex :=
  .ofSet (!mode.unicode) members.set

def Atom.meaning (mode : Mode) : Atom → Except Fault Regex
  | .literal source => source.meaning mode
  | .dot span =>
    if !mode.unicode then refuse .notForText span
    else
      let ends := if mode.dotAll then [] else if mode.crlf then ['\n', '\r'] else ['\n']
      .ok (.ofSet false (CharSet.ofList ends).complement)
  | .assertion _ kind => .ok (.look (kind.look mode))
  | .shorthand span kind negated => do
    return (← kind.meaning mode span negated).meaning mode
  | .property span asked _ => do return (← asked.meaning mode span).meaning mode

mutual

/-- What an expression stands for, and the flags in force behind it. -/
def Expr.meaning (mode : Mode) : Expr → Except Fault (Regex × Mode)
  | .empty _ => .ok (.empty, mode)
  | .atom part => do return (← part.meaning mode, mode)
  | .flags _ items => .ok (.empty, mode.switch true items)
  | .bracketed span negated inner => do
    return ((← Members.settle mode span negated (← inner.meaning mode)).meaning mode, mode)
  | .repetition _ least most isLazy body => do
    let (body, after) ← body.meaning mode
    return (.repeatedOf least most (isLazy == after.swapGreed) body, after)
  | .group _ number items body => do
    let (body, _) ← body.meaning (mode.switch true items)
    return (number.elim body (.capture · body), mode)
  | .alternation _ branches => do
    let (branches, after) ← Expr.meanings mode [] branches
    return (.eitherOf branches, after)
  | .sequence _ parts => do
    let (parts, after) ← Expr.meanings mode [] parts
    return (.sequenceOf parts, after)

/-- What expressions stand for one after the other; `done` is what those before stand for, last
first. -/
def Expr.meanings (mode : Mode) (done : List Regex) :
    List Expr → Except Fault (List Regex × Mode)
  | [] => .ok (done.reverse, mode)
  | part :: rest => do
    let (meaning, mode) ← part.meaning mode
    Expr.meanings mode (meaning :: done) rest

end

end SM83.Logging.Pattern
