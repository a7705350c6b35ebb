import SM83.Logging.Pattern.Fault

/-!
Patterns as they are written: expressions, each with the stretch of text it was read from.
-/

namespace SM83.Logging.Pattern

structure Literal where
  span : Span
  char : Char
  /-- Written by exactly two hexadecimal digits, which is also how a byte is written. -/
  isByte : Bool

inductive WordEdge where
  | boundary | noBoundary | start | finish | startHalf | finishHalf
deriving DecidableEq

inductive Assertion where
  | lineStart | lineEnd | textStart | textEnd
  | word (edge : WordEdge)
deriving DecidableEq

inductive Shorthand where
  | digit | space | word
deriving DecidableEq

inductive NamedClass where
  | alnum | alpha | ascii | blank | cntrl | digit | graph | lower | print | punct | space | upper
  | word | xdigit
deriving DecidableEq

namespace NamedClass

def ofName? : String → Option NamedClass
  | "alnum" => some alnum
  | "alpha" => some alpha
  | "ascii" => some ascii
  | "blank" => some blank
  | "cntrl" => some cntrl
  | "digit" => some digit
  | "graph" => some graph
  | "lower" => some lower
  | "print" => some print
  | "punct" => some punct
  | "space" => some space
  | "upper" => some upper
  | "word" => some word
  | "xdigit" => some xdigit
  | _ => none

end NamedClass

inductive Property where
  | ofName (name : String)
  | ofValue (name value : String)

/-- What one escape sequence or one character stands for. -/
inductive Atom where
  | literal (source : Literal)
  | dot (span : Span)
  | assertion (span : Span) (kind : Assertion)
  | shorthand (span : Span) (kind : Shorthand) (negated : Bool)
  | property (span : Span) (asked : Property) (negated : Bool)

def Atom.span : Atom → Span
  | .literal source => source.span
  | .dot span | .assertion span _ | .shorthand span _ _ | .property span _ _ => span

inductive SetOperation where
  | intersection | difference | symmetricDifference
deriving DecidableEq

inductive SetExpr where
  | empty (span : Span)
  | literal (source : Literal)
  | range (span : Span) (first last : Literal)
  | named (span : Span) (kind : NamedClass) (negated : Bool)
  | shorthand (span : Span) (kind : Shorthand) (negated : Bool)
  | property (span : Span) (asked : Property) (negated : Bool)
  | bracketed (span : Span) (negated : Bool) (inner : SetExpr)
  | union (span : Span) (items : List SetExpr)
  | combined (span : Span) (operation : SetOperation) (left right : SetExpr)

def SetExpr.span : SetExpr → Span
  | .literal source => source.span
  | .empty span | .range span _ _ | .named span _ _ | .shorthand span _ _ | .property span _ _
  | .bracketed span _ _ | .union span _ | .combined span _ _ _ => span

inductive Flag where
  | caseInsensitive | multiLine | dotAll | swapGreed | unicode | crlf | verbose
deriving DecidableEq

namespace Flag

def ofChar? : Char → Option Flag
  | 'i' => some caseInsensitive
  | 'm' => some multiLine
  | 's' => some dotAll
  | 'U' => some swapGreed
  | 'u' => some unicode
  | 'R' => some crlf
  | 'x' => some verbose
  | _ => none

end Flag

/-- One character of a list of flags: a flag, or the sign behind which flags are switched off. -/
structure FlagItem where
  span : Span
  flag : Option Flag

/-- What a list of flags says about one of them. -/
def FlagItem.state? (flag : Flag) (on : Bool) : List FlagItem → Option Bool
  | [] => none
  | item :: rest =>
    match item.flag with
    | none => state? flag false rest
    | some other => if other = flag then some on else state? flag on rest

inductive Expr where
  | empty (span : Span)
  | atom (part : Atom)
  | flags (span : Span) (items : List FlagItem)
  | bracketed (span : Span) (negated : Bool) (inner : SetExpr)
  /-- So many times the body; a lazy repetition asks for short matches. -/
  | repetition (span : Span) (least : Nat) (most : Option Nat) (isLazy : Bool) (body : Expr)
  /-- A group, with its number if what it matches is kept. -/
  | group (span : Span) (number : Option Nat) (items : List FlagItem) (body : Expr)
  | alternation (span : Span) (branches : List Expr)
  | sequence (span : Span) (parts : List Expr)

def Expr.span : Expr → Span
  | .atom part => part.span
  | .empty span | .flags span _ | .bracketed span _ _ | .repetition span _ _ _ _
  | .group span _ _ _ | .alternation span _ | .sequence span _ => span

/-! Depth. -/

def depthLimit : Nat := 250

def enter (depth : Nat) (span : Span) : Except Fault Unit :=
  if depth < depthLimit then .ok ()
  else .error (.located (.tooDeep depthLimit) span none)

mutual

def SetExpr.checkDepth (depth : Nat) : SetExpr → Except Fault Unit
  | .empty _ | .literal _ | .range _ _ _ | .named _ _ _ | .shorthand _ _ _ | .property _ _ _ =>
    .ok ()
  | .bracketed span _ inner => do
    enter depth span
    inner.checkDepth (depth + 1)
  | .union span items => do
    enter depth span
    SetExpr.checkDepths (depth + 1) items
  | .combined span _ left right => do
    enter depth span
    left.checkDepth (depth + 1)
    right.checkDepth (depth + 1)

def SetExpr.checkDepths (depth : Nat) : List SetExpr → Except Fault Unit
  | [] => .ok ()
  | item :: rest => do
    item.checkDepth depth
    SetExpr.checkDepths depth rest

end

mutual

def Expr.checkDepth (depth : Nat) : Expr → Except Fault Unit
  | .empty _ | .atom _ | .flags _ _ => .ok ()
  | .bracketed span _ inner => do
    enter depth span
    inner.checkDepth (depth + 1)
  | .repetition span _ _ _ body | .group span _ _ body => do
    enter depth span
    body.checkDepth (depth + 1)
  | .alternation span parts | .sequence span parts => do
    enter depth span
    Expr.checkDepths (depth + 1) parts

def Expr.checkDepths (depth : Nat) : List Expr → Except Fault Unit
  | [] => .ok ()
  | part :: rest => do
    part.checkDepth depth
    Expr.checkDepths depth rest

end

end SM83.Logging.Pattern
