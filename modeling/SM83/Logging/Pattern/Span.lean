/-!
Places in the text of a pattern, for messages about it.
-/

namespace SM83.Logging.Pattern

/-- A place between two characters, its line and column counted from one. -/
structure Position where
  line : Nat
  column : Nat
deriving DecidableEq

namespace Position

def start : Position := ⟨1, 1⟩

def next (position : Position) (char : Char) : Position :=
  if char = '\n' then ⟨position.line + 1, 1⟩ else ⟨position.line, position.column + 1⟩

def precedes (first second : Position) : Bool :=
  first.line < second.line || (first.line == second.line && first.column < second.column)

end Position

structure Span where
  first : Position
  last : Position
deriving DecidableEq

namespace Span

def point (position : Position) : Span := ⟨position, position⟩

def isOneLine (span : Span) : Bool := span.first.line == span.last.line

/-- Stretches in the order of their first places, then of their last. -/
def precedes (first second : Span) : Bool :=
  first.first.precedes second.first ||
    (first.first == second.first && first.last.precedes second.last)

end Span

end SM83.Logging.Pattern
