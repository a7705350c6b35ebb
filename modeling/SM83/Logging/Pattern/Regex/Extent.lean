import SM83.Logging.Pattern.Regex

/-!
What is known of the matches of an expression without a text: how short they are, and whether they
begin or end where the text does.
-/

namespace SM83.Logging.Pattern

/-- What is known of all matches: the fewest characters, unless there is no match, and whether they
start only where the text does and end only where the text does. -/
structure Extent where
  least : Option Nat
  isEmpty : Bool
  fromStart : Bool
  toEnd : Bool

namespace Extent

def empty : Extent := ⟨some 0, true, false, false⟩

def chars (count : Nat) : Extent := ⟨some count, count == 0, false, false⟩

def append (first second : Extent) : Extent where
  least := first.least.bind fun count => second.least.map (count + ·)
  isEmpty := first.isEmpty && second.isEmpty
  fromStart := first.fromStart || (first.isEmpty && second.fromStart)
  toEnd := second.toEnd || (second.isEmpty && first.toEnd)

def orElse (first second : Extent) : Extent where
  least := first.least.bind fun count => second.least.map (min count ·)
  isEmpty := first.isEmpty && second.isEmpty
  fromStart := first.fromStart && second.fromStart
  toEnd := first.toEnd && second.toEnd

def times (least : Nat) (extent : Extent) : Extent where
  least := extent.least.map (least * ·)
  isEmpty := extent.isEmpty
  fromStart := least > 0 && extent.fromStart
  toEnd := least > 0 && extent.toEnd

/-- A match is known to hold a character. -/
def isNonempty (extent : Extent) : Bool := extent.least.any (· > 0)

end Extent

namespace Regex

mutual

def extent : Regex → Extent
  | empty => .empty
  | literal chars => .chars chars.length
  | oneOf _ set => if set = .empty then ⟨none, false, false, false⟩ else .chars 1
  | look question => { Extent.empty with
      fromStart := question == .textStart
      toEnd := question == .textEnd }
  | capture _ body => body.extent
  | repeated least _ _ body => body.extent.times least
  | sequence parts => sequenceExtent parts
  | either [] => ⟨none, false, false, false⟩
  | either (first :: rest) => eitherExtent first.extent rest

def sequenceExtent : List Regex → Extent
  | [] => .empty
  | part :: rest => part.extent.append (sequenceExtent rest)

def eitherExtent (first : Extent) : List Regex → Extent
  | [] => first
  | branch :: rest => eitherExtent (first.orElse branch.extent) rest

end

end Regex

end SM83.Logging.Pattern
