import SM83.Logging.Pattern.Regex

/-!
The search for matches. A search asks only whether there is a match, so it takes all matches of an
expression at once: for each place of the text, the lengths of the matches that begin there, as the
bits of one number. From these lengths those of sequences, choices and repetitions follow without
another look at the text.
-/

namespace SM83.Logging.Pattern

/-- A place of a text: the character before it, if there is one, and what follows. -/
structure Place where
  before : Option Char
  rest : List Char

namespace Place

def allFrom (before : Option Char) : List Char → List Place
  | [] => [⟨before, []⟩]
  | char :: rest => ⟨before, char :: rest⟩ :: allFrom (some char) rest

def all (text : String) : List Place := allFrom none text.toList

end Place

namespace WordEdge

def holds : WordEdge → Bool → Bool → Bool
  | boundary, before, behind => before != behind
  | noBoundary, before, behind => before == behind
  | start, before, behind => !before && behind
  | finish, before, behind => before && !behind
  | startHalf, before, _ => !before
  | finishHalf, _, behind => !behind

end WordEdge

namespace Look

def isWordChar : Option Char → Bool := Option.any Shorthand.word.set.contains

def holds (look : Look) (place : Place) : Bool :=
  let before := place.before
  let behind := place.rest.head?
  match look with
  | textStart => before.isNone
  | textEnd => behind.isNone
  | lineStart returns =>
    before.isNone || before == some '\n' ||
      (returns && before == some '\r' && behind != some '\n')
  | lineEnd false => behind.isNone || behind == some '\n'
  | lineEnd true =>
    behind.isNone || behind == some '\r' || (behind == some '\n' && before != some '\r')
  | word edge _ => edge.holds (isWordChar before) (isWordChar behind)

end Look

/-- For each place of a text the lengths of matches that begin there: bit `n` stands for length
`n`. -/
abbrev Lengths := List Nat

namespace Lengths

/-- The lengths at the first of some places of matches of so many lengths, each followed by a second
match. -/
def through : Nat → Lengths → Nat
  | _, [] => 0
  | first, second :: rest =>
    if first = 0 then 0
    else
      (if first % 2 = 1 then second else 0) ||| (through (first / 2) rest <<< 1)

def append : Lengths → Lengths → Lengths
  | first :: rest, second => through first second :: append rest (second.drop 1)
  | [], _ => []

def orElse : Lengths → Lengths → Lengths := List.zipWith (· ||| ·)

def unit : Lengths → Lengths := List.map fun _ => 1

/-- Any number of matches. An empty match among them leads nowhere else, so each but the last leads
to a later place, whose lengths are known before. -/
def star : Lengths → Lengths
  | [] => []
  | first :: rest =>
    let behind := star rest
    (1 ||| (through (first / 2) behind <<< 1)) :: behind

def power (lengths : Lengths) (count : Nat) : Lengths :=
  if count = 0 then lengths.unit
  else
    let half := power lengths (count / 2)
    let even := half.append half
    if count % 2 = 0 then even else lengths.append even

def times (least : Nat) (most : Option Nat) (lengths : Lengths) : Lengths :=
  (lengths.power least).append
    (match most with
    | none => lengths.star
    | some most => (lengths.unit.orElse lengths).power (most - least))

end Lengths

namespace Regex

mutual

def lengths (places : List Place) : Regex → Lengths
  | empty => places.map fun _ => 1
  | literal chars =>
    places.map fun place => if chars.isPrefixOf place.rest then 2 ^ chars.length else 0
  | oneOf _ set => places.map fun place => if place.rest.head?.any set.contains then 2 else 0
  | look question => places.map fun place => (question.holds place).toNat
  | capture _ body => body.lengths places
  | repeated least most _ body => (body.lengths places).times least most
  | sequence parts => sequenceLengths places parts
  | either branches => eitherLengths places branches

def sequenceLengths (places : List Place) : List Regex → Lengths
  | [] => places.map fun _ => 1
  | part :: rest => (part.lengths places).append (sequenceLengths places rest)

def eitherLengths (places : List Place) : List Regex → Lengths
  | [] => places.map fun _ => 0
  | branch :: rest => (branch.lengths places).orElse (eitherLengths places rest)

end

def occursIn (regex : Regex) (text : String) : Bool :=
  (regex.lengths (Place.all text)).any (· != 0)

end Regex

end SM83.Logging.Pattern
