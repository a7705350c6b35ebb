import SM83.Logging.Pattern.Encoding
import SM83.Logging.Pattern.Regex.Extent

/-!
How many bytes the automaton of an expression takes. The automaton reads bytes, forward or backward,
and has a state for each range of bytes to be read, each choice and each place where choices meet; a
repetition has a copy of its body for each time it counts. The size is told without the automaton.
-/

namespace SM83.Logging.Pattern

inductive Direction where
  | forward | backward
deriving DecidableEq

namespace Size

def state : Nat := 32

def choice (count : Nat) : Nat := state + 4 * count

def ranges (count : Nat) : Nat := state + 8 * count

def total (sizes : List Nat) : Nat :=
  sizes.foldr (· + ·) 0

/-! Sets. -/

/-- What stands behind each range that sequences begin with; those with one beginning stand side by
side. -/
def groups (sequences : List (List ByteRange)) : List (List (List ByteRange)) :=
  (sequences.splitBy (·.head? == ·.head?)).map (·.map (·.drop 1))

def nodes : Nat → List (List ByteRange) → List (List (List ByteRange))
  | 0, _ => []
  | depth + 1, sequences =>
    if sequences.all (·.isEmpty) then []
    else sequences :: (groups sequences).flatMap (nodes depth)

def maxWidth : Nat := 4

/-- A set of characters. Reading forward, the sequences of bytes share what they begin and what they
end with; reading backward, each sequence is a choice and shares what the characters begin with. -/
def charSet (direction : Direction) (set : CharSet) : Nat :=
  let sequences := (CharSet.stretches set.edges).flatMap fun (first, last) =>
    Encoding.sequences first last
  let nodes := nodes maxWidth sequences
  match direction with
  | .forward =>
    state + total (nodes.eraseDups.map fun node => ranges (groups node).length)
  | .backward =>
    choice sequences.length + state + total (nodes.map fun node => state * (groups node).length)

/-! Choices between literals. -/

/-- What is left of literals where a tree of them forks, in the order of the literals. -/
abbrev Fork := List (List UInt8)

def Fork.cut (before : Fork) : Fork → List Fork
  | [] => [before.reverse]
  | [] :: rest => before.reverse :: Fork.cut [] rest
  | literal :: rest => Fork.cut (literal :: before) rest

/-- The literals at a fork between the ends of literals, one stretch more than there are ends. Those
behind an end do not share states with those before it. Ends that come first count once. -/
def Fork.chunks (fork : Fork) : List Fork :=
  let chunks := Fork.cut [] (fork.dropWhile (·.isEmpty))
  if fork.head? = some [] then [] :: chunks else chunks

def Fork.next (chunk : Fork) : List Fork :=
  (chunk.filterMap (·.head?)).eraseDups.map fun byte =>
    (chunk.filter (·.head? == some byte)).map (·.drop 1)

/-- The states at a fork: one for each chunk that has bytes to read, and the choice between these
and the end. -/
def Fork.size (fork : Fork) : Nat :=
  let chunks := fork.chunks
  let counts := (chunks.map (·.next.length)).filter (· > 0)
  total (counts.map fun count => if count = 1 then state else ranges count) +
    choice (counts.length + (chunks.length - 1))

def Fork.behind (fork : Fork) : List Fork :=
  (fork.chunks.flatMap (·.next)).filter (·.any (!·.isEmpty))

def forks (done : Nat) : Nat → List Fork → Nat
  | 0, _ => done
  | bytes + 1, level =>
    forks (done + total (level.map (·.size))) bytes (level.flatMap (·.behind))

def literals (direction : Direction) (literals : List (List Char)) : Nat :=
  let all := literals.map fun chars =>
    let bytes := chars.flatMap String.utf8EncodeChar
    if direction = .forward then bytes else bytes.reverse
  state + forks 0 ((all.map (·.length)).foldl max 0) [all]

/-! Expressions. -/

def repeated (least : Nat) (most : Option Nat) (isNonempty : Bool) (body : Nat) : Nat :=
  match most with
  | none =>
    if least = 0 ∧ !isNonempty then body + 2 * choice 2 + state
    else max least 1 * body + choice 2
  | some most =>
    if least = most then least * body
    else if least = 0 ∧ most = 1 then choice 2 + body + state
    else
      (if least = 0 then state else least * body) + state + (most - least) * (choice 2 + body)

end Size

namespace Regex

def literals? : List Regex → Option (List (List Char)) :=
  List.mapM fun
    | literal chars => some chars
    | _ => none

mutual

/-- The bytes of the states for an expression. The places where groups begin and end are kept only
in reading forward. -/
def size (direction : Direction) : Regex → Nat
  | empty | look _ => Size.state
  | literal chars => Size.state * Size.total (chars.map (·.utf8Size))
  | oneOf _ set =>
    if set.isAscii then Size.state + Size.ranges ((set.edges.length + 1) / 2)
    else Size.charSet direction set
  | capture _ body =>
    body.size direction + if direction = .forward then 2 * Size.state else 0
  | repeated least most _ body =>
    Size.repeated least most body.extent.isNonempty (body.size direction)
  | sequence parts => sizes direction parts
  | either branches =>
    match literals? branches with
    | some literals => Size.literals direction literals
    | none => Size.choice branches.length + Size.state + sizes direction branches

def sizes (direction : Direction) : List Regex → Nat
  | [] => 0
  | part :: rest => part.size direction + sizes direction rest

end

/-- The bytes of the automaton for an expression. It begins with a loop over all bytes, unless a
match is bound to the place where reading begins. Reading forward, it keeps the bounds of the match
and ends with a state of its own. -/
def automatonSize (direction : Direction) (regex : Regex) : Nat :=
  let extent := regex.extent
  let bound := if direction = .forward then extent.fromStart else extent.toEnd
  let start := if bound then Size.state else Size.choice 2 + Size.state + Size.ranges 1
  let finish := if direction = .forward then 3 * Size.state else Size.state
  start + regex.size direction + finish

def sizeLimit : Nat := 10485760

end Regex

end SM83.Logging.Pattern
