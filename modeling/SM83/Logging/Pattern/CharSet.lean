import SM83.Logging.Pattern.Expr

/-!
Sets of characters. A set is kept as the characters at which membership changes: those before the
first edge are outside, those from the first edge up to the second are inside, and so on. So each
set has one form, and every operation on two sets is a walk along their edges.
-/

namespace SM83.Logging.Pattern

structure CharSet where
  /-- Where membership changes, in ascending order. -/
  edges : List Char
deriving DecidableEq

namespace CharSet

def empty : CharSet := ⟨[]⟩

def range (first last : Char) : CharSet :=
  if first ≤ last then ⟨first :: last.succ?.toList⟩ else empty

def above (first : Char) : CharSet := ⟨[first]⟩

def isInside (char : Char) (inside : Bool) : List Char → Bool
  | [] => inside
  | edge :: rest => if char < edge then inside else isInside char (!inside) rest

def contains (set : CharSet) (char : Char) : Bool := isInside char false set.edges

def complement (set : CharSet) : CharSet :=
  match set.edges with
  | '\x00' :: rest => ⟨rest⟩
  | edges => ⟨'\x00' :: edges⟩

def edgeIf (edge : Char) (before behind : Bool) : List Char :=
  if before = behind then [] else [edge]

/-- The edges of the result of an operation on two sets, given their edges and the sides before
them. -/
def mergeEdges (operation : Bool → Bool → Bool) (inFirst inSecond : Bool) :
    List Char → List Char → List Char
  | [], edges => if operation inFirst false = operation inFirst true then [] else edges
  | edges, [] => if operation false inSecond = operation true inSecond then [] else edges
  | first :: rest, second :: others =>
    let before := operation inFirst inSecond
    if first < second then
      edgeIf first before (operation (!inFirst) inSecond) ++
        mergeEdges operation (!inFirst) inSecond rest (second :: others)
    else if second < first then
      edgeIf second before (operation inFirst (!inSecond)) ++
        mergeEdges operation inFirst (!inSecond) (first :: rest) others
    else
      edgeIf first before (operation (!inFirst) (!inSecond)) ++
        mergeEdges operation (!inFirst) (!inSecond) rest others
termination_by first second => first.length + second.length

/-- The result of an operation by which nothing is inside that is in neither set. -/
def combine (operation : Bool → Bool → Bool) (first second : CharSet) : CharSet :=
  ⟨mergeEdges operation false false first.edges second.edges⟩

def union : CharSet → CharSet → CharSet := combine or

def inter : CharSet → CharSet → CharSet := combine and

def ofList (chars : List Char) : CharSet :=
  chars.foldr (fun char set => (range char char).union set) empty

def move (change : Nat → Nat) (set : CharSet) : CharSet :=
  ⟨set.edges.map fun edge => Char.ofNat (change edge.toNat)⟩

/-- Adds to each letter its other case, among the first 128 characters. -/
def closeCase (set : CharSet) : CharSet :=
  let raised := (set.inter (range 'a' 'z')).move (· - 32)
  let lowered := (set.inter (range 'A' 'Z')).move (· + 32)
  set.union (raised.union lowered)

def isAscii (set : CharSet) : Bool := set.inter (above '\x80') == empty

def single? (set : CharSet) : Option Char :=
  match set.edges with
  | first :: rest => if rest = first.succ?.toList then some first else none
  | [] => none

/-- The stretches of code points between edges, each by its first and its last. -/
def stretches : List Char → List (Nat × Nat)
  | [] => []
  | [first] => [(first.toNat, 0x10FFFF)]
  | first :: next :: rest => (first.toNat, next.toNat - 1) :: stretches rest

end CharSet

def SetOperation.apply : SetOperation → Bool → Bool → Bool
  | intersection => and
  | difference => fun first second => first && !second
  | symmetricDifference => xor

namespace NamedClass

def set : NamedClass → CharSet
  | digit => .range '0' '9'
  | lower => .range 'a' 'z'
  | upper => .range 'A' 'Z'
  | alpha => .union (.range 'A' 'Z') (.range 'a' 'z')
  | alnum => .union (.range '0' '9') (.union (.range 'A' 'Z') (.range 'a' 'z'))
  | word => .union (.ofList ['_']) (.union (.range '0' '9')
      (.union (.range 'A' 'Z') (.range 'a' 'z')))
  | xdigit => .union (.range '0' '9') (.union (.range 'A' 'F') (.range 'a' 'f'))
  | blank => .ofList ['\t', ' ']
  | space => .ofList ['\t', '\n', '\x0b', '\x0c', '\r', ' ']
  | ascii => .range '\x00' '\x7f'
  | cntrl => .union (.range '\x00' '\x1f') (.ofList ['\x7f'])
  | graph => .range '!' '~'
  | print => .range ' ' '~'
  | punct => .union (.union (.range '!' '/') (.range ':' '@'))
      (.union (.range '[' '\x60') (.range '\x7b' '~'))

end NamedClass

def Shorthand.set : Shorthand → CharSet
  | digit => NamedClass.digit.set
  | space => NamedClass.space.set
  | word => NamedClass.word.set

end SM83.Logging.Pattern
