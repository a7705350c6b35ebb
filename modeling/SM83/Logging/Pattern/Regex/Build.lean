import SM83.Logging.Pattern.Regex.Extent

/-!
Expressions built from parts. What is built matches the same texts as the parts put together as they
are, in a form that takes less: literals are joined, sequences and choices within each other are
one, a choice between characters is a set, and what all branches begin with stands once before them.
-/

namespace SM83.Logging.Pattern.Regex

/-- A character of a set; a set with one member alone is a literal. -/
def ofSet (inBytes : Bool) (set : CharSet) : Regex :=
  match set.single? with
  | some char => literal [char]
  | none => if set = .empty then fail else oneOf inBytes set

/-! Sequences. -/

def parts : Regex → List Regex
  | empty => []
  | sequence parts => parts
  | other => [other]

/-- A part before others; a literal before a literal is joined with it. -/
def before : Regex → List Regex → List Regex
  | literal chars, literal others :: rest => literal (chars ++ others) :: rest
  | part, rest => part :: rest

def sequenceOf (all : List Regex) : Regex :=
  match (all.flatMap parts).foldr before [] with
  | [] => empty
  | [part] => part
  | parts => sequence parts

/-! Choices. -/

def branches : Regex → List Regex
  | either branches => branches
  | other => [other]

def charSet? : Regex → Option CharSet
  | literal [char] => some (.range char char)
  | _ => none

def set? : Regex → Option CharSet
  | oneOf _ set => some set
  | _ => none

/-- The set that a choice is worth, if all branches are single characters or all are sets. -/
def unionSet? (branches : List Regex) : Option CharSet :=
  ((branches.mapM charSet?).or (branches.mapM set?)).map (·.foldr .union .empty)

def choice (all : List Regex) : Regex :=
  match all.flatMap branches with
  | [] => fail
  | [branch] => branch
  | branches =>
    match unionSet? branches with
    | some set => ofSet false set
    | none => either branches

def sharedParts : List Regex → List Regex → List Regex
  | part :: rest, other :: others =>
    if part.same other then part :: sharedParts rest others else []
  | _, _ => []

def sequenceParts? : Regex → Option (List Regex)
  | sequence parts => some parts
  | _ => none

/-- A choice between sequences, with what all of them begin with before it. -/
def factor (branches : List Regex) : Regex :=
  match branches.mapM sequenceParts? with
  | some (first :: rest) =>
    let shared := rest.foldl sharedParts first
    if shared.isEmpty then either branches
    else
      let behind := choice ((first :: rest).map fun parts => sequenceOf (parts.drop shared.length))
      sequenceOf (shared ++ [behind])
  | _ => either branches

def eitherOf (all : List Regex) : Regex :=
  match choice all with
  | either branches => factor branches
  | other => other

/-! Repetitions. -/

/-- A repetition. What matches the empty text alone need not be repeated. -/
def repeatedOf (least : Nat) (most : Option Nat) (greedy : Bool) (body : Regex) : Regex :=
  let once := body.extent.isEmpty
  let least := if once then min least 1 else least
  let most := if once then some (min (most.getD 1) 1) else most
  if most = some 0 then empty
  else if least = 1 ∧ most = some 1 then body
  else repeated least most greedy body

end SM83.Logging.Pattern.Regex
