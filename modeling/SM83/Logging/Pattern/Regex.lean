import SM83.Logging.Pattern.CharSet

/-!
Regular expressions. Two expressions are the same only if they are built alike, so that what
branches have in common can be found.
-/

namespace SM83.Logging.Pattern

/-- What a place between two characters is asked for. A line ends at a line feed, or if `returns` at
a carriage return too. -/
inductive Look where
  | textStart | textEnd
  | lineStart (returns : Bool)
  | lineEnd (returns : Bool)
  | word (edge : WordEdge) (allScripts : Bool)
deriving DecidableEq

inductive Regex where
  | empty
  | literal (chars : List Char)
  /-- A character of a set. What is said in bytes is kept apart from what is said in characters. -/
  | oneOf (inBytes : Bool) (set : CharSet)
  | look (question : Look)
  | capture (number : Nat) (body : Regex)
  /-- So many times the body; of several matches a greedy one prefers the longest. -/
  | repeated (least : Nat) (most : Option Nat) (greedy : Bool) (body : Regex)
  | sequence (parts : List Regex)
  | either (branches : List Regex)

namespace Regex

def fail : Regex := oneOf true .empty

mutual

def same : Regex → Regex → Bool
  | empty, empty => true
  | literal chars, literal others => chars == others
  | oneOf inBytes set, oneOf inBytes' other => inBytes == inBytes' && set == other
  | look question, look other => question == other
  | capture number body, capture number' other => number == number' && body.same other
  | repeated least most greedy body, repeated least' most' greedy' other =>
    least == least' && most == most' && greedy == greedy' && body.same other
  | sequence parts, sequence others => allSame parts others
  | either branches, either others => allSame branches others
  | _, _ => false

def allSame : List Regex → List Regex → Bool
  | [], [] => true
  | part :: rest, other :: others => part.same other && allSame rest others
  | _, _ => false

end

mutual

def asksWords : Regex → Bool
  | look (.word _ allScripts) => allScripts
  | look _ | empty | literal _ | oneOf _ _ => false
  | capture _ body | repeated _ _ _ body => body.asksWords
  | sequence parts | either parts => anyAsksWords parts

def anyAsksWords : List Regex → Bool
  | [] => false
  | part :: rest => part.asksWords || anyAsksWords rest

end

end Regex

end SM83.Logging.Pattern
