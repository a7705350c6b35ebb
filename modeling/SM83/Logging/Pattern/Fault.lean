import SM83.Numeral.Write
import SM83.Logging.Pattern.Span
import SM83.Logging.Text

/-!
What can be wrong with a pattern, and how it is told: the pattern with the place marked below it,
then the cause.
-/

namespace SM83.Logging.Pattern

inductive Cause where
  | bracketUnclosed
  | bracketEscape
  | rangeReversed
  | rangeBoundary
  | decimalInvalid
  | hexEmpty
  | hexNoCharacter
  | hexDigit
  | escapeUnfinished
  | escapeUnknown
  | flagNegationDangling
  | flagNegationTwice
  | flagTwice
  | flagUnfinished
  | flagUnknown
  | groupNameTwice
  | groupNameEmpty
  | groupNameCharacter
  | groupNameUnfinished
  | groupUnclosed
  | groupUnopened
  | tooDeep (limit : Nat)
  | countReversed
  | countMissing
  | countUnclosed
  | repetitionOfNothing
  | wordBoundaryUnclosed
  | wordBoundaryUnknown
  | wordBoundaryUnfinished
  | propertyCharacter
  | backreference
  | lookAround
  | notForBytes
  | notForText
  | propertyUnknown
  | propertyValueUnknown
  | shorthandUnavailable
  | caseUnavailable
deriving DecidableEq

namespace Cause

def message : Cause → String
  | bracketUnclosed => "unclosed character class"
  | bracketEscape => "invalid escape sequence found in character class"
  | rangeReversed => "invalid character class range, the start must be <= the end"
  | rangeBoundary => "invalid range boundary, must be a literal"
  | decimalInvalid => "decimal literal invalid"
  | hexEmpty => "hexadecimal literal empty"
  | hexNoCharacter => "hexadecimal literal is not a Unicode scalar value"
  | hexDigit => "invalid hexadecimal digit"
  | escapeUnfinished => "incomplete escape sequence, reached end of pattern prematurely"
  | escapeUnknown => "unrecognized escape sequence"
  | flagNegationDangling => "dangling flag negation operator"
  | flagNegationTwice => "flag negation operator repeated"
  | flagTwice => "duplicate flag"
  | flagUnfinished => "expected flag but got end of regex"
  | flagUnknown => "unrecognized flag"
  | groupNameTwice => "duplicate capture group name"
  | groupNameEmpty => "empty capture group name"
  | groupNameCharacter => "invalid capture group character"
  | groupNameUnfinished => "unclosed capture group name"
  | groupUnclosed => "unclosed group"
  | groupUnopened => "unopened group"
  | tooDeep limit =>
    "exceed the maximum number of nested parentheses/brackets (" ++ Numeral.decimal limit ++ ")"
  | countReversed => "invalid repetition count range, the start must be <= the end"
  | countMissing => "repetition quantifier expects a valid decimal"
  | countUnclosed => "unclosed counted repetition"
  | repetitionOfNothing => "repetition operator missing expression"
  | wordBoundaryUnclosed =>
    "special word boundary assertion is either unclosed or contains an invalid character"
  | wordBoundaryUnknown =>
    "unrecognized special word boundary assertion, valid choices are: start, end, start-half " ++
      "or end-half"
  | wordBoundaryUnfinished =>
    "found either the beginning of a special word boundary or a bounded repetition on a \\b " ++
      "with an opening brace, but no closing brace"
  | propertyCharacter => "invalid Unicode character class"
  | backreference => "backreferences are not supported"
  | lookAround => "look-around, including look-ahead and look-behind, is not supported"
  | notForBytes => "Unicode not allowed here"
  | notForText => "pattern can match invalid UTF-8"
  | propertyUnknown => "Unicode property not found"
  | propertyValueUnknown => "Unicode property value not found"
  | shorthandUnavailable =>
    "Unicode-aware Perl class not found (make sure the unicode-perl feature is enabled)"
  | caseUnavailable =>
    "Unicode-aware case insensitivity matching is not available " ++
      "(make sure the unicode-case feature is enabled)"

end Cause

/-- Why a pattern cannot be used: a cause at a place, in conflict with what is at an `earlier` one;
more than `limit` bytes taken; words to be known in all scripts, for which there is no table. -/
inductive Fault where
  | located (cause : Cause) (span : Span) (earlier : Option Span)
  | tooLarge (limit : Nat)
  | wordsUnknown
deriving DecidableEq

/-! The marks below the lines of a pattern. -/

def marks (done : Nat) : List Span → List Char
  | [] => []
  | span :: rest =>
    let blanks := span.first.column - 1 - done
    let width := max 1 (span.last.column - span.first.column)
    List.replicate blanks ' ' ++ List.replicate width '^' ++ marks (done + blanks + width) rest

/-- Lines with the stretches marked below each, the first of them numbered `number`. The numbers are
written if `digits` is not zero, in so many places. -/
def markedLines (digits : Nat) (spans : List Span) : Nat → List String → List String
  | _, [] => []
  | number, line :: rest =>
    let numeral := Numeral.decimal number
    let margin :=
      if digits = 0 then "    "
      else String.ofList (List.replicate (digits - numeral.length) ' ') ++ numeral ++ ": "
    let here := spans.filter (·.first.line == number)
    let below :=
      if here.isEmpty then []
      else [String.ofList (List.replicate margin.length ' ' ++ marks 0 here)]
    (margin ++ line) :: below ++ markedLines digits spans (number + 1) rest

def extent (span : Span) : String :=
  "on line " ++ Numeral.decimal span.first.line ++
    " (column " ++ Numeral.decimal span.first.column ++
    ") through line " ++ Numeral.decimal span.last.line ++
    " (column " ++ Numeral.decimal (span.last.column - 1) ++ ")"

def inOrder (span : Span) : Option Span → List Span
  | none => [span]
  | some other => if span.precedes other then [span, other] else [other, span]

/-- The pattern with a cause marked in it. A pattern of several lines is framed and its lines are
numbered. -/
def report (pattern : String) (cause : Cause) (spans : List Span) : List String :=
  let lines := Text.lines pattern
  let framed := '\n' ∈ pattern.toList
  let count := lines.length + if pattern.toList.getLast? = some '\n' then 1 else 0
  let digits := if count ≤ 1 then 0 else (Numeral.decimal count).length
  let frame := if framed then [String.ofList (List.replicate 79 '~')] else []
  let extents := if framed then (spans.filter (!·.isOneLine)).map extent else []
  "regex parse error:" :: frame ++ markedLines digits (spans.filter (·.isOneLine)) 1 lines ++
    frame ++ extents ++ ["error: " ++ cause.message]

namespace Fault

def message (pattern : String) : Fault → String
  | located cause span earlier => "\n".intercalate (report pattern cause (inOrder span earlier))
  | tooLarge limit =>
    "Compiled regex exceeds size limit of " ++ Numeral.decimal limit ++ " bytes."
  | wordsUnknown => "error building NFA"

end Fault

end SM83.Logging.Pattern
