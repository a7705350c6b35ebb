/-!
Texts as they come from outside: blanks and lines in the whole range of characters, not in the first
128 alone.
-/

namespace SM83.Text

/-- A blank: a space of any width, a tabulator, or the end of a line or paragraph. -/
def isBlank (char : Char) : Bool :=
  let code := char.toNat
  (0x09 ≤ code && code ≤ 0x0D) || (0x2000 ≤ code && code ≤ 0x200A) ||
    code ∈ [0x20, 0x85, 0xA0, 0x1680, 0x2028, 0x2029, 0x202F, 0x205F, 0x3000]

def trim (text : String) : String :=
  let behind := text.toList.dropWhile isBlank
  String.ofList (behind.reverse.dropWhile isBlank).reverse

def splitFrom (separator : Char) (before : List Char) : List Char → List (List Char)
  | [] => [before.reverse]
  | char :: rest =>
    if char = separator then before.reverse :: splitFrom separator [] rest
    else splitFrom separator (char :: before) rest

def split (separator : Char) (text : String) : List String :=
  (splitFrom separator [] text.toList).map String.ofList

def linesFrom (before : List Char) : List Char → List (List Char)
  | [] => if before.isEmpty then [] else [before.reverse]
  | '\n' :: rest =>
    let line := match before with
      | '\r' :: line => line
      | line => line
    line.reverse :: linesFrom [] rest
  | char :: rest => linesFrom (char :: before) rest

/-- The lines of a text. A line ends at a line feed, to which a carriage return right before it
belongs; what follows the last line feed is a line unless it is empty. -/
def lines (text : String) : List String :=
  (linesFrom [] text.toList).map String.ofList

end SM83.Text
