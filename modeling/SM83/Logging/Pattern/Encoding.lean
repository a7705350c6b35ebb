/-!
How characters are written in bytes. A character from 128 on takes a leading byte, which tells the
number of bytes, and one to three bytes of six bits behind it. The characters of a stretch are those
that a few sequences of ranges of bytes stand for.
-/

namespace SM83.Logging.Pattern

structure ByteRange where
  first : Nat
  last : Nat
deriving DecidableEq

namespace Encoding

def continuation : Nat := 0x80

def anyContinuation : ByteRange := ⟨continuation, continuation + 63⟩

/-- The sequences for the code points from `first` to `last`, with `mark` added to the leading byte
and so many bytes behind it. Code points that share the leading byte are taken together; else those
with the first and the last of the leading bytes stand apart unless all of them are there. -/
def split (mark : Nat) : Nat → Nat → Nat → List (List ByteRange)
  | 0, first, last => [[⟨mark + first, mark + last⟩]]
  | behind + 1, first, last =>
    let unit := 64 ^ (behind + 1)
    let low := first / unit
    let high := last / unit
    let led (lead : Nat) (sequences : List (List ByteRange)) :=
      sequences.map (⟨mark + lead, mark + lead⟩ :: ·)
    if low = high then led low (split continuation behind (first % unit) (last % unit))
    else
      let fromStart := first % unit = 0
      let toEnd := last % unit = unit - 1
      let before :=
        if fromStart then [] else led low (split continuation behind (first % unit) (unit - 1))
      let after :=
        if toEnd then [] else led high (split continuation behind 0 (last % unit))
      let low := if fromStart then low else low + 1
      let high := if toEnd then high else high - 1
      let between :=
        if low ≤ high then
          [⟨mark + low, mark + high⟩ :: List.replicate (behind + 1) anyContinuation]
        else []
      before ++ between ++ after

/-- A stretch of code points whose characters take the same number of bytes: `behind` of them follow
the leading one, to whose bits `mark` is added. -/
structure Width where
  first : Nat
  last : Nat
  mark : Nat
  behind : Nat

-- The code points between the third stretch and the fourth stand for no character.
def widths : List Width :=
  [⟨0x0, 0x7F, 0x00, 0⟩, ⟨0x80, 0x7FF, 0xC0, 1⟩, ⟨0x800, 0xD7FF, 0xE0, 2⟩,
    ⟨0xE000, 0xFFFF, 0xE0, 2⟩, ⟨0x10000, 0x10FFFF, 0xF0, 3⟩]

def sequences (first last : Nat) : List (List ByteRange) :=
  widths.flatMap fun width =>
    let first := max first width.first
    let last := min last width.last
    if first ≤ last then split width.mark width.behind first last else []

end Encoding

end SM83.Logging.Pattern
