import SM83.Flags

/-!
Single bits of a byte. A bit is named by an index of which only the low three bits count.
-/

namespace SM83.Alu

def bitPlace (index : UInt8) : UInt8 :=
  index &&& 0x07

def bitMask (index : UInt8) : UInt8 :=
  1 <<< bitPlace index

/-- The flags of a test: zero is set when the bit is clear, and carry stays as it was. -/
def bitTest (flags : Flags) (value index : UInt8) : Flags :=
  { flags with
    zero := value &&& bitMask index == 0
    subtract := false
    halfCarry := true }

def setBit (value index : UInt8) : UInt8 :=
  value ||| bitMask index

def resetBit (value index : UInt8) : UInt8 :=
  value &&& ~~~bitMask index

end SM83.Alu
