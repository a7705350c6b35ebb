import SM83.Flags
import SM83.Word

/-!
Addition and subtraction of bytes and words. Byte additions and subtractions share one adder and
one subtractor, each with a carry or borrow coming in; the sums and differences that decide the
flags are taken in the narrowest type that holds them.
-/

namespace SM83.Alu

def nibbleSum (carryIn : Bool) (a b : UInt8) : UInt8 :=
  (a &&& 0x0F) + (b &&& 0x0F) + carryIn.toUInt8

def byteSum (carryIn : Bool) (a b : UInt8) : UInt16 :=
  a.toUInt16 + b.toUInt16 + carryIn.toUInt16

def nibbleDifference (borrowIn : Bool) (a b : UInt8) : Int16 :=
  (a &&& 0x0F).toUInt16.toInt16 - (b &&& 0x0F).toUInt16.toInt16 - borrowIn.toInt16

def byteDifference (borrowIn : Bool) (a b : UInt8) : Int16 :=
  a.toUInt16.toInt16 - b.toUInt16.toInt16 - borrowIn.toInt16

/-- The adder: both carries are those of the whole sum, the carry coming in included. -/
def addWithCarry (carryIn : Bool) (a b : UInt8) : UInt8 × Flags :=
  let sum := (byteSum carryIn a b).toUInt8
  (sum,
    { zero := sum == 0
      subtract := false
      halfCarry := nibbleSum carryIn a b > 0x0F
      carry := byteSum carryIn a b > 0xFF })

/-- The subtractor: half carry and carry are set by a difference that had to borrow. -/
def subtractWithBorrow (borrowIn : Bool) (a b : UInt8) : UInt8 × Flags :=
  let difference := (byteDifference borrowIn a b).toUInt16.toUInt8
  (difference,
    { zero := difference == 0
      subtract := true
      halfCarry := nibbleDifference borrowIn a b < 0
      carry := byteDifference borrowIn a b < 0 })

def add8 (a b : UInt8) : UInt8 × Flags :=
  addWithCarry false a b

def adc8 (flags : Flags) (a b : UInt8) : UInt8 × Flags :=
  addWithCarry flags.carry a b

def sub8 (a b : UInt8) : UInt8 × Flags :=
  subtractWithBorrow false a b

def sbc8 (flags : Flags) (a b : UInt8) : UInt8 × Flags :=
  subtractWithBorrow flags.carry a b

def cp8 (a b : UInt8) : Flags :=
  (sub8 a b).2

def inc8 (flags : Flags) (value : UInt8) : UInt8 × Flags :=
  let (sum, after) := add8 value 1
  (sum, { after with carry := flags.carry })

def dec8 (flags : Flags) (value : UInt8) : UInt8 × Flags :=
  let (difference, after) := sub8 value 1
  (difference, { after with carry := flags.carry })

def maskedSum (mask a b : UInt16) : UInt16 :=
  (a &&& mask) + (b &&& mask)

def wordSum (a b : UInt16) : UInt32 :=
  a.toUInt32 + b.toUInt32

/-- Word addition with the flags of the low byte: half carry and carry both tell that the low
bytes overflowed, zero is that of the whole sum. -/
def add16 (a b : UInt16) : UInt16 × Flags :=
  let lowCarry : Bool := maskedSum 0x00FF a b > 0x00FF
  (a + b,
    { zero := a + b == 0
      subtract := false
      halfCarry := lowCarry
      carry := lowCarry })

/-- Word addition as the processor does it: half carry out of bit 11, carry out of bit 15, and
the zero flag stays as it was. -/
def add16Hardware (flags : Flags) (a b : UInt16) : UInt16 × Flags :=
  (a + b,
    { flags with
      subtract := false
      halfCarry := maskedSum 0x0FFF a b > 0x0FFF
      carry := wordSum a b > 0xFFFF })

/-- A word and a signed displacement. Half carry and carry are those of the low byte, the
displacement taken as unsigned; zero is always clear. -/
def addOffset (base : UInt16) (offset : Int8) : UInt16 × Flags :=
  let extended := Word.ofSigned offset
  (base + extended,
    { Flags.clear with
      halfCarry := maskedSum 0x000F base extended > 0x000F
      carry := maskedSum 0x00FF base extended > 0x00FF })

end SM83.Alu
