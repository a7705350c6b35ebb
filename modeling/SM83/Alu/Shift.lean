import SM83.Flags

/-!
Rotations and shifts of bytes by one place. The bit that leaves the byte goes to the carry flag,
zero is that of the result, and subtract and half carry are clear.
-/

namespace SM83.Alu

def shifted (result : UInt8) (carryOut : Bool) : UInt8 × Flags :=
  (result, { Flags.zeroIf result with carry := carryOut })

def topBit (value : UInt8) : Bool :=
  value &&& 0x80 != 0

def bottomBit (value : UInt8) : Bool :=
  value &&& 0x01 != 0

def rotateLeft (value : UInt8) : UInt8 × Flags :=
  shifted (value <<< 1 ||| value >>> 7) (topBit value)

def rotateRight (value : UInt8) : UInt8 × Flags :=
  shifted (value >>> 1 ||| value <<< 7) (bottomBit value)

/-- Left, the carry flag coming in as bit 0. -/
def rotateLeftThroughCarry (flags : Flags) (value : UInt8) : UInt8 × Flags :=
  shifted (value <<< 1 ||| flags.carry.toUInt8) (topBit value)

/-- Right, the carry flag coming in as bit 7. -/
def rotateRightThroughCarry (flags : Flags) (value : UInt8) : UInt8 × Flags :=
  shifted (value >>> 1 ||| (if flags.carry then 0x80 else 0)) (bottomBit value)

def shiftLeft (value : UInt8) : UInt8 × Flags :=
  shifted (value <<< 1) (topBit value)

/-- Right, bit 7 staying as the sign. -/
def shiftRightArithmetic (value : UInt8) : UInt8 × Flags :=
  shifted (value >>> 1 ||| value &&& 0x80) (bottomBit value)

def shiftRightLogical (value : UInt8) : UInt8 × Flags :=
  shifted (value >>> 1) (bottomBit value)

/-- The two nibbles exchanged; no bit leaves the byte. -/
def swapNibbles (value : UInt8) : UInt8 × Flags :=
  shifted (value <<< 4 ||| value >>> 4) false

end SM83.Alu
