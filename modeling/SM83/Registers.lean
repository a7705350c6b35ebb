import SM83.Flags
import SM83.Numeral.Write
import SM83.Word

/-!
The register file. A pair is one word and its two registers are the bytes of that word, so a
register and its pair cannot disagree. The flags are the low byte of the pair AF; every write to
that byte clears its low nibble.
-/

namespace SM83

inductive ByteRegister where
  | a | f | b | c | d | e | h | l
deriving DecidableEq

/-- The registers of one word: the four pairs, the stack pointer and the program counter. -/
inductive WordRegister where
  | af | bc | de | hl | sp | pc
deriving DecidableEq

structure Registers where
  af : UInt16
  bc : UInt16
  de : UInt16
  hl : UInt16
  sp : UInt16
  pc : UInt16
deriving DecidableEq

namespace Registers

def zero : Registers := ⟨0, 0, 0, 0, 0, 0⟩

def word (regs : Registers) : WordRegister → UInt16
  | .af => regs.af
  | .bc => regs.bc
  | .de => regs.de
  | .hl => regs.hl
  | .sp => regs.sp
  | .pc => regs.pc

/-- Writes a word; of the pair AF the low nibble is dropped. -/
def setWord (regs : Registers) (register : WordRegister) (value : UInt16) : Registers :=
  match register with
  | .af => { regs with af := value &&& 0xFFF0 }
  | .bc => { regs with bc := value }
  | .de => { regs with de := value }
  | .hl => { regs with hl := value }
  | .sp => { regs with sp := value }
  | .pc => { regs with pc := value }

/-- Reads a byte: the first register of a pair is the high byte. -/
def byte (regs : Registers) : ByteRegister → UInt8
  | .a => Word.high regs.af
  | .f => Word.low regs.af
  | .b => Word.high regs.bc
  | .c => Word.low regs.bc
  | .d => Word.high regs.de
  | .e => Word.low regs.de
  | .h => Word.high regs.hl
  | .l => Word.low regs.hl

/-- Writes one byte of a pair and keeps the other; of the flags the low nibble is dropped. -/
def setByte (regs : Registers) (register : ByteRegister) (value : UInt8) : Registers :=
  match register with
  | .a => { regs with af := Word.ofBytes value (Word.low regs.af) }
  | .f => { regs with af := Word.ofBytes (Word.high regs.af) (value &&& 0xF0) }
  | .b => { regs with bc := Word.ofBytes value (Word.low regs.bc) }
  | .c => { regs with bc := Word.ofBytes (Word.high regs.bc) value }
  | .d => { regs with de := Word.ofBytes value (Word.low regs.de) }
  | .e => { regs with de := Word.ofBytes (Word.high regs.de) value }
  | .h => { regs with hl := Word.ofBytes value (Word.low regs.hl) }
  | .l => { regs with hl := Word.ofBytes (Word.high regs.hl) value }

def flags (regs : Registers) : Flags :=
  Flags.ofByte (regs.byte .f)

def setFlags (regs : Registers) (flags : Flags) : Registers :=
  regs.setByte .f flags.toByte

def hasFlags (regs : Registers) (mask : Flags) : Bool :=
  regs.flags.contains mask

/-- Sets the flags in `mask` to `value` and keeps the others. -/
def assignFlags (regs : Registers) (mask : Flags) (value : Bool) : Registers :=
  regs.setFlags (regs.flags.assign mask value)

def text (regs : Registers) : String :=
  "AF=" ++ Numeral.hexWord regs.af ++ " BC=" ++ Numeral.hexWord regs.bc ++
    " DE=" ++ Numeral.hexWord regs.de ++ " HL=" ++ Numeral.hexWord regs.hl ++
    " SP=" ++ Numeral.hexWord regs.sp ++ " PC=" ++ Numeral.hexWord regs.pc

end Registers

end SM83
