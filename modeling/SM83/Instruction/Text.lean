import SM83.Instruction.Basic

/-!
Instructions in assembly text. Bytes and words are hexadecimal behind a dollar sign; displacements
and bit indexes are decimal.
-/

namespace SM83.Instruction

/-- A verb with its operand, and the condition before the operand if there is one. -/
def conditional (verb : String) (condition : Option Condition) (operand : String) : String :=
  match condition with
  | none => verb ++ " " ++ operand
  | some test => verb ++ " " ++ test.text ++ "," ++ operand

/-- A verb with a bit index and a target. -/
def indexed (verb : String) (index : UInt8) (target : Operand8) : String :=
  verb ++ " " ++ Numeral.decimal index.toNat ++ "," ++ target.text

def text : Instruction → String
  | nop => "NOP"
  | stop => "STOP"
  | halt => "HALT"
  | di => "DI"
  | ei => "EI"
  | ld target source => "LD " ++ target.text ++ "," ++ source.text
  | storeA place => place.verb ++ " " ++ place.text ++ ",A"
  | loadA place => place.verb ++ " A," ++ place.text
  | ldImmediate16 target value => "LD " ++ target.text ++ ",$" ++ Numeral.hexWord value
  | storeSP address => "LD ($" ++ Numeral.hexWord address ++ "),SP"
  | ldSPHL => "LD SP,HL"
  | ldHLOffset offset => "LD HL,SP" ++ Numeral.explicitlySigned offset
  | push pair => "PUSH " ++ pair.text
  | pop pair => "POP " ++ pair.text
  | alu op source => op.lead ++ source.text
  | inc target => "INC " ++ target.text
  | dec target => "DEC " ++ target.text
  | daa => "DAA"
  | cpl => "CPL"
  | scf => "SCF"
  | ccf => "CCF"
  | addHL source => "ADD HL," ++ source.text
  | addSP offset => "ADD SP," ++ Numeral.signed offset
  | inc16 target => "INC " ++ target.text
  | dec16 target => "DEC " ++ target.text
  | rotateA rotation => rotation.text ++ "A"
  | jp condition address => conditional "JP" condition ("$" ++ Numeral.hexWord address)
  | jpHL => "JP (HL)"
  | jr condition offset => conditional "JR" condition (Numeral.signed offset)
  | call condition address => conditional "CALL" condition ("$" ++ Numeral.hexWord address)
  | ret none => "RET"
  | ret (some test) => "RET " ++ test.text
  | reti => "RETI"
  | rst vector => "RST $" ++ Numeral.hexByte vector
  | shift op target => op.text ++ " " ++ target.text
  | bit index target => indexed "BIT" index target
  | res index target => indexed "RES" index target
  | set index target => indexed "SET" index target

end SM83.Instruction
