/-!
Settings of the processor, one for each place in which its documented behaviour leaves a choice.
The first value of each is its default; the processor's own behaviour is the setting of that name,
or else the second.
-/

namespace SM83

/-- Half carry and carry of an addition to HL: those of the low byte, with zero that of the sum, or
those out of bits 11 and 15, with zero left as it is. -/
inductive Add16Rule where
  | lowByte
  | hardware
deriving DecidableEq

/-- What a disjunction, plain or exclusive, does to the flags besides zero: keep or clear them. -/
inductive LogicRule where
  | zeroOnly
  | hardware
deriving DecidableEq

/-- The zero flag of a rotation of A. -/
inductive RotateARule where
  | zeroFromResult
  | zeroCleared
deriving DecidableEq

inductive RestartRule where
  | pushReturn
  | jumpOnly
deriving DecidableEq

/-- Whether a stop skips the byte behind its opcode. -/
inductive StopRule where
  | single
  | withPadding
deriving DecidableEq

inductive InitialState where
  | powerOn
  | postBoot
deriving DecidableEq

structure Config where
  add16 : Add16Rule := .lowByte
  logic : LogicRule := .zeroOnly
  rotateA : RotateARule := .zeroFromResult
  restart : RestartRule := .pushReturn
  stop : StopRule := .single
  initialState : InitialState := .powerOn
deriving DecidableEq

namespace Config

def default : Config := {}

def hardware : Config where
  add16 := .hardware
  logic := .hardware
  rotateA := .zeroCleared
  restart := .pushReturn
  stop := .withPadding
  initialState := .powerOn

end Config

end SM83
