import SM83.Address
import SM83.Machine
import SM83.Memory

/-!
The trace tool: it loads an image into memory, runs it for a number of steps and reports where the
processor stands. How files are read, which records are shown and how a failure is laid out is
decided around it.
-/

namespace SM83.TraceTool

structure Request where
  image : String
  steps : Nat
  /-- Where the image is loaded and the run begins. -/
  address : UInt16

inductive Failure where
  | missingImage
  | stepCount (text : String) (cause : NumeralError)
  | address (error : AddressError)
  | unreadable (path : String) (cause : String)
  | tooLarge (path : String) (size : Nat)

structure Record where
  level : Level
  component : String
  message : String

/-- What is printed besides the tool's own lines, and how: notices before the tool begins, the lines
shown of a record, and the text of a failure, given its message and what lies behind it. -/
structure Console where
  notices : List String
  shown : Record → List String
  describe : String → Option String → String

/-- What the tool prints, line by line, and the code it exits with. -/
structure Report where
  exitCode : UInt32
  output : List String
  errors : List String

namespace Failure

def message : Failure → String
  | missingImage => "Usage: dm_trace <image> [steps] [load_addr]"
  | stepCount text _ => "invalid step count '" ++ text ++ "'"
  | address error => error.summary
  | unreadable path _ => "failed to read image '" ++ path ++ "'"
  | tooLarge path size =>
    "image '" ++ path ++ "' is " ++ Numeral.decimal size ++
      " bytes, larger than the 64 KiB address space"

def cause? : Failure → Option String
  | missingImage => none
  | stepCount _ cause => some cause.message
  | address error => some error.cause.message
  | unreadable _ cause => some cause
  | tooLarge _ _ => none

end Failure

namespace Request

def defaultSteps : Nat := 1000

def maxSteps : Nat := UInt64.size - 1

def readSteps : Option String → Except Failure Nat
  | none => .ok defaultSteps
  | some text => (Numeral.read 10 maxSteps text).mapError (Failure.stepCount text)

def readAddress : Option String → Except Failure UInt16
  | none => .ok 0
  | some text => (Address.read text).mapError Failure.address

/-- Reads the command line: an image, a step count, an address; what follows is ignored. -/
def ofArguments : List String → Except Failure Request
  | [] => .error .missingImage
  | image :: options => do
    let steps ← readSteps options[0]?
    let address ← readAddress options[1]?
    return { image, steps, address }

end Request

def componentOf : Origin → String
  | .core => "dotmatrix_cpu::cpu"
  | .step => "dotmatrix_cpu::cpu::step"
  | .system => "dotmatrix_cpu::cpu::exec::system"
  | .stack => "dotmatrix_cpu::cpu::exec::stack"

def Record.ofEvent (event : Event) : Record :=
  ⟨event.level, componentOf event.origin, event.message⟩

namespace Console

/-- The text of a failure is its message and, maybe, something behind it. -/
def LeadsWithMessage (console : Console) : Prop :=
  ∀ message cause, ∃ behind, console.describe message cause = message ++ behind

def failed (console : Console) (failure : Failure) : Report where
  exitCode := 1
  output := []
  errors := console.notices ++ ["Error: " ++ console.describe failure.message failure.cause?]

def records (console : Console) (step : Step Memory) : List String :=
  step.events.flatMap fun event => console.shown (.ofEvent event)

end Console

def ending {α : Type} (run : Run Memory α) : String :=
  match run.fault with
  | none => "Executed " ++ Numeral.decimal run.executed ++ " instructions"
  | some fault =>
    "Stopped after " ++ Numeral.decimal run.executed ++ " instructions: " ++ fault.message

def standing (cpu : Cpu) : String :=
  "IME=" ++ (if cpu.ime then "1" else "0") ++ " power=" ++ cpu.power.text

namespace Request

/-- A processor as switched on, before an image in otherwise empty memory. -/
def machine (request : Request) (image : List UInt8) : Machine Memory where
  cpu := (Cpu.ofConfig .default).setWord .pc request.address
  bus := Memory.zero.load request.address image

def perform (console : Console) (request : Request) (image : List UInt8) : Report :=
  let run := (request.machine image).run console.records request.steps
  { exitCode := 0
    output := [ending run, run.machine.cpu.regs.text, standing run.machine.cpu]
    errors := console.notices ++ run.records.toList }

def answer (console : Console) (request : Request) (contents : Except String (List UInt8)) :
    Report :=
  match contents with
  | .error cause => console.failed (.unreadable request.image cause)
  | .ok image =>
    if image.length > UInt16.size then console.failed (.tooLarge request.image image.length)
    else request.perform console image

end Request

/-- Runs what the command line asks for. The file is read only once the command line is known to be
in order. -/
def perform {m : Type → Type} [Monad m] (console : Console)
    (readFile : String → m (Except String (List UInt8))) (arguments : List String) : m Report :=
  match Request.ofArguments arguments with
  | .error failure => return console.failed failure
  | .ok request => return request.answer console (← readFile request.image)

end SM83.TraceTool
