import SM83.Event

/-!
The processor's view of the outside. An action is what a processor does on a bus, one byte access
after the other, the records it makes between them, and the value it ends with; it does not know
the bus. Observing an action on a bus carries it out and tells every access in order. A bus may
change when it is read, and may answer anything.
-/

namespace SM83

/-- Something that answers reads and takes writes, one byte at a time. -/
class Bus (σ : Type) where
  read : UInt16 → σ → UInt8 × σ
  write : UInt16 → UInt8 → σ → σ

inductive Access where
  | read (address : UInt16) (value : UInt8)
  | write (address : UInt16) (value : UInt8)
deriving DecidableEq

/-- A finite sequence of accesses and records that ends with a value. What follows a read depends
on the byte read and on nothing else of the bus. -/
inductive Action (α : Type) where
  | done (value : α)
  | read (address : UInt16) (next : UInt8 → Action α)
  | write (address : UInt16) (value : UInt8) (next : Action α)
  | note (event : Event) (next : Action α)

/-- What an action did: its value, the bus it leaves, and its accesses and records in order. -/
structure Observed (σ α : Type) where
  value : α
  bus : σ
  accesses : List Access
  events : List Event

namespace Action

variable {σ α β : Type}

def bind (action : Action α) (next : α → Action β) : Action β :=
  match action with
  | done value => next value
  | read address rest => read address fun value => (rest value).bind next
  | write address value rest => write address value (rest.bind next)
  | note event rest => note event (rest.bind next)

instance : Monad Action where
  pure := done
  bind := bind

def observe [Bus σ] : Action α → σ → Observed σ α
  | done value, bus => ⟨value, bus, [], []⟩
  | read address next, bus =>
    let (value, bus) := Bus.read address bus
    let rest := (next value).observe bus
    { rest with accesses := .read address value :: rest.accesses }
  | write address value next, bus =>
    let rest := next.observe (Bus.write address value bus)
    { rest with accesses := .write address value :: rest.accesses }
  | note event next, bus =>
    let rest := next.observe bus
    { rest with events := event :: rest.events }

def readByte (address : UInt16) : Action UInt8 :=
  read address done

def writeByte (address : UInt16) (value : UInt8) : Action Unit :=
  write address value (done ())

def record (event : Event) : Action Unit :=
  note event (done ())

/-- Reads a word, the low byte at the address and the high byte behind it. -/
def readWord (address : UInt16) : Action UInt16 := do
  let low ← readByte address
  let high ← readByte (address + 1)
  return Word.ofBytes high low

/-- Writes a word, the low byte at the address and then the high byte behind it. -/
def writeWord (address value : UInt16) : Action Unit := do
  writeByte address (Word.low value)
  writeByte (address + 1) (Word.high value)

end Action

end SM83
