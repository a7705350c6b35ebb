import SM83.Machine
import SM83.Memory

/-! What an observed action did, piece by piece: of two actions in a row the accesses and the
records follow each other, and on flat memory the accesses tell what the memory has become. -/
namespace SM83

variable {σ α β : Type}

namespace Observed

/-- What was observed first, and behind it what comes next on the bus that is left. -/
def andThen (first : Observed σ α) (next : α → σ → Observed σ β) : Observed σ β :=
  let second := next first.value first.bus
  { second with
    accesses := first.accesses ++ second.accesses
    events := first.events ++ second.events }

end Observed

namespace Action

@[simp] theorem observe_pure [Bus σ] (value : α) (bus : σ) :
    (pure value : Action α).observe bus = ⟨value, bus, [], []⟩ := rfl

@[simp] theorem observe_readByte [Bus σ] (address : UInt16) (bus : σ) :
    (readByte address).observe bus =
      let answer := Bus.read address bus
      ⟨answer.1, answer.2, [.read address answer.1], []⟩ := rfl

@[simp] theorem observe_record [Bus σ] (event : Event) (bus : σ) :
    (record event).observe bus = ⟨(), bus, [], [event]⟩ := rfl

theorem observe_bind [Bus σ] (action : Action α) (next : α → Action β) (bus : σ) :
    (action >>= next).observe bus =
      (action.observe bus).andThen fun value bus => (next value).observe bus := by
  change (action.bind next).observe bus = _
  induction action generalizing bus with
  | done value => rfl
  | read address rest ih => simp only [Action.bind, observe, ih]; rfl
  | write address value rest ih => simp only [Action.bind, observe, ih]; rfl
  | note event rest ih => simp only [Action.bind, observe, ih]; rfl

end Action

/-- A read of flat memory has no side effect. -/
@[simp] theorem Memory.bus_read (address : UInt16) (memory : Memory) :
    Bus.read address memory = (memory.get address, memory) := rfl

/-- What an access does to memory: reads leave it alone. -/
def Access.replay (memory : Memory) : Access → Memory
  | read _ _ => memory
  | write address value => memory.set address value

/-- The memory that an action leaves is what its writes make of the one before. -/
theorem Action.bus_observe (action : Action α) (memory : Memory) :
    (action.observe memory).bus = (action.observe memory).accesses.foldl Access.replay memory := by
  induction action generalizing memory with
  | done value => rfl
  | read address rest ih => exact ih _ memory
  | write address value rest ih => exact ih (memory.set address value)
  | note event rest ih => exact ih memory

/-- A byte that no access writes stays as it was. -/
theorem Memory.get_replay {accesses : List Access} {address : UInt16}
    (untouched : ∀ value, Access.write address value ∉ accesses) (memory : Memory) :
    (accesses.foldl Access.replay memory).get address = memory.get address := by
  induction accesses generalizing memory with
  | nil => rfl
  | cons access rest ih =>
    simp only [List.mem_cons, not_or] at untouched
    rw [List.foldl_cons, ih fun value => (untouched value).2]
    cases access with
    | read => rfl
    | write other value =>
      have different : other ≠ address := by
        rintro rfl
        exact (untouched value).1 rfl
      rw [Access.replay, get_set, if_neg different]

end SM83
