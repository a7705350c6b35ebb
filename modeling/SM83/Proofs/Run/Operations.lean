import SM83.Proofs.Run.Control

/-! What is done to a processor over its life, in any order and any number: steps on one bus or
another, and the changes that are made to it from outside. Its settings stay as they were chosen;
interrupt enable and power state are what was last written to them. -/
namespace SM83

/-- The interrupt enable of an initial state. -/
def InitialState.ime : InitialState → Bool
  | powerOn => true
  | postBoot => false

inductive Operation (σ : Type) where
  | step
  /-- The bus is exchanged for another. -/
  | connect (bus : σ)
  | setIme (enabled : Bool)
  | wake
  | reset
  | setRegs (registers : Registers)
  | setByte (register : ByteRegister) (value : UInt8)
  | setWord (register : WordRegister) (value : UInt16)
  | setFlags (flags : Flags)
  | assignFlags (mask : Flags) (value : Bool)

theorem Cpu.value_wake {σ : Type} [Bus σ] (cpu : Cpu) (bus : σ) :
    (cpu.wake.observe bus).value = { cpu with power := .running } := by
  unfold wake
  split <;> rfl

/-- A reset and a fresh start set different fields first, and then the same ones. -/
theorem Cpu.reset_eq_ofConfig (cpu : Cpu) : cpu.reset = Cpu.ofConfig cpu.config := rfl

namespace Machine

variable {σ α : Type} [Bus σ]

def perform (machine : Machine σ) : Operation σ → Machine σ
  | .step => machine.step.machine
  | .connect bus => { machine with bus }
  | .setIme enabled => { machine with cpu := machine.cpu.setIme enabled }
  | .wake =>
    let woken := machine.cpu.wake.observe machine.bus
    ⟨woken.value, woken.bus⟩
  | .reset => { machine with cpu := machine.cpu.reset }
  | .setRegs registers => { machine with cpu := machine.cpu.setRegs registers }
  | .setByte register value => { machine with cpu := machine.cpu.setByte register value }
  | .setWord register value => { machine with cpu := machine.cpu.setWord register value }
  | .setFlags flags => { machine with cpu := machine.cpu.setFlags flags }
  | .assignFlags mask value =>
    { machine with cpu := machine.cpu.setRegs (machine.cpu.regs.assignFlags mask value) }

/-- The interrupt enable that an operation writes, if it does. -/
def writtenIme (machine : Machine σ) : Operation σ → Option Bool
  | .step =>
    match machine.step.result with
    | .ok instruction => instruction.ime?
    | .error _ => none
  | .setIme enabled => some enabled
  | .reset => some machine.cpu.config.initialState.ime
  | _ => none

/-- The power state that an operation writes, if it does. -/
def writtenPower (machine : Machine σ) : Operation σ → Option PowerState
  | .step =>
    match machine.step.result with
    | .ok instruction => instruction.power?
    | .error _ => none
  | .wake | .reset => some .running
  | _ => none

/-- What operations write one after the other, each on the machine that those before it leave. -/
def writes (written : Machine σ → Operation σ → Option α) :
    Machine σ → List (Operation σ) → List α
  | _, [] => []
  | machine, operation :: rest =>
    (written machine operation).toList ++ (machine.perform operation).writes written rest

theorem config_perform (machine : Machine σ) (operation : Operation σ) :
    (machine.perform operation).cpu.config = machine.cpu.config := by
  cases operation with
  | step => exact machine.config_step
  | wake => simp only [perform, Cpu.value_wake]
  | _ => rfl

theorem ime_ofConfig (config : Config) : (Cpu.ofConfig config).ime = config.initialState.ime := by
  unfold Cpu.ofConfig Cpu.enterInitialState
  cases config.initialState <;> rfl

theorem ime_perform (machine : Machine σ) (operation : Operation σ) :
    (machine.perform operation).cpu.ime =
      (machine.writtenIme operation).getD machine.cpu.ime := by
  cases operation with
  | step =>
    rw [perform, writtenIme]
    cases found : machine.step.result with
    | ok instruction => exact congrArg Control.ime (control_step_of_ok found)
    | error fault => exact congrArg Cpu.ime (cpu_step_of_error found)
  | wake => simp only [perform, Cpu.value_wake, writtenIme, Option.getD_none]
  | reset => exact ime_ofConfig machine.cpu.config
  | _ => rfl

theorem power_perform (machine : Machine σ) (operation : Operation σ) :
    (machine.perform operation).cpu.power =
      (machine.writtenPower operation).getD machine.cpu.power := by
  cases operation with
  | step =>
    rw [perform, writtenPower]
    cases found : machine.step.result with
    | ok instruction => exact congrArg Control.power (control_step_of_ok found)
    | error fault => exact congrArg Cpu.power (cpu_step_of_error found)
  | wake => simp only [perform, Cpu.value_wake, writtenPower, Option.getD_some]
  | _ => rfl

theorem config_performAll (machine : Machine σ) (operations : List (Operation σ)) :
    (operations.foldl perform machine).cpu.config = machine.cpu.config := by
  induction operations generalizing machine with
  | nil => rfl
  | cons operation rest ih => exact (ih _).trans (machine.config_perform operation)

/-- What every single operation either writes or leaves alone is in the end what was last written,
or what it was if nothing was. -/
theorem performAll_eq_last (field : Machine σ → α) {written : Machine σ → Operation σ → Option α}
    (single : ∀ machine operation,
      field (machine.perform operation) = (written machine operation).getD (field machine))
    (machine : Machine σ) (operations : List (Operation σ)) :
    field (operations.foldl perform machine) =
      (machine.writes written operations).getLastD (field machine) := by
  induction operations generalizing machine with
  | nil => rfl
  | cons operation rest ih =>
    rw [List.foldl_cons, ih, single, writes]
    cases written machine operation with
    | none => rfl
    | some value => exact (List.getLastD_cons ..).symm

/-- However a processor is used, its settings are those it was made with, its interrupt enable is
what was last written to it, by an instruction, from outside or by a reset, or else that of its
initial state, and its power state is what was last written to it, or else running. An operation
that writes none of these leaves them alone. -/
theorem control_is_last_written (config : Config) (bus : σ) (operations : List (Operation σ)) :
    let start : Machine σ := ⟨Cpu.ofConfig config, bus⟩
    let after := (operations.foldl perform start).cpu
    after.config = config ∧
    after.ime = (start.writes writtenIme operations).getLastD config.initialState.ime ∧
    after.power = (start.writes writtenPower operations).getLastD .running ∧
    ∀ (machine : Machine σ) (operation : Operation σ),
      let next := (machine.perform operation).cpu
      next.config = machine.cpu.config ∧
      next.ime = (machine.writtenIme operation).getD machine.cpu.ime ∧
      next.power = (machine.writtenPower operation).getD machine.cpu.power := by
  intro start after
  refine ⟨config_performAll start operations, ?_, ?_, ?_⟩
  · rw [← ime_ofConfig]
    exact performAll_eq_last (fun machine => machine.cpu.ime) ime_perform start operations
  · exact performAll_eq_last (fun machine => machine.cpu.power) power_perform start operations
  · intro machine operation next
    exact ⟨machine.config_perform operation, machine.ime_perform operation,
      machine.power_perform operation⟩

/-- What was done to a processor cannot be told any more once it is reset. -/
theorem reset_performAll (machine : Machine σ) (operations : List (Operation σ)) :
    (operations.foldl perform machine).cpu.reset = machine.cpu.reset := by
  rw [Cpu.reset_eq_ofConfig, Cpu.reset_eq_ofConfig, config_performAll]

/-- However a processor was used, after a reset its registers, interrupt enable, power state and
settings are those of a fresh one, and on any bus it takes the same steps as a fresh one, with the
same results, states and buses after each. -/
theorem reset_forgets_history (config : Config) (bus : σ) (operations : List (Operation σ)) :
    let fresh := Cpu.ofConfig config
    let used := operations.foldl perform ⟨fresh, bus⟩
    let again := (used.perform .reset).cpu
    (again.regs = fresh.regs ∧ again.ime = fresh.ime ∧ again.power = fresh.power ∧
      again.config = config) ∧
    ∀ {τ : Type} [Bus τ] (other : τ) (limit : Nat),
      history ⟨again, other⟩ limit = history ⟨fresh, other⟩ limit := by
  intro fresh used again
  have same : again = fresh := reset_performAll ⟨fresh, bus⟩ operations
  rw [same]
  exact ⟨⟨rfl, rfl, rfl, rfl⟩, fun _ _ => rfl⟩

end Machine
end SM83
