import SM83.Proofs.Run.Control

/-! The log of a run, as it can be read. Every step logs one entry about what it finds, and a second
one exactly if it changes the power state or the interrupt enable. So a reader who knows the
interrupt enable at the start knows it after every step. -/
namespace SM83

/-- A record as a reader of the log sees it. -/
structure Entry where
  level : Level
  text : String

namespace Entry

/-- The interrupt enable behind an entry, for a reader who goes by the text alone. -/
def follow (ime : Bool) (entry : Entry) : Bool :=
  if entry.level ≠ .debug then ime
  else if entry.text.startsWith "DI " then false
  else if entry.text.startsWith "EI " || entry.text.startsWith "RETI:" then true
  else ime

variable (ime : Bool) (rest : String)

theorem follow_halt : follow ime ⟨.debug, "HALT at PC=0x" ++ rest⟩ = ime := by
  simp [follow, String.startsWith_string_iff]

theorem follow_stop : follow ime ⟨.debug, "STOP at PC=0x" ++ rest⟩ = ime := by
  simp [follow, String.startsWith_string_iff]

theorem follow_di : follow ime ⟨.debug, "DI at PC=0x" ++ rest⟩ = false := by
  simp [follow, String.startsWith_string_iff]

theorem follow_ei : follow ime ⟨.debug, "EI at PC=0x" ++ rest⟩ = true := by
  simp [follow, String.startsWith_string_iff]

theorem follow_reti :
    follow ime ⟨.debug, "RETI: IME enabled, returning to 0x" ++ rest⟩ = true := by
  simp [follow, String.startsWith_string_iff]

end Entry

def Event.entry (event : Event) : Entry :=
  ⟨event.level, event.message⟩

def Step.log {σ : Type} (step : Step σ) : List Entry :=
  step.events.map Event.entry

namespace Cpu

/-- The entry about an illegal opcode at the program counter. -/
def faultEntry (cpu : Cpu) (opcode : UInt8) : Entry where
  level := .error
  text :=
    "GB CPU: " ++ ("illegal opcode 0x" ++ Numeral.hexByte opcode ++ " at 0x" ++
      Numeral.hexWord cpu.regs.pc) ++ " (SP=0x" ++ Numeral.hexWord cpu.regs.sp ++
      " AF=0x" ++ Numeral.hexWord cpu.regs.af ++ " BC=0x" ++ Numeral.hexWord cpu.regs.bc ++
      " DE=0x" ++ Numeral.hexWord cpu.regs.de ++ " HL=0x" ++ Numeral.hexWord cpu.regs.hl ++
      " IME=" ++ (if cpu.ime then "true" else "false") ++ ")"

/-- What is recorded of the change that an instruction at the program counter made, if it made
one. -/
def changeEvent? (before after : Cpu) (instruction : Instruction) : Option Event :=
  let changed (event : Event) := if after.ime = before.ime then none else some event
  match instruction with
  | .halt => some (.halted before.regs.pc)
  | .stop => some (.stopped before.regs.pc)
  | .di => changed (.interruptsDisabled before.regs.pc)
  | .ei => changed (.interruptsEnabled before.regs.pc)
  | .reti => changed (.interruptReturn after.regs.pc)
  | _ => none

/-- The text that the log has of such a change. -/
def changeText? (before after : Cpu) (instruction : Instruction) : Option String :=
  let address := Numeral.hexWord before.regs.pc
  let changed (text : String) := if after.ime = before.ime then none else some text
  match instruction with
  | .halt => some ("HALT at PC=0x" ++ address)
  | .stop => some ("STOP at PC=0x" ++ address)
  | .di => changed ("DI at PC=0x" ++ address)
  | .ei => changed ("EI at PC=0x" ++ address)
  | .reti => changed ("RETI: IME enabled, returning to 0x" ++ Numeral.hexWord after.regs.pc)
  | _ => none

theorem entry_changeEvent? (before after : Cpu) (instruction : Instruction) :
    (before.changeEvent? after instruction).toList.map Event.entry =
      (before.changeText? after instruction).toList.map (Entry.mk .debug) := by
  cases instruction with
  | di | ei | reti =>
    simp only [changeEvent?, changeText?]
    split <;> rfl
  | _ => rfl

variable {σ : Type} [Bus σ] (cpu : Cpu) (bus : σ)

theorem events_stop : (cpu.stop.observe bus).events = [.stopped cpu.ownAddress] := by
  unfold stop
  cases cpu.config.stop <;> rfl

theorem events_writeOperand (target : Operand8) (value : UInt8) :
    ((cpu.writeOperand target value).observe bus).events = [] := by
  cases target <;> rfl

theorem events_readOperand (operand : Operand8) :
    ((cpu.readOperand operand).observe bus).events = [] := by
  cases operand <;> rfl

theorem events_readSource (source : Source) : ((cpu.readSource source).observe bus).events = [] := by
  cases source with
  | operand operand => exact cpu.events_readOperand bus operand
  | immediate value => rfl

theorem events_update (target : Operand8) (operation : Flags → UInt8 → UInt8 × Flags) :
    ((cpu.update target operation).observe bus).events = [] := by
  cases target <;> rfl

theorem events_updateBits (target : Operand8) (operation : UInt8 → UInt8) :
    ((cpu.updateBits target operation).observe bus).events = [] := by
  cases target <;> rfl

/-- What an instruction records when it is executed. -/
theorem events_execute (instruction : Instruction) :
    let executed := (cpu.execute instruction).observe bus
    executed.events =
      match instruction with
      | .halt => [.halted cpu.ownAddress]
      | .stop => [.stopped cpu.ownAddress]
      | .di => if cpu.ime then [.interruptsDisabled cpu.ownAddress] else []
      | .ei => if cpu.ime then [] else [.interruptsEnabled cpu.ownAddress]
      | .reti => if cpu.ime then [] else [.interruptReturn executed.value.regs.pc]
      | _ => [] := by
  intro executed
  cases instruction with
  | stop => exact cpu.events_stop bus
  | di => exact congrArg Observed.events (cpu.observe_disableInterrupts bus)
  | ei => exact congrArg Observed.events (cpu.observe_enableInterrupts bus)
  | reti =>
    have observed := cpu.observe_reti bus
    change (cpu.reti.observe bus).events = _
    simp only [executed, execute, observed]
    rfl
  | ld target source =>
    simp only [executed, execute, Action.observe_bind, Observed.andThen, events_readSource,
      events_writeOperand, List.append_nil]
  | alu op source =>
    simp only [executed, execute, Action.observe_bind, Observed.andThen, events_readSource,
      Action.observe_pure, List.append_nil]
  | bit index target =>
    simp only [executed, execute, Action.observe_bind, Observed.andThen, events_readOperand,
      Action.observe_pure, List.append_nil]
  | inc target | dec target | shift _ target => simp only [executed, execute, events_update]
  | res _ target | set _ target => simp only [executed, execute, events_updateBits]
  | call condition address | ret condition =>
    simp only [executed, execute]
    split <;> rfl
  | rst vector =>
    simp only [executed, execute, restart]
    cases cpu.config.restart <;> rfl
  | _ => rfl

theorem isSome_changeText?_iff {before after : Cpu} {instruction : Instruction}
    (steered : after.ime = instruction.ime?.getD before.ime) :
    (before.changeText? after instruction).isSome ↔
      instruction = .halt ∨ instruction = .stop ∨ after.ime ≠ before.ime := by
  cases instruction with
  | halt | stop => simp [changeText?]
  | di | ei | reti => by_cases same : after.ime = before.ime <;> simp [changeText?, same]
  | _ =>
    have same : after.ime = before.ime := steered
    simp [changeText?, same]

/-- The interrupt enable before an instruction and what is logged of its change tell the one behind
it. -/
theorem follow_changeText {before after : Cpu} {instruction : Instruction}
    (steered : after.ime = instruction.ime?.getD before.ime) :
    ((before.changeText? after instruction).toList.map (Entry.mk .debug)).foldl Entry.follow
      before.ime = after.ime := by
  -- Where nothing is logged although the instruction writes it, it was that before.
  have told {text : String} (reads : Entry.follow before.ime ⟨.debug, text⟩ = after.ime) :
      ((if after.ime = before.ime then none else some text).toList.map
        (Entry.mk .debug)).foldl Entry.follow before.ime = after.ime := by
    by_cases same : after.ime = before.ime
    · rw [if_pos same]
      exact same.symm
    · rw [if_neg same]
      exact reads
  cases instruction with
  | halt => exact (Entry.follow_halt _ _).trans steered.symm
  | stop => exact (Entry.follow_stop _ _).trans steered.symm
  | di => exact told ((Entry.follow_di _ _).trans steered.symm)
  | ei => exact told ((Entry.follow_ei _ _).trans steered.symm)
  | reti => exact told ((Entry.follow_reti _ _).trans steered.symm)
  | _ => exact steered.symm

end Cpu

namespace Machine

variable {σ : Type} [Bus σ] {machine : Machine σ} {instruction : Instruction}

/-- The log of a number of steps, those included that find no instruction. -/
def log (machine : Machine σ) : Nat → List Entry
  | 0 => []
  | steps + 1 => machine.log steps ++ (machine.after steps).step.log

theorem fault_of_error {fault : IllegalOpcode} (failed : machine.step.result = .error fault) :
    fault = ⟨(Bus.read machine.cpu.regs.pc machine.bus).1, machine.cpu.regs.pc⟩ := by
  rw [result_step, decoded, decode, Action.observe_bind] at failed
  simp only [Observed.andThen, Action.observe_readByte] at failed
  split at failed
  case h_4 => exact (Except.error.inj failed).symm
  all_goals cases failed

theorem events_of_error {fault : IllegalOpcode} (failed : machine.step.result = .error fault) :
    machine.step.events = [.illegal fault machine.cpu.regs machine.cpu.ime] := by
  rw [result_step] at failed
  rw [step_of_decoded_error failed]

theorem log_of_error {fault : IllegalOpcode} (failed : machine.step.result = .error fault) :
    machine.step.log =
      [machine.cpu.faultEntry (Bus.read machine.cpu.regs.pc machine.bus).1] := by
  rw [Step.log, events_of_error failed, fault_of_error failed]
  rfl

omit [Bus σ] in
/-- An instruction of one byte is one byte before the counter that stands behind it. -/
theorem ownAddress_fetched (short : instruction.length = 1) :
    (machine.fetched instruction).ownAddress = machine.cpu.regs.pc := by
  change machine.cpu.regs.pc + instruction.length - 1 = _
  rw [short, UInt16.add_sub_cancel]

theorem events_of_ok (found : machine.step.result = .ok instruction) :
    machine.step.events =
      .executing machine.cpu.regs.pc instruction ::
        (machine.cpu.changeEvent? machine.step.machine.cpu instruction).toList := by
  let after := machine.step.machine.cpu
  have steered : after.ime = (instruction.steer machine.cpu.control).ime :=
    congrArg Control.ime (control_step_of_ok found)
  rw [result_step] at found
  have reached : after = (machine.executed instruction).value := by
    simp only [after, step_of_decoded_ok found]
  have events : (machine.executed instruction).events = _ :=
    (machine.fetched instruction).events_execute machine.decoded.bus instruction
  change machine.step.events = _ :: (machine.cpu.changeEvent? after instruction).toList
  rw [step_of_decoded_ok found, events]
  refine congrArg (Event.executing _ _ :: ·) ?_
  have kept : (machine.fetched instruction).ime = machine.cpu.ime := rfl
  simp only [Cpu.changeEvent?, kept, steered]
  cases instruction with
  | halt | stop => rw [ownAddress_fetched rfl]; rfl
  | di | ei =>
    rw [ownAddress_fetched rfl]
    cases machine.cpu.ime <;> rfl
  | reti =>
    rw [reached]
    cases machine.cpu.ime <;> rfl
  | _ => rfl

theorem log_of_ok (found : machine.step.result = .ok instruction) :
    machine.step.log =
      ⟨.trace, Numeral.hexWord machine.cpu.regs.pc ++ ": " ++ instruction.text⟩ ::
        (machine.cpu.changeText? machine.step.machine.cpu instruction).toList.map
          (Entry.mk .debug) := by
  rw [Step.log, events_of_ok found, List.map_cons, Cpu.entry_changeEvent?]
  rfl

theorem follow_log_step (machine : Machine σ) :
    machine.step.log.foldl Entry.follow machine.cpu.ime = machine.step.machine.cpu.ime := by
  cases found : machine.step.result with
  | error fault =>
    rw [log_of_error found, cpu_step_of_error found]
    rfl
  | ok instruction =>
    rw [log_of_ok found, List.foldl_cons]
    exact Cpu.follow_changeText (congrArg Control.ime (control_step_of_ok found))

theorem follow_log (machine : Machine σ) (steps : Nat) :
    (machine.log steps).foldl Entry.follow machine.cpu.ime = (machine.after steps).cpu.ime := by
  induction steps with
  | zero => rfl
  | succ steps ih => rw [log, List.foldl_append, ih, follow_log_step, after]

theorem steers_of_changed (found : machine.step.result = .ok instruction)
    (changed : machine.step.machine.cpu.ime ≠ machine.cpu.ime) :
    instruction = .di ∨ instruction = .ei ∨ instruction = .reti := by
  have steered : machine.step.machine.cpu.ime = (instruction.steer machine.cpu.control).ime :=
    congrArg Control.ime (control_step_of_ok found)
  cases instruction with
  | di => exact .inl rfl
  | ei => exact .inr (.inl rfl)
  | reti => exact .inr (.inr rfl)
  | _ => exact absurd steered changed

/-- A step that fails changes nothing in the processor and records one error, with the opcode, its
address, the registers and the interrupt enable. A step that succeeds records the instruction with
its address, and behind that one change if it is a halt, a stop or a change of the interrupt enable,
which only three instructions make. The log has the same as texts, and from it and the interrupt
enable at the start alone the interrupt enable is known after any number of steps. -/
theorem log_is_faithful (machine : Machine σ) :
    let before := machine.cpu
    let after := machine.step.machine.cpu
    (∀ fault, machine.step.result = .error fault →
      let opcode := (Bus.read before.regs.pc machine.bus).1
      fault = ⟨opcode, before.regs.pc⟩ ∧ after = before ∧
        machine.step.events = [.illegal ⟨opcode, before.regs.pc⟩ before.regs before.ime] ∧
        machine.step.log = [before.faultEntry opcode]) ∧
    (∀ instruction, machine.step.result = .ok instruction →
      machine.step.events =
          .executing before.regs.pc instruction ::
            (before.changeEvent? after instruction).toList ∧
        machine.step.log =
          ⟨.trace, Numeral.hexWord before.regs.pc ++ ": " ++ instruction.text⟩ ::
            (before.changeText? after instruction).toList.map (Entry.mk .debug) ∧
        ((before.changeText? after instruction).isSome ↔
          instruction = .halt ∨ instruction = .stop ∨ after.ime ≠ before.ime) ∧
        (after.ime ≠ before.ime →
          instruction = .di ∨ instruction = .ei ∨ instruction = .reti)) ∧
    ∀ steps, (machine.log steps).foldl Entry.follow before.ime = (machine.after steps).cpu.ime := by
  intro before after
  refine ⟨?_, ?_, machine.follow_log⟩
  · intro fault failed opcode
    have found := fault_of_error failed
    exact ⟨found, cpu_step_of_error failed, found ▸ events_of_error failed, log_of_error failed⟩
  · intro instruction found
    have steered := congrArg Control.ime (control_step_of_ok found)
    exact ⟨events_of_ok found, log_of_ok found, Cpu.isSome_changeText?_iff steered,
      steers_of_changed found⟩

/-- Interrupts are disabled at the last address, and an illegal opcode stands at the first. -/
theorem disabled_at_last_address :
    let machine : Machine Feed :=
      ⟨(Cpu.ofConfig .default).setWord .pc 0xFFFF, ⟨[0xF3, 0xD3]⟩⟩
    let next := machine.step.machine
    machine.step.events = [.executing 0xFFFF .di, .interruptsDisabled 0xFFFF] ∧
      machine.step.log =
        [⟨.trace, Numeral.hexWord 0xFFFF ++ ": " ++ "DI"⟩,
          ⟨.debug, "DI at PC=0x" ++ Numeral.hexWord 0xFFFF⟩] ∧
      next.step.log = [next.cpu.faultEntry 0xD3] ∧
      (machine.log 2).foldl Entry.follow true = false := by
  intro machine next
  obtain ⟨-, found, follows⟩ := log_is_faithful machine
  obtain ⟨failed, -, -⟩ := log_is_faithful next
  obtain ⟨events, log, -, -⟩ := found .di rfl
  exact ⟨events, log, (failed ⟨0xD3, 0⟩ rfl).2.2.2, follows 2⟩

end Machine
end SM83
