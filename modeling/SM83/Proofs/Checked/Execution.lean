import SM83.Proofs.Checked.Arithmetic
import SM83.Proofs.Execute.Transfer

/-! Execution with every check made: of the arithmetic, and of what is asserted of an instruction
before it is carried out. The decoder makes no instruction that the assertions refuse, so steps and
runs with the checks are those without them. -/
namespace SM83

namespace Action

variable {α β γ : Type}

theorem bind_done (action : Action α) : action.bind done = action := by
  induction action with
  | done value => rfl
  | read address rest ih => exact congrArg (read address) (funext ih)
  | write address value rest ih => exact congrArg (write address value) ih
  | note event rest ih => exact congrArg (note event) ih

theorem bind_bind (action : Action α) (first : α → Action β) (second : β → Action γ) :
    (action.bind first).bind second = action.bind fun value => (first value).bind second := by
  induction action with
  | done value => rfl
  | read address rest ih => exact congrArg (read address) (funext ih)
  | write address value rest ih => exact congrArg (write address value) ih
  | note event rest ih => exact congrArg (note event) ih

instance : LawfulMonad Action :=
  LawfulMonad.mk' Action bind_done (fun _ _ => rfl) bind_bind

theorem observe_map {σ : Type} [Bus σ] (f : α → β) (action : Action α) (bus : σ) :
    (f <$> action).observe bus =
      let observed := action.observe bus
      { observed with value := f observed.value } := by
  rw [map_eq_pure_bind, observe_bind]
  simp only [Observed.andThen, observe_pure, List.append_nil]

end Action

namespace Instruction

/-- What is asserted of an instruction: it does not load from memory to memory, and the vector of a
restart has no bit set outside its field. -/
def permitted : Instruction → Bool
  | ld .atHL (.operand .atHL) => false
  | rst vector => vector &&& ~~~0x38 == 0
  | _ => true

theorem WellFormed.permitted {instruction : Instruction} (formed : instruction.WellFormed) :
    instruction.permitted := by
  unfold Instruction.permitted
  split
  · exact absurd ⟨rfl, rfl⟩ formed
  case h_2 vector =>
    have vectors : ∀ vector : UInt8, (rst vector).WellFormed → vector &&& ~~~0x38 = 0 := by
      simp only [WellFormed]
      decide +kernel
    exact beq_iff_eq.mpr (vectors vector formed)
  · rfl

end Instruction

namespace Checked

def update (cpu : Cpu) (target : Operand8) (operation : Flags → UInt8 → Option (UInt8 × Flags)) :
    Action (Option Cpu) := do
  let value ← cpu.readOperand target
  match operation cpu.regs.flags value with
  | some (result, flags) => some <$> (cpu.setFlags flags).writeOperand target result
  | none => return none

def updateBits (cpu : Cpu) (target : Operand8) (operation : UInt8 → Option UInt8) :
    Action (Option Cpu) := do
  let value ← cpu.readOperand target
  match operation value with
  | some result => some <$> cpu.writeOperand target result
  | none => return none

def applyAlu (cpu : Cpu) (op : AluOp) (value : UInt8) : Option Cpu := do
  let (result?, flags) ← alu op cpu.config.logic cpu.regs.flags (cpu.regs.byte .a) value
  return match result? with
    | some result => (cpu.setFlags flags).setByte .a result
    | none => cpu.setFlags flags

def addToHL (cpu : Cpu) (value : UInt16) : Option Cpu := do
  let hl := cpu.regs.word .hl
  let (result, flags) ←
    match cpu.config.add16 with
    | .lowByte => add16 hl value
    | .hardware => add16Hardware cpu.regs.flags hl value
  return (cpu.setFlags flags).setWord .hl result

def offsetSP (cpu : Cpu) (target : WordRegister) (offset : Int8) : Option Cpu := do
  let (result, flags) ← addOffset (cpu.regs.word .sp) offset
  return (cpu.setFlags flags).setWord target result

/-- What an instruction does whose assertion holds. -/
def carryOut (cpu : Cpu) : Instruction → Action (Option Cpu)
  | .ldHLOffset offset => return offsetSP cpu .hl offset
  | .alu op source => do
    let value ← cpu.readSource source
    return applyAlu cpu op value
  | .inc target => update cpu target inc8
  | .dec target => update cpu target dec8
  | .addHL source => return addToHL cpu (cpu.regs.word source.register)
  | .addSP offset => return offsetSP cpu .sp offset
  | .bit index target => do
    let value ← cpu.readOperand target
    return cpu.setFlags <$> bitTest cpu.regs.flags value index
  | .res index target => updateBits cpu target (resetBit · index)
  | .set index target => updateBits cpu target (setBit · index)
  | instruction => some <$> cpu.execute instruction

/-- An instruction has no outcome if it may not be carried out or one of its checks fails. -/
def execute (cpu : Cpu) (instruction : Instruction) : Action (Option Cpu) :=
  if instruction.permitted then carryOut cpu instruction else return none

def step (cpu : Cpu) : Action (Option (Except IllegalOpcode (Instruction × Cpu))) := do
  let pc := cpu.regs.pc
  match ← decode pc with
  | .error fault =>
    Action.record (.illegal fault cpu.regs cpu.ime)
    return some (.error fault)
  | .ok instruction =>
    Action.record (.executing pc instruction)
    let after? ← execute (cpu.setWord .pc (pc + instruction.length)) instruction
    return after?.map fun after => .ok (instruction, after)

variable (cpu : Cpu)

theorem update_eq (target : Operand8) {checked : Flags → UInt8 → Option (UInt8 × Flags)}
    {operation : Flags → UInt8 → UInt8 × Flags}
    (answers : ∀ flags value, checked flags value = some (operation flags value)) :
    update cpu target checked = some <$> cpu.update target operation := by
  simp only [update, Cpu.update, answers, map_bind]

theorem updateBits_eq (target : Operand8) {checked : UInt8 → Option UInt8}
    {operation : UInt8 → UInt8} (answers : ∀ value, checked value = some (operation value)) :
    updateBits cpu target checked = some <$> cpu.updateBits target operation := by
  simp only [updateBits, Cpu.updateBits, answers, map_bind]

theorem applyAlu_eq (op : AluOp) (value : UInt8) :
    applyAlu cpu op value = some (cpu.applyAlu op value) := by
  rw [applyAlu, alu_eq]
  rfl

theorem addToHL_eq (value : UInt16) : addToHL cpu value = some (cpu.addToHL value) := by
  unfold addToHL Cpu.addToHL
  cases cpu.config.add16 with
  | lowByte => simp only [add16_eq]; rfl
  | hardware => simp only [add16Hardware_eq]; rfl

theorem offsetSP_eq (target : WordRegister) (offset : Int8) :
    offsetSP cpu target offset = some (cpu.offsetSP target offset) := by
  rw [offsetSP, addOffset_eq]
  rfl

/-- No check of the arithmetic fails, whatever the instruction and its operands. -/
theorem carryOut_eq (instruction : Instruction) :
    carryOut cpu instruction = some <$> cpu.execute instruction := by
  cases instruction with
  | ldHLOffset offset | addSP offset => rw [carryOut, offsetSP_eq]; rfl
  | alu op source => simp only [carryOut, applyAlu_eq, Cpu.execute, map_bind, map_pure]
  | inc target => rw [carryOut, update_eq cpu target inc8_eq, Cpu.execute]
  | dec target => rw [carryOut, update_eq cpu target dec8_eq, Cpu.execute]
  | addHL source => rw [carryOut, addToHL_eq]; rfl
  | bit index target => simp only [carryOut, bitTest_eq, Cpu.execute, map_bind, map_pure]; rfl
  | res index target => rw [carryOut, updateBits_eq cpu target (resetBit_eq · index), Cpu.execute]
  | set index target => rw [carryOut, updateBits_eq cpu target (setBit_eq · index), Cpu.execute]
  | _ => rfl

/-- A check fails exactly where an assertion does, and nothing has been read or written then. -/
theorem execute_eq (instruction : Instruction) :
    execute cpu instruction =
      if instruction.permitted then some <$> cpu.execute instruction else return none := by
  rw [execute, carryOut_eq]

example : execute cpu (.ld .atHL (.operand .atHL)) = return none := rfl

end Checked

namespace Machine

variable {σ : Type} [Bus σ]

/-- A step with the checks. -/
def checkedStep (machine : Machine σ) : Option (Step σ) :=
  let observed := (Checked.step machine.cpu).observe machine.bus
  observed.value.map fun
    | .ok (instruction, after) =>
      ⟨.ok instruction, ⟨after, observed.bus⟩, observed.accesses, observed.events⟩
    | .error fault =>
      ⟨.error fault, ⟨machine.cpu, observed.bus⟩, observed.accesses, observed.events⟩

/-- A number of steps with the checks, none if one fails. -/
def checkedAfter (machine : Machine σ) : Nat → Option (Machine σ)
  | 0 => some machine
  | steps + 1 => do
    let before ← machine.checkedAfter steps
    let step ← before.checkedStep
    return step.machine

variable {machine : Machine σ}

theorem permitted_of_ok {instruction : Instruction} (found : machine.step.result = .ok instruction) :
    instruction.permitted := by
  rw [result_step] at found
  exact (decode_ok found).1.permitted

theorem observe_checkedStep (machine : Machine σ) :
    (Checked.step machine.cpu).observe machine.bus =
      (some <$> machine.cpu.step).observe machine.bus := by
  simp only [Checked.step, Cpu.step, map_bind]
  rw [Action.observe_bind, Action.observe_bind]
  cases found : ((decode machine.cpu.regs.pc).observe machine.bus).value with
  | error fault =>
    simp only [Observed.andThen, found, map_bind, map_pure]
  | ok instruction =>
    have permitted : instruction.permitted := (decode_ok found).1.permitted
    simp only [Observed.andThen, found, map_bind, map_pure, Checked.execute_eq, if_pos permitted,
      bind_map_left, Option.map_some]

theorem checkedStep_eq (machine : Machine σ) : machine.checkedStep = some machine.step := by
  rw [checkedStep, observe_checkedStep, Action.observe_map]
  rfl

theorem checkedAfter_eq (machine : Machine σ) (steps : Nat) :
    machine.checkedAfter steps = some (machine.after steps) := by
  induction steps with
  | zero => rfl
  | succ steps ih =>
    rw [checkedAfter, ih, after]
    simp only [Option.bind_eq_bind, Option.bind_some, checkedStep_eq]
    rfl

/-- No check ever fails, whatever the state and the bus. A step finds no instruction that an
assertion refuses, and with the checks it comes out as it does without them; so does a run of any
length. Of all instructions, those included that cannot stand in memory, only the ones that the
assertions refuse fail a check: sums and differences stay within their types for all operands and
carries, and no bit is shifted by eight places. -/
theorem checks_never_fail (machine : Machine σ) :
    (∀ instruction, machine.step.result = .ok instruction →
      instruction ≠ .ld .atHL (.operand .atHL) ∧
        ∀ vector, instruction = .rst vector → vector &&& ~~~0x38 = 0) ∧
    machine.checkedStep = some machine.step ∧
    (∀ steps, machine.checkedAfter steps = some (machine.after steps)) ∧
    (∀ cpu instruction, Checked.execute cpu instruction =
      if instruction.permitted then some <$> cpu.execute instruction else return none) ∧
    (∀ carry a b, Checked.addWithCarry carry a b = some (Alu.addWithCarry carry a b) ∧
      Checked.subtractWithBorrow carry a b = some (Alu.subtractWithBorrow carry a b)) ∧
    (∀ flags x y, Checked.add16 x y = some (Alu.add16 x y) ∧
      Checked.add16Hardware flags x y = some (Alu.add16Hardware flags x y)) ∧
    (∀ base offset, Checked.addOffset base offset = some (Alu.addOffset base offset)) ∧
    ∀ index, Alu.bitPlace index < 8 ∧ Checked.bitMask index = some (Alu.bitMask index) := by
  refine ⟨fun instruction found => ?_, machine.checkedStep_eq, machine.checkedAfter_eq,
    Checked.execute_eq, fun carry a b => ?_, fun flags x y => ?_, Checked.addOffset_eq,
    fun index => ?_⟩
  · have permitted := permitted_of_ok found
    constructor
    · rintro rfl
      cases permitted
    · rintro vector rfl
      exact beq_iff_eq.mp permitted
  · exact ⟨Checked.addWithCarry_eq carry a b, Checked.subtractWithBorrow_eq carry a b⟩
  · exact ⟨Checked.add16_eq x y, Checked.add16Hardware_eq flags x y⟩
  · exact ⟨Opcode.mask_lt_eight index, Checked.bitMask_eq index⟩

/-- A restart at the last of the vectors, which pushes its return address over the first addresses. -/
theorem restart_passes_checks :
    let machine : Machine Feed := ⟨(Cpu.ofConfig .default).setWord .sp 1, ⟨[0xFF]⟩⟩
    machine.step.result = .ok (.rst 0x38) ∧ (0x38 : UInt8) &&& ~~~0x38 = 0 ∧
      machine.checkedAfter 1 = some (machine.after 1) := by
  intro machine
  have found : machine.step.result = .ok (.rst 0x38) := rfl
  obtain ⟨allowed, -, run, -⟩ := checks_never_fail machine
  exact ⟨found, (allowed _ found).2 _ rfl, run 1⟩

end Machine
end SM83
