import SM83.Proofs.Registers.FlagMask
import SM83.Proofs.Run.Control

/-! What an instruction may do differently under other settings, and that nothing else ever does: a
step on flat memory finds the same and leaves the same, but for the flags, the return address or the
one byte by which the settings differ on that instruction. -/
namespace SM83

/-- Under either rule a disjunction gives the same byte and tells by the zero flag what it is. -/
theorem AluOp.apply_logical {op : AluOp} (logical : op = .or ∨ op = .xor) (flags : Flags)
    (a b : UInt8) :
    ∃ result, ∀ rule, ∃ after, op.apply rule flags a b = (some result, after) ∧
      after.zero = (result == 0) := by
  rcases logical with rfl | rfl
  · refine ⟨a ||| b, fun rule => ?_⟩
    cases rule <;> exact ⟨_, rfl, rfl⟩
  · refine ⟨a ^^^ b, fun rule => ?_⟩
    cases rule <;> exact ⟨_, rfl, rfl⟩

namespace Machine

/-- What an instruction may leave different if the settings do not agree on it; any other
instruction leaves nothing different. The stack pointer is the one before the instruction. -/
def Diverged (sp : UInt16) (one other : Machine Memory) : Instruction → Prop
  | .addHL _ => one.cpu.AlikeBut ⟨true, false, true, true⟩ other.cpu ∧ other.bus = one.bus
  | .alu .or _ | .alu .xor _ =>
    one.cpu.AlikeBut ⟨false, true, true, true⟩ other.cpu ∧ other.bus = one.bus
  | .rotateA _ => one.cpu.AlikeBut ⟨true, false, false, false⟩ other.cpu ∧ other.bus = one.bus
  | .rst _ =>
    other.cpu = one.cpu.setWord .sp other.cpu.regs.sp ∧
      ∀ address, address ≠ sp - 1 → address ≠ sp - 2 → other.bus.get address = one.bus.get address
  | .stop =>
    (other.cpu = one.cpu.setWord .pc (one.cpu.regs.pc + 1) ∨
      one.cpu = other.cpu.setWord .pc (other.cpu.regs.pc + 1)) ∧ other.bus = one.bus
  | _ => False

end Machine

namespace Cpu

variable (cpu : Cpu) (settings : Config)

theorem applyAlu_alikeBut {op : AluOp} (logical : op = .or ∨ op = .xor) (value : UInt8) :
    ((cpu.applyAlu op value).withConfig settings).AlikeBut ⟨false, true, true, true⟩
      ((cpu.withConfig settings).applyAlu op value) := by
  obtain ⟨result, shape⟩ := AluOp.apply_logical logical cpu.regs.flags (cpu.regs.byte .a) value
  obtain ⟨first, one, zero⟩ := shape cpu.config.logic
  obtain ⟨second, other, alsoZero⟩ := shape settings.logic
  have flags : Flags.AlikeBut ⟨false, true, true, true⟩ first second :=
    ⟨fun _ => alsoZero.trans zero.symm, by simp, by simp, by simp⟩
  simp only [applyAlu, withConfig, one, other]
  exact .setByte (.setFlags (.refl _ (cpu.withConfig settings)) flags) .a result (by decide)

theorem addToHL_eq (value : UInt16) :
    ∃ after : Flags, after.subtract = false ∧
      cpu.addToHL value = (cpu.setFlags after).setWord .hl (cpu.regs.word .hl + value) := by
  unfold addToHL
  cases cpu.config.add16 <;> exact ⟨_, rfl, rfl⟩

theorem addToHL_alikeBut (value : UInt16) :
    ((cpu.addToHL value).withConfig settings).AlikeBut ⟨true, false, true, true⟩
      ((cpu.withConfig settings).addToHL value) := by
  obtain ⟨first, clear, one⟩ := cpu.addToHL_eq value
  obtain ⟨second, alsoClear, other⟩ := (cpu.withConfig settings).addToHL_eq value
  have flags : Flags.AlikeBut ⟨true, false, true, true⟩ first second :=
    ⟨nofun, fun _ => alsoClear.trans clear.symm, nofun, nofun⟩
  rw [one, other]
  exact .setWord (.setFlags (.refl _ (cpu.withConfig settings)) flags) .hl _

/-- A rotation of A ends with a zero flag that the setting chooses. -/
theorem rotateA_eq (rotation : Rotation) :
    ∃ zero, cpu.rotateA rotation =
      let rotated := cpu.updateA rotation.apply
      rotated.setFlags { rotated.regs.flags with zero } := by
  unfold rotateA
  cases cpu.config.rotateA with
  | zeroCleared => exact ⟨false, rfl⟩
  | zeroFromResult =>
    -- Nothing is rewritten here, but to write the same flags again changes nothing either.
    refine ⟨(cpu.updateA rotation.apply).regs.flags.zero, ?_⟩
    exact congrArg cpu.setRegs (cpu.regs.setFlags_flags _ _).symm

theorem rotateA_alikeBut (rotation : Rotation) :
    ((cpu.rotateA rotation).withConfig settings).AlikeBut ⟨true, false, false, false⟩
      ((cpu.withConfig settings).rotateA rotation) := by
  obtain ⟨first, one⟩ := cpu.rotateA_eq rotation
  obtain ⟨second, other⟩ := (cpu.withConfig settings).rotateA_eq rotation
  rw [one, other, updateA_withConfig]
  generalize cpu.updateA rotation.apply = rotated
  exact .setFlags (.refl _ (rotated.withConfig settings))
    ⟨nofun, fun _ => rfl, fun _ => rfl, fun _ => rfl⟩

/-- Whatever the setting, a restart goes to its vector and leaves all as it was but the stack
pointer and the two bytes below it. -/
theorem observe_restart (vector : UInt8) (memory : Memory) :
    let restarted := (cpu.restart vector).observe memory
    (∃ sp, restarted.value = (cpu.setWord .sp sp).setWord .pc vector.toUInt16) ∧
      ∀ address, address ≠ cpu.regs.sp - 1 → address ≠ cpu.regs.sp - 2 →
        restarted.bus.get address = memory.get address := by
  unfold restart
  cases cpu.config.restart with
  | jumpOnly => exact ⟨⟨cpu.regs.sp, rfl⟩, fun _ _ _ => rfl⟩
  | pushReturn =>
    refine ⟨⟨cpu.regs.sp - 2, rfl⟩, ?_⟩
    intro address high low
    change ((memory.set (cpu.regs.sp - 1) _).set (cpu.regs.sp - 2) _).get address = _
    rw [Memory.get_set, if_neg low.symm, Memory.get_set, if_neg high.symm]

theorem stop_diverged (memory : Memory) (differ : settings.stop ≠ cpu.config.stop) :
    let one := cpu.stop.observe memory
    let other := (cpu.withConfig settings).stop.observe memory
    Machine.Diverged cpu.regs.sp ⟨one.value.withConfig settings, one.bus⟩
      ⟨other.value, other.bus⟩ .stop := by
  have twin : (cpu.withConfig settings).config.stop = settings.stop := rfl
  unfold stop
  rw [twin]
  generalize cpu.config.stop = first, settings.stop = second at differ ⊢
  cases first <;> cases second
  · exact absurd rfl differ
  · exact ⟨.inl rfl, rfl⟩
  · exact ⟨.inr rfl, rfl⟩
  · exact absurd rfl differ

/-- An instruction on which the settings do not agree is one of five kinds, and each confines what
differs after it. -/
theorem execute_diverged (instruction : Instruction) (memory : Memory)
    (differ : ¬cpu.config.AgreeOn settings instruction) :
    let one := (cpu.execute instruction).observe memory
    let other := ((cpu.withConfig settings).execute instruction).observe memory
    Machine.Diverged cpu.regs.sp ⟨one.value.withConfig settings, one.bus⟩
      ⟨other.value, other.bus⟩ instruction := by
  cases instruction with
  | stop => exact cpu.stop_diverged settings memory differ
  | alu op source =>
    simp only [execute, readSource_withConfig, Action.observe_bind, Observed.andThen,
      Action.observe_pure]
    cases op with
    | or => exact ⟨cpu.applyAlu_alikeBut settings (.inl rfl) _, rfl⟩
    | xor => exact ⟨cpu.applyAlu_alikeBut settings (.inr rfl) _, rfl⟩
    | _ => exact absurd trivial differ
  | addHL source =>
    simp only [execute, Action.observe_pure]
    exact ⟨cpu.addToHL_alikeBut settings _, rfl⟩
  | rotateA rotation =>
    simp only [execute, Action.observe_pure]
    exact ⟨cpu.rotateA_alikeBut settings rotation, rfl⟩
  | rst vector =>
    obtain ⟨⟨sp, one⟩, kept⟩ := cpu.observe_restart vector memory
    obtain ⟨⟨otherSp, other⟩, alsoKept⟩ := (cpu.withConfig settings).observe_restart vector memory
    simp only [execute, one, other]
    refine ⟨rfl, ?_⟩
    intro address high low
    exact (alsoKept address high low).trans (kept address high low).symm
  | _ => exact absurd trivial differ

end Cpu

namespace Machine

variable {σ : Type} [Bus σ]

variable {first second : Config} {one other : Machine σ}

/-- On any bus, machines whose processors differ in settings alone step alike if the settings agree
on the instruction that is found. -/
theorem step_reconfigured (start : Paired (Cpu.Reconfigured first second) one other)
    (agree : ∀ instruction, one.step.result = .ok instruction → first.AgreeOn second instruction) :
    Step.Alike (Paired (Cpu.Reconfigured first second)) one.step other.step := by
  obtain ⟨config, cpus⟩ := start.1
  refine step_alike start (by rw [cpus]; rfl) ?_
  intro instruction found
  have twin : other.fetched instruction = (one.fetched instruction).withConfig second := by
    rw [fetched, fetched, cpus]
    rfl
  have agrees : (one.fetched instruction).config.AgreeOn second instruction :=
    config ▸ agree instruction found
  have alike := (one.fetched instruction).execute_withConfig second instruction agrees
  rw [twin, ← config]
  exact alike

/-- Two machines that are the same but for the settings of their processors take the same step, and
all that differs afterwards is what the instruction leaves open by its own setting. The initial
state is not a setting of any instruction. So runs stay together, step by step, as long as they meet
no instruction on which the settings differ. -/
theorem settings_confined (cpu : Cpu) (settings : Config) (memory : Memory) :
    let one : Machine Memory := ⟨cpu, memory⟩
    let other : Machine Memory := ⟨cpu.withConfig settings, memory⟩
    let after : Machine Memory :=
      ⟨one.step.machine.cpu.withConfig settings, one.step.machine.bus⟩
    other.step.result = one.step.result ∧ one.step.machine.cpu.config = cpu.config ∧
    (∀ fault, one.step.result = .error fault → other.step.machine = after) ∧
    (∀ instruction, one.step.result = .ok instruction →
      (cpu.config.AgreeOn settings instruction → other.step.machine = after) ∧
      (¬cpu.config.AgreeOn settings instruction →
        Diverged cpu.regs.sp after other.step.machine instruction)) ∧
    (∀ initialState, settings = { cpu.config with initialState } → other.step.machine = after) ∧
    ∀ limit, (∀ step ∈ one.steps limit, ∀ instruction, step.result = .ok instruction →
        cpu.config.AgreeOn settings instruction) →
      Run.Alike (Paired (Cpu.Reconfigured cpu.config settings)) (one.history limit)
        (other.history limit) := by
  intro one other after
  have start : Paired (Cpu.Reconfigured cpu.config settings) one other := ⟨⟨rfl, rfl⟩, rfl⟩
  have together (agree : ∀ instruction, one.step.result = .ok instruction →
      cpu.config.AgreeOn settings instruction) : other.step.machine = after := by
    obtain ⟨⟨-, cpus⟩, buses⟩ := (step_reconfigured start agree).machine
    calc other.step.machine
      _ = ⟨other.step.machine.cpu, other.step.machine.bus⟩ := rfl
      _ = after := by rw [cpus, buses]
  have decoded : other.decoded = one.decoded := rfl
  refine ⟨?_, one.config_step, ?_, ?_, ?_, ?_⟩
  · rw [result_step, result_step, decoded]
  · intro fault failed
    apply together
    intro instruction found
    rw [failed] at found
    cases found
  · intro instruction found
    refine ⟨fun agree => together ?_, fun differ => ?_⟩
    · intro other same
      rw [found] at same
      cases same
      exact agree
    · rw [result_step] at found
      have diverged := (one.fetched instruction).execute_diverged settings instruction
        one.decoded.bus differ
      simp only [after]
      rw [step_of_decoded_ok found, step_of_decoded_ok (decoded ▸ found)]
      exact diverged
  · rintro initialState rfl
    exact together fun instruction _ => cpu.config.agreeOn_initialState initialState instruction
  · intro limit within
    exact history_alike (fun one other => step_reconfigured) start limit within

/-- A disjunction leaves A and memory the same under either rule, and behind two increments, which
depend on no setting, the machines are together. -/
theorem disjunction_confined :
    let cpu := (Cpu.ofConfig .default).setRegs { Registers.zero with af := 0x0110 }
    let memory := Memory.zero.set 0 0xB7
    let one : Machine Memory := ⟨cpu, memory⟩
    let other : Machine Memory := ⟨cpu.withConfig .hardware, memory⟩
    let counting := Memory.zero.load 0 [0x3C, 0x04]
    let first := (history ⟨cpu, counting⟩ 2).machine
    let second := (history ⟨cpu.withConfig .hardware, counting⟩ 2).machine
    one.step.result = .ok (.alu .or (.operand .a)) ∧
      other.step.machine.cpu.regs.byte .a = one.step.machine.cpu.regs.byte .a ∧
      other.step.machine.bus = one.step.machine.bus ∧
      second.cpu = first.cpu.withConfig .hardware ∧ second.bus = first.bus := by
  intro cpu memory one other counting first second
  have found : one.step.result = .ok (.alu .or (.operand .a)) := by
    simp only [one, cpu, memory]
    rfl
  have differ : ¬cpu.config.AgreeOn .hardware (.alu .or (.operand .a)) := nofun
  obtain ⟨-, -, -, steps, -, -⟩ := settings_confined cpu .hardware memory
  obtain ⟨alike, bus⟩ := (steps _ found).2 differ
  let counter : Machine Memory := ⟨cpu, counting⟩
  have counted : counter.step.result = .ok (.inc .a) := by
    simp only [counter, counting, cpu]
    rfl
  have countedOn : counter.step.machine.step.result = .ok (.inc .b) := by
    simp only [counter, counting, cpu]
    rfl
  obtain ⟨-, -, -, -, -, runs⟩ := settings_confined cpu .hardware counting
  have together :=
    runs 2 (forall_mem_steps_succ counted trivial (forall_mem_steps_one countedOn trivial))
  exact ⟨found, alike.regs.a, bus, together.machine.1.2, together.machine.2⟩

end Machine
end SM83
