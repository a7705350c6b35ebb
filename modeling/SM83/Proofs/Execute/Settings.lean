import SM83.Proofs.Execute.Control
import SM83.Proofs.Execute.Transfer
import SM83.Proofs.Run.Lockstep

/-! What decides how an instruction is executed besides the registers: the settings it depends on,
and nothing else. Whether interrupts are enabled and whether the processor runs is not looked at. -/
namespace SM83

/-- Two settings are the same wherever an instruction depends on them; most depend on none. -/
def Config.AgreeOn (one other : Config) : Instruction → Prop
  | .addHL _ => other.add16 = one.add16
  | .alu .or _ | .alu .xor _ => other.logic = one.logic
  | .rotateA _ => other.rotateA = one.rotateA
  | .rst _ => other.restart = one.restart
  | .stop => other.stop = one.stop
  | _ => True

/-- The initial state is not a setting that any instruction depends on. -/
theorem Config.agreeOn_initialState (config : Config) (initialState : InitialState)
    (instruction : Instruction) :
    config.AgreeOn { config with initialState } instruction := by
  unfold AgreeOn
  split <;> trivial

namespace Cpu

def withConfig (cpu : Cpu) (config : Config) : Cpu :=
  { cpu with config }

/-- The second processor has other settings and is the same in everything else. -/
def Reconfigured (one other : Config) (cpu twin : Cpu) : Prop :=
  cpu.config = one ∧ twin = cpu.withConfig other

/-- The second processor has the same registers. Settings and control of either are as given. -/
def Twinned (one other : Config) (control : Control) (cpu twin : Cpu) : Prop :=
  cpu.config = one ∧ twin = cpu.twin control other

variable (cpu : Cpu) (control : Control) (settings : Config)

theorem satisfies_twin (condition : Option Condition) :
    (cpu.twin control settings).satisfies condition = cpu.satisfies condition := by
  cases condition <;> rfl

theorem readSource_twin (source : Source) :
    (cpu.twin control settings).readSource source = cpu.readSource source := by
  cases source <;> rfl

theorem writeOperand_twin (target : Operand8) (value : UInt8) :
    (cpu.writeOperand target value).Alike (Twinned cpu.config settings control)
      ((cpu.twin control settings).writeOperand target value) := by
  intro σ _ bus
  cases target <;> exact ⟨⟨rfl, rfl⟩, rfl, rfl⟩

theorem update_twin (target : Operand8) (operation : Flags → UInt8 → UInt8 × Flags) :
    (cpu.update target operation).Alike (Twinned cpu.config settings control)
      ((cpu.twin control settings).update target operation) := by
  unfold update
  refine .bind_same fun value => ?_
  exact writeOperand_twin (cpu.setFlags (operation cpu.regs.flags value).2) control settings target _

theorem updateBits_twin (target : Operand8) (operation : UInt8 → UInt8) :
    (cpu.updateBits target operation).Alike (Twinned cpu.config settings control)
      ((cpu.twin control settings).updateBits target operation) := by
  unfold updateBits
  refine .bind_same fun value => ?_
  exact writeOperand_twin cpu control settings target _

theorem applyAlu_twin {op : AluOp} {source : Source} (value : UInt8)
    (agree : cpu.config.AgreeOn settings (.alu op source)) :
    Twinned cpu.config settings control (cpu.applyAlu op value)
      ((cpu.twin control settings).applyAlu op value) := by
  have same : op.apply settings.logic = op.apply cpu.config.logic := by
    cases op with
    | or | xor =>
      have rule : settings.logic = cpu.config.logic := agree
      rw [rule]
    | _ => rfl
  simp only [applyAlu, twin, same]
  generalize op.apply cpu.config.logic cpu.regs.flags (cpu.regs.byte .a) value = answer
  obtain ⟨result?, flags⟩ := answer
  cases result? <;> exact ⟨rfl, rfl⟩

theorem addToHL_twin (value : UInt16) (agree : settings.add16 = cpu.config.add16) :
    Twinned cpu.config settings control (cpu.addToHL value)
      ((cpu.twin control settings).addToHL value) := by
  simp only [addToHL, twin, agree]
  cases cpu.config.add16 <;> exact ⟨rfl, rfl⟩

theorem updateA_twin (operation : Flags → UInt8 → UInt8 × Flags) :
    (cpu.twin control settings).updateA operation =
      (cpu.updateA operation).twin control settings := rfl

theorem rotateA_twin (rotation : Rotation) (agree : settings.rotateA = cpu.config.rotateA) :
    Twinned cpu.config settings control (cpu.rotateA rotation)
      ((cpu.twin control settings).rotateA rotation) := by
  have kept : (cpu.updateA rotation.apply).config = cpu.config := rfl
  have rule : (cpu.twin control settings).config.rotateA = cpu.config.rotateA := agree
  unfold rotateA
  rw [updateA_twin, rule]
  generalize cpu.updateA rotation.apply = after at kept ⊢
  cases cpu.config.rotateA <;> exact ⟨kept, rfl⟩

/-- Processors with the same registers execute an instruction alike if their settings agree on it.
Afterwards they have the same registers again, and each its own settings; of interrupt enable and
power state an instruction leaves what it writes. -/
theorem execute_twin (instruction : Instruction)
    (agree : cpu.config.AgreeOn settings instruction) :
    (cpu.execute instruction).Alike (Twinned cpu.config settings (instruction.steer control))
      ((cpu.twin control settings).execute instruction) := by
  cases instruction with
  | stop =>
    have rule : settings.stop = cpu.config.stop := agree
    intro σ _ bus
    simp only [execute, stop, Action.observe_bind, twin, rule]
    cases cpu.config.stop <;> exact ⟨⟨rfl, rfl⟩, rfl, rfl⟩
  | di =>
    intro σ _ bus
    rw [execute, execute, observe_disableInterrupts, observe_disableInterrupts]
    exact ⟨⟨rfl, rfl⟩, rfl, rfl⟩
  | ei =>
    intro σ _ bus
    rw [execute, execute, observe_enableInterrupts, observe_enableInterrupts]
    exact ⟨⟨rfl, rfl⟩, rfl, rfl⟩
  | reti =>
    intro σ _ bus
    rw [execute, execute, observe_reti, observe_reti]
    exact ⟨⟨rfl, rfl⟩, rfl, rfl⟩
  | ld target source =>
    rw [execute, execute, readSource_twin]
    exact .bind_same fun value => writeOperand_twin cpu control settings target value
  | storeA place | loadA place =>
    intro σ _ bus
    cases place with
    | indirect pair => cases pair <;> exact ⟨⟨rfl, rfl⟩, rfl, rfl⟩
    | _ => exact ⟨⟨rfl, rfl⟩, rfl, rfl⟩
  | alu op source =>
    rw [execute, execute, readSource_twin]
    exact .bind_same fun value => .pure (applyAlu_twin cpu control settings value agree)
  | inc target | dec target | shift _ target =>
    rw [execute, execute]
    exact update_twin cpu control settings target _
  | res _ target | set _ target =>
    rw [execute, execute]
    exact updateBits_twin cpu control settings target _
  | bit index target =>
    rw [execute, execute]
    refine .bind_same fun value => ?_
    exact .pure ⟨rfl, rfl⟩
  | addHL source =>
    rw [execute, execute]
    exact .pure (addToHL_twin cpu control settings _ agree)
  | rotateA rotation =>
    rw [execute, execute]
    exact .pure (rotateA_twin cpu control settings rotation agree)
  | jp condition address | jr condition offset | call condition address | ret condition =>
    intro σ _ bus
    simp only [execute, satisfies_twin]
    split <;> exact ⟨⟨rfl, rfl⟩, rfl, rfl⟩
  | rst vector =>
    have rule : settings.restart = cpu.config.restart := agree
    intro σ _ bus
    simp only [execute, restart, twin, rule]
    cases cpu.config.restart <;> exact ⟨⟨rfl, rfl⟩, rfl, rfl⟩
  | _ =>
    intro σ _ bus
    exact ⟨⟨rfl, rfl⟩, rfl, rfl⟩

/-- The settings stay, and of interrupt enable and power state an instruction leaves what it
writes. -/
theorem execute_control {σ : Type} [Bus σ] (instruction : Instruction) (bus : σ) :
    let after := ((cpu.execute instruction).observe bus).value
    after.config = cpu.config ∧ after.control = instruction.steer cpu.control := by
  intro after
  have agree := cpu.config.agreeOn_initialState cpu.config.initialState instruction
  obtain ⟨config, same⟩ := (cpu.execute_twin cpu.control cpu.config instruction agree σ bus).value
  exact ⟨config, congrArg control same⟩

theorem readSource_withConfig (source : Source) :
    (cpu.withConfig settings).readSource source = cpu.readSource source :=
  cpu.readSource_twin cpu.control settings source

theorem updateA_withConfig (operation : Flags → UInt8 → UInt8 × Flags) :
    (cpu.withConfig settings).updateA operation = (cpu.updateA operation).withConfig settings := rfl

/-- Processors that differ in settings alone execute an instruction alike if the settings agree on
it, and then differ in settings alone again. -/
theorem execute_withConfig (instruction : Instruction)
    (agree : cpu.config.AgreeOn settings instruction) :
    (cpu.execute instruction).Alike (Reconfigured cpu.config settings)
      ((cpu.withConfig settings).execute instruction) := by
  intro σ _ bus
  obtain ⟨⟨config, twin⟩, buses, accesses⟩ :=
    cpu.execute_twin cpu.control settings instruction agree σ bus
  refine ⟨⟨config, ?_⟩, buses, accesses⟩
  rw [← (cpu.execute_control instruction bus).2] at twin
  exact twin

end Cpu
end SM83
