import SM83.Proofs.Execute.FlagUse
import SM83.Proofs.Execute.Transfer
import SM83.Proofs.Registers.Confined
import SM83.Proofs.Run.Lockstep

/-! Flags that an instruction does not use do not matter to it. Processors that differ in such flags
do the same, and go on differing in those flags at most. -/
namespace SM83

theorem Operand16.register_ne_af (operand : Operand16) : operand.register ≠ .af := by
  cases operand <;> decide

namespace Cpu.AlikeBut

variable {mask : Flags} {one other : Cpu}

theorem readOperand (alike : AlikeBut mask one other) (operand : Operand8) :
    other.readOperand operand = one.readOperand operand := by
  unfold Cpu.readOperand
  cases named : operand.register? with
  | none => rw [alike.regs.word (by decide)]
  | some register => exact congrArg pure (alike.regs.byte (Operand8.register_ne_f named))

theorem readSource (alike : AlikeBut mask one other) (source : Source) :
    other.readSource source = one.readSource source := by
  cases source with
  | operand operand => exact alike.readOperand operand
  | immediate value => rfl

theorem writeOperand (alike : AlikeBut mask one other) (target : Operand8) (value : UInt8) :
    (one.writeOperand target value).Alike (AlikeBut mask) (other.writeOperand target value) := by
  unfold Cpu.writeOperand
  cases named : target.register? with
  | none =>
    rw [alike.regs.word (by decide)]
    exact .bind_same fun _ => .pure alike
  | some register => exact .pure (alike.setByte register value (Operand8.register_ne_f named))

variable {operation : Flags → UInt8 → UInt8 × Flags}

theorem update (alike : AlikeBut mask one other) (steady : Flags.Steady mask operation)
    (target : Operand8) :
    (one.update target operation).Alike (AlikeBut mask) (other.update target operation) := by
  unfold Cpu.update
  rw [alike.readOperand target]
  refine .bind_same fun value => ?_
  obtain ⟨result, flags⟩ := steady _ _ value alike.regs.flags
  change Action.Alike _ _
    ((other.setFlags _).writeOperand target (operation other.regs.flags value).1)
  rw [result]
  exact (alike.setFlags flags).writeOperand target _

theorem updateBits (alike : AlikeBut mask one other) (target : Operand8)
    (operation : UInt8 → UInt8) :
    (one.updateBits target operation).Alike (AlikeBut mask)
      (other.updateBits target operation) := by
  unfold Cpu.updateBits
  rw [alike.readOperand target]
  exact .bind_same fun value => alike.writeOperand target _

theorem updateA (alike : AlikeBut mask one other) (steady : Flags.Steady mask operation) :
    AlikeBut mask (one.updateA operation) (other.updateA operation) := by
  obtain ⟨result, flags⟩ := steady _ _ (one.regs.byte .a) alike.regs.flags
  unfold Cpu.updateA
  rw [alike.regs.a]
  change AlikeBut mask _ ((other.setFlags _).setByte .a (operation other.regs.flags _).1)
  rw [result]
  exact (alike.setFlags flags).setByte .a _ (by decide)

theorem applyAlu (alike : AlikeBut mask one other) {op : AluOp} {source : Source}
    (apart : (Instruction.alu op source).usedFlags.Apart mask) (value : UInt8) :
    AlikeBut mask (one.applyAlu op value) (other.applyAlu op value) := by
  obtain ⟨result, flags⟩ := alike.regs.flags.apply apart one.config.logic (one.regs.byte .a) value
  unfold Cpu.applyAlu
  rw [alike.config, alike.regs.a]
  generalize op.apply _ one.regs.flags _ value = first, op.apply _ other.regs.flags _ value = second
    at result flags ⊢
  obtain ⟨_, before⟩ := first
  obtain ⟨result?, after⟩ := second
  obtain rfl : result? = _ := result
  cases result? with
  | none => exact alike.setFlags flags
  | some result => exact (alike.setFlags flags).setByte .a result (by decide)

theorem addToHL (alike : AlikeBut mask one other) (value : UInt16) :
    AlikeBut mask (one.addToHL value) (other.addToHL value) := by
  unfold Cpu.addToHL
  rw [alike.config, alike.regs.word (by decide)]
  cases one.config.add16 with
  | lowByte => exact (alike.setFlags (.refl mask _)).setWord .hl _
  | hardware =>
    have flags := alike.regs.flags
    refine (alike.setFlags ?_).setWord .hl _
    exact ⟨flags.zero, fun _ => rfl, fun _ => rfl, fun _ => rfl⟩

theorem offsetSP (alike : AlikeBut mask one other) (target : WordRegister) (offset : Int8) :
    AlikeBut mask (one.offsetSP target offset) (other.offsetSP target offset) := by
  unfold Cpu.offsetSP
  rw [alike.regs.word (by decide)]
  exact (alike.setFlags (.refl mask _)).setWord target _

theorem rotateA (alike : AlikeBut mask one other) {rotation : Rotation}
    (apart : (Instruction.rotateA rotation).usedFlags.Apart mask) :
    AlikeBut mask (one.rotateA rotation) (other.rotateA rotation) := by
  have rotated := alike.updateA (Flags.steady_rotation apart)
  have flags := rotated.regs.flags
  unfold Cpu.rotateA
  rw [alike.config]
  cases one.config.rotateA with
  | zeroFromResult => exact rotated
  | zeroCleared =>
    exact rotated.setFlags ⟨fun _ => rfl, flags.subtract, flags.halfCarry, flags.carry⟩

theorem complement (alike : AlikeBut mask one other) :
    AlikeBut mask one.complement other.complement := by
  have inverted := alike.setByte .a (~~~one.regs.byte .a) (by decide)
  have flags := inverted.regs.flags
  unfold Cpu.complement
  rw [alike.regs.a]
  exact inverted.setFlags ⟨flags.zero, fun _ => rfl, fun _ => rfl, flags.carry⟩

theorem setCarry (alike : AlikeBut mask one other) {first second : Bool}
    (carry : mask.carry = false → second = first) :
    AlikeBut mask (one.setCarry first) (other.setCarry second) :=
  alike.setFlags ⟨alike.regs.flags.zero, fun _ => rfl, fun _ => rfl, carry⟩

theorem locate (alike : AlikeBut mask one other) (place : Place) :
    (other.locate place).1 = (one.locate place).1 ∧
      AlikeBut mask (one.locate place).2 (other.locate place).2 := by
  have hl := alike.regs.hl
  cases place with
  | indirect pair =>
    cases pair with
    | bc => exact ⟨alike.regs.bc, alike⟩
    | de => exact ⟨alike.regs.de, alike⟩
    | hlInc | hlDec =>
      simp only [Cpu.locate, Registers.word, hl]
      exact ⟨trivial, alike.setWord .hl _⟩
  | absolute address => exact ⟨rfl, alike⟩
  | high offset => exact ⟨rfl, alike⟩
  | highC => exact ⟨congrArg (lastPage ||| UInt8.toUInt16 ·) (alike.regs.byte (by decide)), alike⟩

theorem pushWord (alike : AlikeBut mask one other) (value : UInt16) :
    (one.pushWord value).Alike (AlikeBut mask) (other.pushWord value) := by
  unfold Cpu.pushWord
  rw [alike.regs.word (by decide)]
  exact .bind_same fun _ => .bind_same fun _ => .pure (alike.setWord .sp _)

theorem popWord (alike : AlikeBut mask one other) :
    one.popWord.Alike (fun first second => second.1 = first.1 ∧ AlikeBut mask first.2 second.2)
      other.popWord := by
  unfold Cpu.popWord
  rw [alike.regs.word (by decide)]
  exact .bind_same fun value => .pure ⟨rfl, alike.setWord .sp _⟩

theorem satisfies (alike : AlikeBut mask one other) {condition : Option Condition}
    (apart : (condition.elim .clear Condition.testedFlags).Apart mask) :
    other.satisfies condition = one.satisfies condition := by
  cases condition with
  | none => rfl
  | some condition => exact alike.regs.flags.holds apart

theorem word_pair (alike : AlikeBut mask one other) {pair : StackPair}
    (apart : (Instruction.push pair).usedFlags.Apart mask) :
    other.regs.word pair.register = one.regs.word pair.register := by
  cases pair with
  | af => exact alike.regs.af (alike.regs.flags.eq_of_apart apart)
  | bc | de | hl => exact alike.regs.word (by decide)

theorem jumpBy (alike : AlikeBut mask one other) (offset : Int8) :
    AlikeBut mask (one.jumpBy offset) (other.jumpBy offset) := by
  unfold Cpu.jumpBy
  rw [alike.regs.pc]
  exact alike.setWord .pc _

theorem call (alike : AlikeBut mask one other) (address : UInt16) :
    (one.call address).Alike (AlikeBut mask) (other.call address) := by
  unfold Cpu.call
  rw [alike.regs.pc]
  exact .bind (alike.pushWord _) fun first second pushed => .pure (pushed.setWord .pc address)

theorem ret (alike : AlikeBut mask one other) :
    one.ret.Alike (AlikeBut mask) other.ret := by
  unfold Cpu.ret
  refine .bind alike.popWord ?_
  rintro ⟨address, first⟩ ⟨_, second⟩ ⟨same, popped⟩
  obtain rfl : _ = address := same
  exact .pure (popped.setWord .pc _)

theorem stop (alike : AlikeBut mask one other) :
    one.stop.Alike (AlikeBut mask) other.stop := by
  unfold Cpu.stop
  rw [alike.config, alike.regs.pc]
  refine .bind (.record _ _) fun _ _ _ => .pure ?_
  cases one.config.stop with
  | single => exact ⟨alike.regs, alike.ime, rfl, alike.config⟩
  | withPadding => exact ⟨alike.regs.setWord .pc _, alike.ime, rfl, alike.config⟩

theorem halt (alike : AlikeBut mask one other) :
    one.halt.Alike (AlikeBut mask) other.halt := by
  unfold Cpu.halt
  exact .bind (.record _ _) fun _ _ _ => .pure ⟨alike.regs, alike.ime, rfl, alike.config⟩

/-- An instruction that uses none of the flags in the mask does the same whatever they are, and
keeps all else the same. -/
theorem execute (alike : AlikeBut mask one other) (instruction : Instruction)
    (apart : instruction.usedFlags.Apart mask) :
    (one.execute instruction).Alike (AlikeBut mask) (other.execute instruction) := by
  cases instruction with
  | nop => exact .pure alike
  | stop => exact alike.stop
  | halt => exact alike.halt
  | di =>
    intro σ _ bus
    rw [Cpu.execute, Cpu.execute, observe_disableInterrupts, observe_disableInterrupts]
    exact ⟨alike.setIme false, rfl, rfl⟩
  | ei =>
    intro σ _ bus
    rw [Cpu.execute, Cpu.execute, observe_enableInterrupts, observe_enableInterrupts]
    exact ⟨alike.setIme true, rfl, rfl⟩
  | ld target source =>
    rw [Cpu.execute, Cpu.execute, alike.readSource source]
    exact .bind_same fun value => alike.writeOperand target value
  | storeA place =>
    obtain ⟨address, stepped⟩ := alike.locate place
    change Action.Alike _ _
      (Action.writeByte (other.locate place).1 ((other.locate place).2.regs.byte .a) >>= _)
    rw [address, stepped.regs.a]
    exact .bind_same fun _ => .pure stepped
  | loadA place =>
    obtain ⟨address, stepped⟩ := alike.locate place
    change Action.Alike _ _ (Action.readByte (other.locate place).1 >>= _)
    rw [address]
    exact .bind_same fun value => .pure (stepped.setByte .a value (by decide))
  | ldImmediate16 target value => exact .pure (alike.setWord _ value)
  | storeSP address =>
    rw [Cpu.execute, Cpu.execute, alike.regs.word (by decide)]
    exact .bind_same fun _ => .pure alike
  | ldSPHL =>
    rw [Cpu.execute, Cpu.execute, alike.regs.word (by decide)]
    exact .pure (alike.setWord .sp _)
  | ldHLOffset offset => exact .pure (alike.offsetSP .hl offset)
  | push pair =>
    -- Memory gets to see the flags here, and only through AF.
    rw [Cpu.execute, Cpu.execute, alike.word_pair apart]
    exact alike.pushWord _
  | pop pair =>
    refine .bind alike.popWord ?_
    rintro ⟨value, first⟩ ⟨_, second⟩ ⟨same, popped⟩
    obtain rfl : _ = value := same
    exact .pure (popped.setWord pair.register _)
  | alu op source =>
    rw [Cpu.execute, Cpu.execute, alike.readSource source]
    exact .bind_same fun value => .pure (alike.applyAlu apart value)
  | inc target => exact alike.update Flags.steady_inc8 target
  | dec target => exact alike.update Flags.steady_dec8 target
  | daa => exact .pure (alike.updateA (Flags.steady_decimalAdjust apart))
  | cpl => exact .pure alike.complement
  | scf => exact .pure (alike.setCarry fun _ => rfl)
  | ccf =>
    -- Of a carry in the mask nothing is to be shown: its complement may differ as it did.
    refine .pure (alike.setCarry fun kept => ?_)
    rw [alike.regs.flags.carry kept]
  | addHL source =>
    rw [Cpu.execute, Cpu.execute, alike.regs.word source.register_ne_af]
    exact .pure (alike.addToHL _)
  | addSP offset => exact .pure (alike.offsetSP .sp offset)
  | inc16 target | dec16 target =>
    rw [Cpu.execute, Cpu.execute, alike.regs.word target.register_ne_af]
    exact .pure (alike.setWord _ _)
  | rotateA rotation => exact .pure (alike.rotateA apart)
  | jp condition address =>
    rw [Cpu.execute, Cpu.execute, alike.satisfies apart]
    refine .pure ?_
    split
    · exact alike.setWord .pc address
    · exact alike
  | jpHL =>
    rw [Cpu.execute, Cpu.execute, alike.regs.word (by decide)]
    exact .pure (alike.setWord .pc _)
  | jr condition offset =>
    rw [Cpu.execute, Cpu.execute, alike.satisfies apart]
    refine .pure ?_
    split
    · exact alike.jumpBy offset
    · exact alike
  | call condition address =>
    rw [Cpu.execute, Cpu.execute, alike.satisfies apart]
    split
    · exact alike.call address
    · exact .pure alike
  | ret condition =>
    rw [Cpu.execute, Cpu.execute, alike.satisfies apart]
    split
    · exact alike.ret
    · exact .pure alike
  | reti =>
    intro σ _ bus
    rw [Cpu.execute, Cpu.execute, observe_reti, observe_reti]
    obtain ⟨returned, left, accesses⟩ := alike.ret σ bus
    exact ⟨returned.setIme true, left, accesses⟩
  | rst vector =>
    rw [Cpu.execute, Cpu.execute]
    unfold Cpu.restart
    rw [alike.config]
    cases one.config.restart with
    | pushReturn => exact alike.call _
    | jumpOnly => exact .pure (alike.setWord .pc _)
  | shift op target => exact alike.update (Flags.steady_shift apart) target
  | bit index target =>
    have flags := alike.regs.flags
    rw [Cpu.execute, Cpu.execute, alike.readOperand target]
    refine .bind_same fun value => .pure (alike.setFlags ?_)
    exact ⟨fun _ => rfl, fun _ => rfl, fun _ => rfl, flags.carry⟩
  | res index target => exact alike.updateBits target _
  | set index target => exact alike.updateBits target _

end Cpu.AlikeBut

namespace Machine

variable {σ : Type} [Bus σ] {mask : Flags}

theorem step_alikeBut {one other : Machine σ} (start : Paired (Cpu.AlikeBut mask) one other)
    (spared : ∀ instruction, one.step.result = .ok instruction →
      instruction.usedFlags.Apart mask) :
    Step.Alike (Paired (Cpu.AlikeBut mask)) one.step other.step := by
  refine step_alike start start.1.regs.pc ?_
  intro instruction found
  rw [fetched, fetched, start.1.regs.pc]
  exact (start.1.setWord .pc _).execute instruction (spared instruction found)

/-- Flags that no executed instruction uses do not matter. Two processors that differ in them alone,
on buses that are the same, take the same steps to the same end, be it the limit or an illegal
opcode, and after each step still differ in those flags at most. -/
theorem unused_flags_irrelevant {cpu twin : Cpu} {bus : σ} {limit : Nat}
    (start : cpu.AlikeBut mask twin)
    (spared : ∀ step ∈ steps ⟨cpu, bus⟩ limit, ∀ instruction, step.result = .ok instruction →
      instruction.usedFlags.Apart mask) :
    Run.Alike (Paired (Cpu.AlikeBut mask)) (history ⟨cpu, bus⟩ limit)
      (history ⟨twin, bus⟩ limit) := by
  have paired : Paired (Cpu.AlikeBut mask) (⟨cpu, bus⟩ : Machine σ) ⟨twin, bus⟩ := ⟨start, rfl⟩
  exact history_alike (fun one other => step_alikeBut) paired limit spared

/-- To complement carry is not to use it, and to complement A is not to use it either. -/
theorem complemented_carry_irrelevant :
    let cpu := (Cpu.ofConfig .default).setRegs { Registers.zero with af := 0x0100 }
    let twin := (Cpu.ofConfig .default).setRegs { Registers.zero with af := 0x0110 }
    let one : Machine Memory := ⟨cpu, Memory.zero.load 0 [0x3F, 0x2F]⟩
    let other : Machine Memory := ⟨twin, Memory.zero.load 0 [0x3F, 0x2F]⟩
    one.step.result = .ok .ccf ∧ one.step.machine.step.result = .ok .cpl ∧
      Run.Alike (Paired (Cpu.AlikeBut { Flags.clear with carry := true })) (one.history 2)
        (other.history 2) := by
  intro cpu twin one other
  have flags : Flags.AlikeBut { Flags.clear with carry := true } cpu.regs.flags twin.regs.flags :=
    ⟨fun _ => by decide, fun _ => by decide, fun _ => by decide, nofun⟩
  have start : cpu.AlikeBut { Flags.clear with carry := true } twin :=
    ⟨⟨flags, by decide, by decide, rfl, rfl, rfl, rfl, rfl⟩, rfl, rfl, rfl⟩
  have first : one.step.result = .ok .ccf := by
    simp only [one, cpu]
    rfl
  have second : one.step.machine.step.result = .ok .cpl := by
    simp only [one, cpu]
    rfl
  have ccf : Instruction.ccf.usedFlags.Apart { Flags.clear with carry := true } :=
    ⟨nofun, nofun, nofun, nofun⟩
  have cpl : Instruction.cpl.usedFlags.Apart { Flags.clear with carry := true } :=
    ⟨nofun, nofun, nofun, nofun⟩
  exact ⟨first, second, unused_flags_irrelevant start
    (forall_mem_steps_succ first ccf (forall_mem_steps_one second cpl))⟩

end Machine
end SM83
