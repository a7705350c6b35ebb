import SM83.Cpu.Execute
import SM83.Proofs.Registers.FlagMask

/-! Which flags an instruction uses, and that no operation of the arithmetic unit looks at more:
from flags that are the same but for unused ones it makes the same result. -/
namespace SM83

/-- The flag that a condition tests. -/
def Condition.testedFlags : Condition → Flags
  | nz | z => { Flags.clear with zero := true }
  | nc | c => { Flags.clear with carry := true }

/-- The flags on which an instruction depends for more than to keep or complement them. -/
def Instruction.usedFlags : Instruction → Flags
  | jp condition _ | jr condition _ | call condition _ | ret condition =>
    condition.elim .clear Condition.testedFlags
  | push .af => ⟨true, true, true, true⟩
  | daa => ⟨false, true, true, true⟩
  | alu .adc _ | alu .sbc _ | shift (.rotate .rl) _ | shift (.rotate .rr) _ | rotateA .rl
  | rotateA .rr => { Flags.clear with carry := true }
  | _ => .clear

/-- No flag is in both sets. -/
structure Flags.Apart (used mask : Flags) : Prop where
  zero : used.zero = true → mask.zero = false
  subtract : used.subtract = true → mask.subtract = false
  halfCarry : used.halfCarry = true → mask.halfCarry = false
  carry : used.carry = true → mask.carry = false

/-- From flags that are alike an operation makes the same byte and flags that are alike again. -/
def Flags.Steady (mask : Flags) (operation : Flags → UInt8 → UInt8 × Flags) : Prop :=
  ∀ one other value, AlikeBut mask one other →
    (operation other value).1 = (operation one value).1 ∧
      AlikeBut mask (operation one value).2 (operation other value).2

namespace Flags

variable {mask one other : Flags}

theorem AlikeBut.holds (alike : AlikeBut mask one other) {condition : Condition}
    (apart : condition.testedFlags.Apart mask) : condition.holds other = condition.holds one := by
  cases condition with
  | nz | z => simp only [Condition.holds, alike.zero (apart.zero rfl)]
  | nc | c => simp only [Condition.holds, alike.carry (apart.carry rfl)]

theorem AlikeBut.eq_of_apart (alike : AlikeBut mask one other)
    (apart : (⟨true, true, true, true⟩ : Flags).Apart mask) : other = one := by
  calc other
    _ = ⟨other.zero, other.subtract, other.halfCarry, other.carry⟩ := rfl
    _ = one := by
      rw [alike.zero (apart.zero rfl), alike.subtract (apart.subtract rfl),
        alike.halfCarry (apart.halfCarry rfl), alike.carry (apart.carry rfl)]

theorem steady_of_eq {operation : Flags → UInt8 → UInt8 × Flags}
    (same : ∀ one other value, AlikeBut mask one other →
      operation other value = operation one value) :
    Steady mask operation := by
  intro one other value alike
  rw [same one other value alike]
  exact ⟨rfl, .refl mask _⟩

theorem steady_inc8 : Steady mask Alu.inc8 := by
  intro one other value alike
  exact ⟨rfl, fun _ => rfl, fun _ => rfl, fun _ => rfl, alike.carry⟩

theorem steady_dec8 : Steady mask Alu.dec8 := by
  intro one other value alike
  exact ⟨rfl, fun _ => rfl, fun _ => rfl, fun _ => rfl, alike.carry⟩

theorem steady_decimalAdjust (apart : Instruction.daa.usedFlags.Apart mask) :
    Steady mask Alu.decimalAdjust := by
  refine steady_of_eq fun one other value alike => ?_
  have subtract := alike.subtract (apart.subtract rfl)
  have halfCarry := alike.halfCarry (apart.halfCarry rfl)
  have carry := alike.carry (apart.carry rfl)
  have adjustment : Alu.adjustment other value = Alu.adjustment one value := by
    unfold Alu.adjustment Alu.carriedAdjustment
    rw [subtract, halfCarry, carry]
  unfold Alu.decimalAdjust
  rw [adjustment, subtract]

theorem steady_rotation {rotation : Rotation}
    (apart : (Instruction.rotateA rotation).usedFlags.Apart mask) : Steady mask rotation.apply := by
  refine steady_of_eq fun one other value alike => ?_
  cases rotation with
  | rlc | rrc => rfl
  | rl => simp only [Rotation.apply, Alu.rotateLeftThroughCarry, alike.carry (apart.carry rfl)]
  | rr => simp only [Rotation.apply, Alu.rotateRightThroughCarry, alike.carry (apart.carry rfl)]

theorem steady_shift {op : ShiftOp} {target : Operand8}
    (apart : (Instruction.shift op target).usedFlags.Apart mask) : Steady mask op.apply := by
  cases op with
  | rotate rotation =>
    refine steady_rotation ?_
    cases rotation <;> exact apart
  | _ => exact steady_of_eq fun one other value alike => rfl

theorem AlikeBut.apply (alike : AlikeBut mask one other) {op : AluOp} {source : Source}
    (apart : (Instruction.alu op source).usedFlags.Apart mask) (rule : LogicRule) (a b : UInt8) :
    (op.apply rule other a b).1 = (op.apply rule one a b).1 ∧
      AlikeBut mask (op.apply rule one a b).2 (op.apply rule other a b).2 := by
  cases op with
  | adc | sbc =>
    unfold AluOp.apply Alu.adc8 Alu.sbc8
    rw [alike.carry (apart.carry rfl)]
    exact ⟨rfl, .refl mask _⟩
  | or | xor =>
    cases rule with
    | hardware => exact ⟨rfl, .refl mask _⟩
    | zeroOnly => exact ⟨rfl, fun _ => rfl, alike.subtract, alike.halfCarry, alike.carry⟩
  | _ => exact ⟨rfl, .refl mask _⟩

end Flags
end SM83
