import Mathlib.Data.Int.Bitwise
import SM83.Proofs.Alu.WordAdder

/-! Exact results and true carries. Whatever is added or subtracted, the exact result and its two
operands differ, bit by bit, by the carries that went into each place. The flags tell two of these
bits; the result is the exact one in as many bits as there is room for. -/
namespace SM83.Alu

/-- A bit of `x xor y xor t` in two's complement. Of a sum or difference `t` of `x` and `y` it is
the carry or borrow into this place. -/
def carryBit (place : Nat) (x y t : Int) : Bool :=
  (Int.xor (Int.xor x y) t).testBit place

/-- The flags that tell of the exact result `t` of `x` and `y`, of which `width` bits are kept. -/
def exactFlags (width half full : Nat) (subtract : Bool) (x y t : Int) : Flags where
  zero := t % 2 ^ width == 0
  subtract
  halfCarry := carryBit half x y t
  carry := carryBit full x y t

theorem testBit_eq_decide (number : Int) (place : Nat) :
    number.testBit place = decide (number / 2 ^ place % 2 = 1) := by
  cases number with
  | ofNat magnitude =>
    change magnitude.testBit place = _
    rw [Nat.testBit_eq_decide_div_mod_eq, Int.ofNat_eq_natCast]
    norm_cast
  | negSucc magnitude =>
    have positive : (0 : Int) < 2 ^ place := Int.pow_pos (by decide)
    have quotient : Int.negSucc magnitude / 2 ^ place = -((magnitude / 2 ^ place : Nat) + 1) :=
      Int.negSucc_ediv magnitude positive
    change (!magnitude.testBit place) = _
    rw [Nat.testBit_eq_decide_div_mod_eq, quotient, ← decide_not]
    refine decide_eq_decide.mpr ?_
    omega

/-- Of two numbers exactly one is odd when their sum is. -/
theorem xor_odd (i j : Int) :
    (decide (i % 2 = 1) ^^ decide (j % 2 = 1)) = decide ((i + j) % 2 = 1) := by
  rw [Bool.eq_iff_iff, Bool.xor_iff_ne, ne_eq, decide_eq_decide, decide_eq_true_iff]
  omega

theorem carryBit_eq_decide (place : Nat) (x y t : Int) :
    carryBit place x y t =
      decide ((x / 2 ^ place + y / 2 ^ place + t / 2 ^ place) % 2 = 1) := by
  rw [carryBit, Int.testBit_lxor, Int.testBit_lxor, testBit_eq_decide, testBit_eq_decide,
    testBit_eq_decide, xor_odd, xor_odd]

/-- With `sign` 1 the place receives what the lower bits of a sum carry, with `sign` -1 what those
of a difference borrow. -/
theorem carryBit_eq_quotient {sign : Int} (unit : sign = 1 ∨ sign = -1) (place : Nat)
    (x y carry : Int) :
    carryBit place x y (x + sign * (y + carry)) =
      decide ((x % 2 ^ place + sign * (y % 2 ^ place + carry)) / 2 ^ place % 2 = 1) := by
  have positive : (0 : Int) < 2 ^ place := Int.pow_pos (by decide)
  rw [carryBit_eq_decide]
  generalize (2 : Int) ^ place = weight at positive ⊢
  have split : x + sign * (y + carry) =
      x % weight + sign * (y % weight + carry) + weight * (x / weight + sign * (y / weight)) := by
    linear_combination -Int.emod_add_mul_ediv x weight - sign * Int.emod_add_mul_ediv y weight
  rw [split, Int.add_mul_ediv_left _ _ positive.ne']
  refine decide_eq_decide.mpr ?_
  rcases unit with rfl | rfl <;> omega

variable (place x y : Nat) (carry : Bool)

theorem carryBit_sum :
    carryBit place x y (x + y + carry.toNat) =
      decide (2 ^ place ≤ x % 2 ^ place + y % 2 ^ place + carry.toNat) := by
  have bit := carry.toNat_le
  have positive := Nat.two_pow_pos place
  have quotient := carryBit_eq_quotient (.inl rfl) place x y carry.toNat
  rw [Int.one_mul, Int.one_mul, ← Int.add_assoc, ← Int.add_assoc] at quotient
  rw [quotient]
  norm_cast
  generalize 2 ^ place = weight at positive ⊢
  have first := Nat.mod_lt x positive
  have second := Nat.mod_lt y positive
  refine decide_eq_decide.mpr ?_
  by_cases carries : weight ≤ x % weight + y % weight + carry.toNat
  · rw [Nat.div_eq_of_lt_le (k := 1) (by omega) (by omega)]
    omega
  · rw [Nat.div_eq_of_lt (by omega)]
    omega

theorem carryBit_plain :
    carryBit place x y (x + y) = decide (2 ^ place ≤ x % 2 ^ place + y % 2 ^ place) :=
  carryBit_sum place x y false

theorem carryBit_difference :
    carryBit place x y (x - y - carry.toNat) =
      decide (x % 2 ^ place < y % 2 ^ place + carry.toNat) := by
  have bit := carry.toNat_le
  have positive := Nat.two_pow_pos place
  have exact : (x - y - carry.toNat : Int) = x + -1 * (y + carry.toNat) := by omega
  have power : (2 : Int) ^ place = (2 ^ place : Nat) := by norm_cast
  rw [exact, carryBit_eq_quotient (.inr rfl), power]
  generalize 2 ^ place = weight at positive ⊢
  have first := Nat.mod_lt x positive
  have second := Nat.mod_lt y positive
  rw [← Int.natCast_mod, ← Int.natCast_mod]
  refine decide_eq_decide.mpr ?_
  by_cases borrows : x % weight < y % weight + carry.toNat
  · rw [Int.ediv_eq_neg_one_of_neg_of_le (by omega) (by omega)]
    omega
  · rw [Int.ediv_eq_zero_of_lt (by omega) (by omega)]
    omega

/-- A borrow that nothing stops reaches every place. -/
example : carryBit 4 0 1 (0 - 1) = true ∧ carryBit 8 0 1 (0 - 1) = true := by decide

theorem byte_beq_zero (byte : UInt8) : (byte == 0) = ((byte.toNat : Int) == 0) := by
  rw [Bool.eq_iff_iff, beq_iff_eq, beq_iff_eq, ← UInt8.toNat_inj]
  exact Int.natCast_eq_zero.symm

theorem word_beq_zero (word : UInt16) : (word == 0) = ((word.toNat : Int) == 0) := by
  rw [Bool.eq_iff_iff, beq_iff_eq, beq_iff_eq, ← UInt16.toNat_inj]
  exact Int.natCast_eq_zero.symm

/-- Flags whose zero, half carry and carry are those of the exact result. -/
theorem eq_exactFlags {flags : Flags} {width half full : Nat} {x y t : Int}
    (zero : flags.zero = (t % 2 ^ width == 0)) (halfCarry : flags.halfCarry = carryBit half x y t)
    (carry : flags.carry = carryBit full x y t) :
    flags = exactFlags width half full flags.subtract x y t := by
  rw [exactFlags, ← zero, ← halfCarry, ← carry]

variable (a b : UInt8) {t : Int}

theorem addWithCarry_exact (exact : t = a.toNat + b.toNat + carry.toNat) :
    ((addWithCarry carry a b).1.toNat : Int) = t % 2 ^ 8 ∧
      (addWithCarry carry a b).2 = exactFlags 8 4 8 false a.toNat b.toNat t := by
  have result : ((addWithCarry carry a b).1.toNat : Int) = t % 2 ^ 8 := by
    rw [toNat_addWithCarry, exact]
    norm_cast
  refine ⟨result, eq_exactFlags ?_ ?_ ?_⟩
  · rw [← result]
    exact byte_beq_zero _
  · rw [halfCarry_addWithCarry, exact, carryBit_sum]
    refine decide_eq_decide.mpr ?_
    omega
  · have first := a.toNat_lt
    have second := b.toNat_lt
    rw [carry_addWithCarry, exact, carryBit_sum]
    refine decide_eq_decide.mpr ?_
    omega

theorem subtractWithBorrow_exact (exact : t = a.toNat - b.toNat - carry.toNat) :
    ((subtractWithBorrow carry a b).1.toNat : Int) = t % 2 ^ 8 ∧
      (subtractWithBorrow carry a b).2 = exactFlags 8 4 8 true a.toNat b.toNat t := by
  have result : ((subtractWithBorrow carry a b).1.toNat : Int) = t % 2 ^ 8 := by
    rw [toNat_subtractWithBorrow, exact]
    rfl
  refine ⟨result, eq_exactFlags ?_ ?_ ?_⟩
  · rw [← result]
    exact byte_beq_zero _
  · rw [halfCarry_subtractWithBorrow, exact, carryBit_difference]
    rfl
  · have first := a.toNat_lt
    have second := b.toNat_lt
    rw [carry_subtractWithBorrow, exact, carryBit_difference]
    refine decide_eq_decide.mpr ?_
    omega

theorem toNat_wordSum_exact (a b : UInt16) :
    ((a + b).toNat : Int) = (a.toNat + b.toNat) % 2 ^ 16 := by
  rw [UInt16.toNat_add]
  norm_cast

theorem add16_exact (a b : UInt16) :
    (add16 a b).2 = exactFlags 16 8 8 false a.toNat b.toNat (a.toNat + b.toNat) := by
  have lowCarry : (add16 a b).2.halfCarry = carryBit 8 a.toNat b.toNat (a.toNat + b.toNat) :=
    (halfCarry_add16 a b).trans (carryBit_plain ..).symm
  refine eq_exactFlags ?_ lowCarry lowCarry
  rw [← toNat_wordSum_exact]
  exact word_beq_zero _

theorem add16Hardware_exact (flags : Flags) (a b : UInt16) :
    let x : Int := a.toNat
    let y : Int := b.toNat
    (add16Hardware flags a b).2 =
      { exactFlags 16 12 16 false x y (x + y) with zero := flags.zero } := by
  intro x y
  have halfCarry := halfCarry_add16Hardware flags a b
  have carry : (add16Hardware flags a b).2.carry = decide (2 ^ 16 ≤ a.toNat + b.toNat) :=
    wordSum_gt a b
  have first := Nat.mod_eq_of_lt a.toNat_lt
  have second := Nat.mod_eq_of_lt b.toNat_lt
  simp only [exactFlags, x, y, carryBit_plain, first, second, ← halfCarry, ← carry]
  rfl

theorem addOffset_exact (base : UInt16) (offset : Int8) :
    let x : Int := base.toNat
    let y : Int := (Word.ofSigned offset).toNat
    (addOffset base offset).2 =
      { exactFlags 16 4 8 false x y (x + y) with zero := false } := by
  intro x y
  have halfCarry := halfCarry_addOffset base offset
  have carry := carry_addOffset base offset
  simp only [exactFlags, x, y, carryBit_plain, ← halfCarry, ← carry]
  rfl

/-- Every addition and subtraction gives its exact result in as many bits as it has, and the flags
tell the exact result: half carry and carry are the carries or borrows into two of its places, which
the operation chooses. Counting by one keeps the carry; the processor's own addition of words keeps
zero, and that of a displacement clears it. -/
theorem results_exact_and_carries_true (flags : Flags) :
    (∀ a b : UInt8,
      let x : Int := a.toNat
      let y : Int := b.toNat
      let carry : Int := flags.carry.toNat
      (((add8 a b).1.toNat : Int) = (x + y) % 2 ^ 8 ∧
        (add8 a b).2 = exactFlags 8 4 8 false x y (x + y)) ∧
      (((adc8 flags a b).1.toNat : Int) = (x + y + carry) % 2 ^ 8 ∧
        (adc8 flags a b).2 = exactFlags 8 4 8 false x y (x + y + carry)) ∧
      (((sub8 a b).1.toNat : Int) = (x - y) % 2 ^ 8 ∧
        (sub8 a b).2 = exactFlags 8 4 8 true x y (x - y)) ∧
      (((sbc8 flags a b).1.toNat : Int) = (x - y - carry) % 2 ^ 8 ∧
        (sbc8 flags a b).2 = exactFlags 8 4 8 true x y (x - y - carry)) ∧
      cp8 a b = exactFlags 8 4 8 true x y (x - y)) ∧
    (∀ value : UInt8,
      let x : Int := value.toNat
      (((inc8 flags value).1.toNat : Int) = (x + 1) % 2 ^ 8 ∧
        (inc8 flags value).2 =
          { exactFlags 8 4 8 false x 1 (x + 1) with carry := flags.carry }) ∧
      (((dec8 flags value).1.toNat : Int) = (x - 1) % 2 ^ 8 ∧
        (dec8 flags value).2 =
          { exactFlags 8 4 8 true x 1 (x - 1) with carry := flags.carry })) ∧
    (∀ a b : UInt16,
      let x : Int := a.toNat
      let y : Int := b.toNat
      (((add16 a b).1.toNat : Int) = (x + y) % 2 ^ 16 ∧
        (add16 a b).2 = exactFlags 16 8 8 false x y (x + y)) ∧
      (((add16Hardware flags a b).1.toNat : Int) = (x + y) % 2 ^ 16 ∧
        (add16Hardware flags a b).2 =
          { exactFlags 16 12 16 false x y (x + y) with zero := flags.zero })) ∧
    ∀ (base : UInt16) (offset : Int8),
      let x : Int := base.toNat
      let y : Int := offset.toInt % 2 ^ 16
      ((addOffset base offset).1.toNat : Int) = (x + y) % 2 ^ 16 ∧
        (addOffset base offset).2 =
          { exactFlags 16 4 8 false x y (x + y) with zero := false } := by
  refine ⟨fun a b => ?_, fun value => ?_, fun a b => ?_, fun base offset => ?_⟩
  · intro x y carry
    have sum : x + y = a.toNat + b.toNat + false.toNat := (Int.add_zero _).symm
    have difference : x - y = a.toNat - b.toNat - false.toNat := (Int.sub_zero _).symm
    exact ⟨addWithCarry_exact false a b sum, addWithCarry_exact flags.carry a b rfl,
      subtractWithBorrow_exact false a b difference, subtractWithBorrow_exact flags.carry a b rfl,
      (subtractWithBorrow_exact false a b difference).2⟩
  · intro x
    obtain ⟨sum, more⟩ := addWithCarry_exact false value 1 (t := x + 1) (Int.add_zero _).symm
    obtain ⟨difference, less⟩ :=
      subtractWithBorrow_exact false value 1 (t := x - 1) (Int.sub_zero _).symm
    refine ⟨⟨sum, ?_⟩, difference, ?_⟩
    · exact congrArg (fun after : Flags => { after with carry := flags.carry }) more
    · exact congrArg (fun after : Flags => { after with carry := flags.carry }) less
  · intro x y
    exact ⟨⟨toNat_wordSum_exact a b, add16_exact a b⟩, toNat_wordSum_exact a b,
      add16Hardware_exact flags a b⟩
  · intro x y
    have extended : y = (Word.ofSigned offset).toNat := (Word.toNat_ofSigned offset).symm
    rw [extended]
    exact ⟨toNat_wordSum_exact base _, addOffset_exact base offset⟩

end SM83.Alu
