import SM83.Alu.Decimal
import SM83.Proofs.Alu.Adder
import SM83.Proofs.Alu.Chain

/-! Packed decimal numbers of any length, added and subtracted byte by byte in binary, each byte
adjusted before its carry goes on to the next. -/
namespace SM83.Alu

/-- Both nibbles are decimal digits. -/
def Packed (byte : UInt8) : Prop :=
  byte.toNat / 16 ≤ 9 ∧ byte.toNat % 16 ≤ 9

instance : DecidablePred Packed :=
  fun _ => inferInstanceAs (Decidable (_ ∧ _))

/-- The two digits of a packed byte as a number below a hundred. -/
def digits (byte : UInt8) : Nat :=
  10 * (byte.toNat / 16) + byte.toNat % 16

/-- Binary addition with the carry that comes in, and the decimal adjustment of its result. -/
def decimalAdd (flags : Flags) (a b : UInt8) : UInt8 × Flags :=
  let sum := adc8 flags a b
  decimalAdjust sum.2 sum.1

/-- Binary subtraction with the borrow that comes in, and the decimal adjustment of its result. -/
def decimalSubtract (flags : Flags) (a b : UInt8) : UInt8 × Flags :=
  let difference := sbc8 flags a b
  decimalAdjust difference.2 difference.1

/-- The carries by which a sum is adjusted: a nibble that is no digit counts as a carry. -/
def digitCarries (flags : Flags) (sum : UInt8) : Flags :=
  { flags with
    halfCarry := flags.halfCarry || decide (9 < sum.toNat % 16)
    carry := flags.carry || decide (0x99 < sum.toNat) }

variable {flags : Flags} {a b value : UInt8}

theorem digits_lt (packed : Packed a) : digits a < 100 := by
  obtain ⟨high, low⟩ := packed
  unfold digits
  omega

theorem toNat_carriedAdjustment (flags : Flags) :
    (carriedAdjustment flags).toNat = 96 * flags.carry.toNat + 6 * flags.halfCarry.toNat := by
  unfold carriedAdjustment
  cases flags.carry <;> cases flags.halfCarry <;> decide

theorem carriedAdjustment_ge (flags : Flags) :
    decide (carriedAdjustment flags ≥ 0x60) = flags.carry := by
  unfold carriedAdjustment
  cases flags.carry <;> cases flags.halfCarry <;> decide

theorem adjustment_of_sum (value : UInt8) (added : flags.subtract = false) :
    adjustment flags value = carriedAdjustment (digitCarries flags value) := by
  have low : (value &&& 0x0F > 0x09) = (9 < value.toNat % 16) := by
    rw [← toNat_lowNibble]
    exact propext UInt8.lt_iff_toNat_lt
  have high : (value > 0x99) = (0x99 < value.toNat) := propext UInt8.lt_iff_toNat_lt
  simp only [adjustment, digitAdjustment, digitCarries, carriedAdjustment, added, low, high]
  cases flags.carry <;> cases flags.halfCarry <;>
    by_cases ten : 9 < value.toNat % 16 <;> by_cases hundred : 0x99 < value.toNat <;>
    simp only [ten, hundred] <;> decide

theorem decimalAdjust_sum (added : flags.subtract = false) :
    (decimalAdjust flags value).1.toNat =
        (value.toNat + (96 * (digitCarries flags value).carry.toNat +
          6 * (digitCarries flags value).halfCarry.toNat)) % 256 ∧
      (decimalAdjust flags value).2.carry = (digitCarries flags value).carry := by
  have adjust := adjustment_of_sum value added
  simp only [decimalAdjust, adjust, added, carriedAdjustment_ge, and_true]
  rw [← toNat_carriedAdjustment]
  exact UInt8.toNat_add _ _

theorem decimalAdjust_difference (subtracted : flags.subtract = true) :
    ((decimalAdjust flags value).1.toNat : Int) =
        ((value.toNat : Int) - (96 * flags.carry.toNat + 6 * flags.halfCarry.toNat : Nat)) % 256 ∧
      (decimalAdjust flags value).2.carry = flags.carry := by
  have adjust : adjustment flags value = carriedAdjustment flags := if_pos subtracted
  simp only [decimalAdjust, adjust, subtracted, carriedAdjustment_ge, and_true, if_true]
  rw [← toNat_carriedAdjustment, UInt8.toNat_sub]
  have small := (carriedAdjustment flags).toNat_lt
  omega

theorem toNat_decide (p : Prop) [Decidable p] : (decide p).toNat = if p then 1 else 0 := by
  by_cases holds : p <;> simp [holds]

/-- A decimal addition of two digits each: the carry that comes out counts a hundred. -/
theorem decimalAdd_spec (flags : Flags) (first : Packed a) (second : Packed b) :
    Packed (decimalAdd flags a b).1 ∧
      digits (decimalAdd flags a b).1 + 100 * (decimalAdd flags a b).2.carry.toNat =
        digits a + digits b + flags.carry.toNat := by
  obtain ⟨result, carried⟩ :=
    @decimalAdjust_sum (adc8 flags a b).2 (adc8 flags a b).1 rfl
  have sum : (adc8 flags a b).1.toNat = _ := toNat_addWithCarry flags.carry a b
  have carry : (adc8 flags a b).2.carry = _ := carry_addWithCarry flags.carry a b
  have halfCarry : (adc8 flags a b).2.halfCarry = _ := halfCarry_addWithCarry flags.carry a b
  simp only [digitCarries, carry, halfCarry, ← Bool.decide_or, toNat_decide] at result carried
  have bit := flags.carry.toNat_le
  obtain ⟨highA, lowA⟩ := first
  obtain ⟨highB, lowB⟩ := second
  simp only [Packed, digits, decimalAdd, carried, toNat_decide]
  split_ifs at result ⊢ <;> omega

theorem decimalSubtract_spec (flags : Flags) (first : Packed a) (second : Packed b) :
    Packed (decimalSubtract flags a b).1 ∧
      digits (decimalSubtract flags a b).1 + digits b + flags.carry.toNat =
        digits a + 100 * (decimalSubtract flags a b).2.carry.toNat := by
  obtain ⟨result, carried⟩ :=
    @decimalAdjust_difference (sbc8 flags a b).2 (sbc8 flags a b).1 rfl
  have difference : ((sbc8 flags a b).1.toNat : Int) = _ :=
    toNat_subtractWithBorrow flags.carry a b
  have carry : (sbc8 flags a b).2.carry = _ := carry_subtractWithBorrow flags.carry a b
  have halfCarry : (sbc8 flags a b).2.halfCarry = _ := halfCarry_subtractWithBorrow flags.carry a b
  simp only [carry, halfCarry, toNat_decide] at result carried
  have bit := flags.carry.toNat_le
  obtain ⟨highA, lowA⟩ := first
  obtain ⟨highB, lowB⟩ := second
  simp only [Packed, digits, decimalSubtract, carried, toNat_decide]
  split_ifs at result ⊢ <;> omega

/-- The flags after the last of one or more decimal bytes. -/
structure Closed (subtract : Bool) (outcome : List UInt8 × Flags) : Prop where
  halfCarry : outcome.2.halfCarry = false
  subtract : outcome.2.subtract = subtract
  zero : outcome.2.zero = true ↔ outcome.1.getLast? = some 0

variable {pairs : List (UInt8 × UInt8)}

theorem closed_chain {operation : Flags → UInt8 → UInt8 → UInt8 × Flags} {subtract : Bool}
    (adjusted : ∀ flags a b, ∃ before value, before.subtract = subtract ∧
      operation flags a b = decimalAdjust before value)
    (nonempty : pairs ≠ []) : Closed subtract (chain operation flags pairs) := by
  obtain ⟨before, a, b, last, after⟩ :=
    exists_last_of_chain operation flags nonempty
  obtain ⟨binary, value, same, adjusts⟩ := adjusted before a b
  rw [adjusts] at last after
  refine ⟨?_, ?_, ?_⟩
  · rw [after]
    rfl
  · rw [after]
    exact same
  · rw [after, last, Option.some.injEq]
    exact beq_iff_eq

/-- The number that packed bytes stand for, the least significant byte first. -/
def decimalValue (bytes : List UInt8) : Nat :=
  Alu.value 100 digits bytes

theorem decimalValue_lt {bytes : List UInt8} (packed : ∀ byte ∈ bytes, Packed byte) :
    decimalValue bytes < 100 ^ bytes.length :=
  value_lt (by decide) fun byte member => digits_lt (packed byte member)

theorem value_chain_decimalAdd (packed : ∀ pair ∈ pairs, Packed pair.1 ∧ Packed pair.2) :
    decimalValue (chain decimalAdd flags pairs).1 +
        100 ^ pairs.length * (chain decimalAdd flags pairs).2.carry.toNat =
      decimalValue (pairs.map Prod.fst) + decimalValue (pairs.map Prod.snd) +
        flags.carry.toNat := by
  have bytewise : ∀ flags a b, Packed a → Packed b →
      (digits (decimalAdd flags a b).1 : Int) +
          1 * (100 : Nat) * (decimalAdd flags a b).2.carry.toNat =
        digits a + 1 * (digits b + flags.carry.toNat) := by
    intro flags a b first second
    have byte := (decimalAdd_spec flags first second).2
    omega
  have whole := value_chain _ flags 1 bytewise packed
  zify
  simp only [decimalValue, Nat.cast_ofNat] at whole ⊢
  linear_combination whole

theorem value_chain_decimalSubtract (packed : ∀ pair ∈ pairs, Packed pair.1 ∧ Packed pair.2) :
    (decimalValue (chain decimalSubtract flags pairs).1 : Int) +
        (100 ^ pairs.length : Nat) * -(chain decimalSubtract flags pairs).2.carry.toNat =
      decimalValue (pairs.map Prod.fst) - decimalValue (pairs.map Prod.snd) -
        flags.carry.toNat := by
  have bytewise : ∀ flags a b, Packed a → Packed b →
      (digits (decimalSubtract flags a b).1 : Int) +
          (-1) * (100 : Nat) * (decimalSubtract flags a b).2.carry.toNat =
        digits a + (-1) * (digits b + flags.carry.toNat) := by
    intro flags a b first second
    have byte := (decimalSubtract_spec flags first second).2
    omega
  have whole := value_chain _ flags (-1) bytewise packed
  push_cast at whole ⊢
  unfold decimalValue
  linear_combination whole

theorem chain_decimalAdd (flags : Flags)
    (packed : ∀ pair ∈ pairs, Packed pair.1 ∧ Packed pair.2) :
    let sum := chain decimalAdd flags pairs
    let total := decimalValue (pairs.map Prod.fst) + decimalValue (pairs.map Prod.snd) +
      flags.carry.toNat
    sum.1.length = pairs.length ∧ (∀ byte ∈ sum.1, Packed byte) ∧
      decimalValue sum.1 = total % 100 ^ pairs.length ∧
      (sum.2.carry = true ↔ 100 ^ pairs.length ≤ total) := by
  intro sum total
  have kept : ∀ byte ∈ sum.1, Packed byte :=
    forall_mem_chain decimalAdd flags
      (fun flags a b first second => (decimalAdd_spec flags first second).1) packed
  have exact : decimalValue sum.1 + 100 ^ pairs.length * sum.2.carry.toNat = total :=
    value_chain_decimalAdd packed
  have bound : decimalValue sum.1 < 100 ^ pairs.length := by
    rw [← length_chain decimalAdd flags]
    exact decimalValue_lt kept
  refine ⟨length_chain _ _, kept, ?_, carry_iff_le bound exact⟩
  rw [← exact, Nat.add_mul_mod_self_left, Nat.mod_eq_of_lt bound]

theorem chain_decimalSubtract (flags : Flags)
    (packed : ∀ pair ∈ pairs, Packed pair.1 ∧ Packed pair.2) :
    let difference := chain decimalSubtract flags pairs
    let rest := (decimalValue (pairs.map Prod.fst) : Int) - decimalValue (pairs.map Prod.snd) -
      flags.carry.toNat
    difference.1.length = pairs.length ∧ (∀ byte ∈ difference.1, Packed byte) ∧
      (decimalValue difference.1 : Int) = rest % 100 ^ pairs.length ∧
      (difference.2.carry = true ↔ rest < 0) := by
  intro difference rest
  have kept : ∀ byte ∈ difference.1, Packed byte :=
    forall_mem_chain decimalSubtract flags
      (fun flags a b first second => (decimalSubtract_spec flags first second).1) packed
  have exact : (decimalValue difference.1 : Int) +
      (100 ^ pairs.length : Nat) * -difference.2.carry.toNat = rest :=
    value_chain_decimalSubtract packed
  have bound : decimalValue difference.1 < 100 ^ pairs.length := by
    rw [← length_chain decimalSubtract flags]
    exact decimalValue_lt kept
  have power : (100 : Int) ^ pairs.length = (100 ^ pairs.length : Nat) := by push_cast; rfl
  refine ⟨length_chain _ _, kept, ?_, borrow_iff_neg bound exact⟩
  rw [power, ← exact, Int.add_mul_emod_self_left, Int.emod_eq_of_lt (by omega) (by omega)]

/-- Packed decimal numbers of any length are added and subtracted exactly: the result is that of the
numbers modulo a hundred for each byte, and the carry that comes out tells whether the exact result
lies outside. -/
theorem decimal_arithmetic {n : Nat} {a b : List UInt8} (flags : Flags)
    (lengthA : a.length = n) (lengthB : b.length = n)
    (packedA : ∀ byte ∈ a, Packed byte) (packedB : ∀ byte ∈ b, Packed byte) :
    let sum := chain decimalAdd flags (a.zip b)
    let difference := chain decimalSubtract flags (a.zip b)
    let total := decimalValue a + decimalValue b + flags.carry.toNat
    let rest := (decimalValue a : Int) - decimalValue b - flags.carry.toNat
    (sum.1.length = n ∧ (∀ byte ∈ sum.1, Packed byte) ∧
      decimalValue sum.1 = total % 100 ^ n ∧ (sum.2.carry = true ↔ 100 ^ n ≤ total)) ∧
    (difference.1.length = n ∧ (∀ byte ∈ difference.1, Packed byte) ∧
      (decimalValue difference.1 : Int) = rest % 100 ^ n ∧
      (difference.2.carry = true ↔ rest < 0)) ∧
    (0 < n → Closed false sum ∧ Closed true difference) := by
  intro sum difference total rest
  have packed : ∀ pair ∈ a.zip b, Packed pair.1 ∧ Packed pair.2 := fun pair member =>
    ⟨packedA _ (List.of_mem_zip member).1, packedB _ (List.of_mem_zip member).2⟩
  have count : (a.zip b).length = n := by
    rw [List.length_zip, lengthA, lengthB, Nat.min_self]
  have left : (a.zip b).map Prod.fst = a := List.map_fst_zip (by omega)
  have right : (a.zip b).map Prod.snd = b := List.map_snd_zip (by omega)
  have added := chain_decimalAdd flags packed
  have subtracted := chain_decimalSubtract flags packed
  rw [left, right, count] at added subtracted
  refine ⟨added, subtracted, fun positive => ?_⟩
  have nonempty : a.zip b ≠ [] := by
    intro empty
    rw [empty, List.length_nil] at count
    omega
  exact ⟨closed_chain (fun flags a b => ⟨(adc8 flags a b).2, _, rfl, rfl⟩) nonempty,
    closed_chain (fun flags a b => ⟨(sbc8 flags a b).2, _, rfl, rfl⟩) nonempty⟩

/-- The sum of 5000 and 6001 carries out of two bytes, and their difference borrows. -/
theorem five_and_six_thousand :
    let sum := chain decimalAdd .clear ([0x00, 0x50].zip [0x01, 0x60])
    let difference := chain decimalSubtract .clear ([0x00, 0x50].zip [0x01, 0x60])
    decimalValue sum.1 = 1001 ∧ sum.2.carry = true ∧ Closed false sum ∧
      (decimalValue difference.1 : Int) = 8999 ∧ difference.2.carry = true ∧
      Closed true difference := by
  intro sum difference
  have packedA : ∀ byte ∈ [0x00, 0x50], Packed byte := by decide +kernel
  have packedB : ∀ byte ∈ [0x01, 0x60], Packed byte := by decide +kernel
  obtain ⟨⟨-, -, total, carry⟩, ⟨-, -, rest, borrow⟩, closed⟩ :=
    decimal_arithmetic (n := 2) .clear rfl rfl packedA packedB
  obtain ⟨added, subtracted⟩ := closed (by decide)
  exact ⟨total, carry.mpr (by decide), added, rest, borrow.mpr (by decide), subtracted⟩

end SM83.Alu
