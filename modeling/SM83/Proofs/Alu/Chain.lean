import Mathlib.Data.Nat.Digits.Defs
import Mathlib.Tactic.LinearCombination
import Mathlib.Tactic.Ring
import SM83.Flags

/-! Numbers of many bytes, worked on byte by byte from the least significant one. The flags of each
byte are handed on to the next, so a carry or borrow runs through the whole number. -/
namespace SM83.Alu

/-- Applies an operation to pairs of bytes in order, each with the flags the one before left. -/
def chain (operation : Flags → UInt8 → UInt8 → UInt8 × Flags) (flags : Flags) :
    List (UInt8 × UInt8) → List UInt8 × Flags
  | [] => ([], flags)
  | (a, b) :: rest =>
    let first := operation flags a b
    let behind := chain operation first.2 rest
    (first.1 :: behind.1, behind.2)

variable (operation : Flags → UInt8 → UInt8 → UInt8 × Flags) (flags : Flags)
  {pairs : List (UInt8 × UInt8)}

theorem length_chain : (chain operation flags pairs).1.length = pairs.length := by
  induction pairs generalizing flags with
  | nil => rfl
  | cons pair rest ih =>
    simp only [chain, List.length_cons]
    rw [ih]

/-- What every byte of the operands has and the operation keeps, every byte of the result has. -/
theorem forall_mem_chain {good : UInt8 → Prop}
    (keeps : ∀ flags a b, good a → good b → good (operation flags a b).1)
    (operands : ∀ pair ∈ pairs, good pair.1 ∧ good pair.2) :
    ∀ byte ∈ (chain operation flags pairs).1, good byte := by
  induction pairs generalizing flags with
  | nil =>
    intro byte member
    cases member
  | cons pair rest ih =>
    obtain ⟨⟨first, second⟩, others⟩ := List.forall_mem_cons.mp operands
    intro byte member
    rcases List.mem_cons.mp member with rfl | member
    · exact keeps flags pair.1 pair.2 first second
    · exact ih _ others byte member

/-- The flags at the end are those of the last byte. -/
theorem exists_last_of_chain (nonempty : pairs ≠ []) :
    ∃ before a b, (chain operation flags pairs).1.getLast? = (operation before a b).1 ∧
      (chain operation flags pairs).2 = (operation before a b).2 := by
  induction pairs generalizing flags with
  | nil => exact absurd rfl nonempty
  | cons pair rest ih =>
    cases rest with
    | nil => exact ⟨flags, pair.1, pair.2, rfl, rfl⟩
    | cons next rest =>
      obtain ⟨before, a, b, last, after⟩ := @ih (operation flags pair.1 pair.2).2 (by simp)
      exact ⟨before, a, b, last, after⟩

/-- The number whose digits stand in bytes, the least significant one first. -/
def value (base : Nat) (digit : UInt8 → Nat) (bytes : List UInt8) : Nat :=
  Nat.ofDigits base (bytes.map digit)

theorem value_cons (base : Nat) (digit : UInt8 → Nat) (byte : UInt8) (rest : List UInt8) :
    value base digit (byte :: rest) = digit byte + base * value base digit rest :=
  Nat.ofDigits_cons

theorem value_append (base : Nat) (digit : UInt8 → Nat) (low high : List UInt8) :
    value base digit (low ++ high) =
      value base digit low + base ^ low.length * value base digit high := by
  rw [value, List.map_append, Nat.ofDigits_append, List.length_map]
  rfl

theorem value_lt {base : Nat} {digit : UInt8 → Nat} {bytes : List UInt8} (large : 1 < base)
    (small : ∀ byte ∈ bytes, digit byte < base) :
    value base digit bytes < base ^ bytes.length := by
  have bound := Nat.ofDigits_lt_base_pow_length large (List.forall_mem_map.mpr small)
  rwa [List.length_map] at bound

/-- What holds of one byte holds of the whole number: with `sign` 1 the carry that comes out makes
up for what the sum exceeds, with `sign` -1 the borrow for what the difference lacks. -/
theorem value_chain {base : Nat} {digit : UInt8 → Nat} {good : UInt8 → Prop} (sign : Int)
    (bytewise : ∀ flags a b, good a → good b →
      (digit (operation flags a b).1 : Int) + sign * base * (operation flags a b).2.carry.toNat =
        digit a + sign * (digit b + flags.carry.toNat))
    (operands : ∀ pair ∈ pairs, good pair.1 ∧ good pair.2) :
    (value base digit (chain operation flags pairs).1 : Int) +
        sign * base ^ pairs.length * (chain operation flags pairs).2.carry.toNat =
      value base digit (pairs.map Prod.fst) +
        sign * (value base digit (pairs.map Prod.snd) + flags.carry.toNat) := by
  induction pairs generalizing flags with
  | nil => simp [chain, value]
  | cons pair rest ih =>
    obtain ⟨⟨first, second⟩, others⟩ := List.forall_mem_cons.mp operands
    have byte := bytewise flags pair.1 pair.2 first second
    have behind := ih (operation flags pair.1 pair.2).2 others
    simp only [chain, List.map_cons, List.length_cons, value_cons, Nat.cast_add, Nat.cast_mul]
    linear_combination byte + (base : Int) * behind

theorem carry_iff_le {result modulus total : Nat} {carry : Bool} (bound : result < modulus)
    (whole : result + modulus * carry.toNat = total) : carry = true ↔ modulus ≤ total := by
  cases carry with
  | true =>
    rw [Bool.toNat_true] at whole
    exact iff_of_true rfl (by omega)
  | false =>
    rw [Bool.toNat_false] at whole
    exact iff_of_false Bool.false_ne_true (by omega)

theorem borrow_iff_neg {result modulus : Nat} {rest : Int} {borrow : Bool}
    (bound : result < modulus)
    (whole : (result : Int) + modulus * -borrow.toNat = rest) : borrow = true ↔ rest < 0 := by
  cases borrow with
  | true =>
    rw [Bool.toNat_true] at whole
    exact iff_of_true rfl (by omega)
  | false =>
    rw [Bool.toNat_false] at whole
    exact iff_of_false Bool.false_ne_true (by omega)

end SM83.Alu
