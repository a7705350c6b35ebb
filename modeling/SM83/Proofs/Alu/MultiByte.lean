import SM83.Alu.Bit
import SM83.Proofs.Alu.Adder
import SM83.Proofs.Alu.Chain

/-! Binary numbers of any length, added and subtracted byte by byte. Between the bytes a program
counts its loop and tests bits, all on the same flags: those operations keep the carry. -/
namespace SM83.Alu

variable {flags : Flags} {pairs : List (UInt8 × UInt8)}

theorem adc8_spec (flags : Flags) (a b : UInt8) :
    (adc8 flags a b).1.toNat + 256 * (adc8 flags a b).2.carry.toNat =
      a.toNat + b.toNat + flags.carry.toNat := by
  have sum : (adc8 flags a b).1.toNat = _ := toNat_addWithCarry flags.carry a b
  have carried : (adc8 flags a b).2.carry = _ := carry_addWithCarry flags.carry a b
  have first := a.toNat_lt
  have second := b.toNat_lt
  have bit := flags.carry.toNat_le
  by_cases exceeds : 255 < a.toNat + b.toNat + flags.carry.toNat
  · rw [sum, carried, decide_eq_true exceeds, Bool.toNat_true]
    omega
  · rw [sum, carried, decide_eq_false exceeds, Bool.toNat_false]
    omega

theorem sbc8_spec (flags : Flags) (a b : UInt8) :
    ((sbc8 flags a b).1.toNat : Int) - 256 * (sbc8 flags a b).2.carry.toNat =
      a.toNat - b.toNat - flags.carry.toNat := by
  have difference : ((sbc8 flags a b).1.toNat : Int) = _ :=
    toNat_subtractWithBorrow flags.carry a b
  have borrowed : (sbc8 flags a b).2.carry = _ := carry_subtractWithBorrow flags.carry a b
  have first := a.toNat_lt
  have second := b.toNat_lt
  have bit := flags.carry.toNat_le
  by_cases borrows : a.toNat < b.toNat + flags.carry.toNat
  · rw [difference, borrowed, decide_eq_true borrows, Bool.toNat_true]
    omega
  · rw [difference, borrowed, decide_eq_false borrows, Bool.toNat_false]
    omega

/-- The number that bytes stand for, the least significant byte first. -/
def binaryValue (bytes : List UInt8) : Nat :=
  value 256 UInt8.toNat bytes

theorem binaryValue_lt (bytes : List UInt8) : binaryValue bytes < 256 ^ bytes.length :=
  value_lt (by decide) fun byte _ => byte.toNat_lt

theorem binaryValue_chain_adc8 :
    binaryValue (chain adc8 flags pairs).1 +
        256 ^ pairs.length * (chain adc8 flags pairs).2.carry.toNat =
      binaryValue (pairs.map Prod.fst) + binaryValue (pairs.map Prod.snd) +
        flags.carry.toNat := by
  have bytewise : ∀ flags a b, True → True →
      ((adc8 flags a b).1.toNat : Int) + 1 * (256 : Nat) * (adc8 flags a b).2.carry.toNat =
        a.toNat + 1 * (b.toNat + flags.carry.toNat) := by
    intro flags a b _ _
    have byte := adc8_spec flags a b
    omega
  have operands : ∀ pair ∈ pairs, True ∧ True := fun _ _ => ⟨trivial, trivial⟩
  have whole := value_chain adc8 flags 1 bytewise operands
  zify
  simp only [binaryValue, Nat.cast_ofNat] at whole ⊢
  linear_combination whole

theorem binaryValue_chain_sbc8 :
    (binaryValue (chain sbc8 flags pairs).1 : Int) -
        256 ^ pairs.length * (chain sbc8 flags pairs).2.carry.toNat =
      binaryValue (pairs.map Prod.fst) - binaryValue (pairs.map Prod.snd) -
        flags.carry.toNat := by
  have bytewise : ∀ flags a b, True → True →
      ((sbc8 flags a b).1.toNat : Int) + (-1) * (256 : Nat) * (sbc8 flags a b).2.carry.toNat =
        a.toNat + (-1) * (b.toNat + flags.carry.toNat) := by
    intro flags a b _ _
    have byte := sbc8_spec flags a b
    omega
  have operands : ∀ pair ∈ pairs, True ∧ True := fun _ _ => ⟨trivial, trivial⟩
  have whole := value_chain sbc8 flags (-1) bytewise operands
  simp only [binaryValue, Nat.cast_ofNat] at whole ⊢
  linear_combination whole

/-- The borrow that comes out compares the operands. -/
theorem carry_chain_sbc8 :
    (chain sbc8 flags pairs).2.carry = true ↔
      (binaryValue (pairs.map Prod.fst) : Int) - flags.carry.toNat <
        binaryValue (pairs.map Prod.snd) := by
  have bound : binaryValue (chain sbc8 flags pairs).1 < 256 ^ pairs.length := by
    rw [← length_chain sbc8 flags]
    exact binaryValue_lt _
  have whole := @binaryValue_chain_sbc8 flags pairs
  have exact : (binaryValue (chain sbc8 flags pairs).1 : Int) +
      (256 ^ pairs.length : Nat) * -(chain sbc8 flags pairs).2.carry.toNat =
        binaryValue (pairs.map Prod.fst) - binaryValue (pairs.map Prod.snd) -
          flags.carry.toNat := by
    push_cast
    linear_combination whole
  rw [borrow_iff_neg bound exact]
  omega

/-- An operation on a value of its own. -/
inductive Aside where
  | inc (value : UInt8)
  | dec (value : UInt8)
  | bitTest (value index : UInt8)
  | setBit (value index : UInt8)
  | resetBit (value index : UInt8)

namespace Aside

/-- The value as the operation leaves it, and the flags. -/
def perform (flags : Flags) : Aside → UInt8 × Flags
  | inc value => inc8 flags value
  | dec value => dec8 flags value
  | bitTest value index => (value, Alu.bitTest flags value index)
  | setBit value index => (Alu.setBit value index, flags)
  | resetBit value index => (Alu.resetBit value index, flags)

-- The sum with one and the difference from one overwrite the carry, which is then put back.
@[simp] theorem carry_perform (flags : Flags) (aside : Aside) :
    (aside.perform flags).2.carry = flags.carry := by
  cases aside <;> rfl

end Aside

/-- A call of a program that works on two numbers: a pair of bytes, or something else. -/
inductive Call where
  | bytes (a b : UInt8)
  | aside (other : Aside)

namespace Call

def operands? : Call → Option (UInt8 × UInt8)
  | bytes a b => some (a, b)
  | aside _ => none

end Call

/-- A program on one set of flags, with the bytes that its operation gave. -/
def interrupted (operation : Flags → UInt8 → UInt8 → UInt8 × Flags) (flags : Flags) :
    List Call → List UInt8 × Flags
  | [] => ([], flags)
  | .bytes a b :: rest =>
    let first := operation flags a b
    let behind := interrupted operation first.2 rest
    (first.1 :: behind.1, behind.2)
  | .aside other :: rest => interrupted operation (other.perform flags).2 rest

/-- An operation that looks at the carry alone of the flags does not notice what stands between its
bytes. -/
theorem interrupted_eq_chain {operation : Flags → UInt8 → UInt8 → UInt8 × Flags}
    (carried : ∀ {flags other : Flags} (a b : UInt8), flags.carry = other.carry →
      operation flags a b = operation other a b)
    {other : Flags} (same : flags.carry = other.carry) (calls : List Call) :
    (interrupted operation flags calls).1 =
        (chain operation other (calls.filterMap Call.operands?)).1 ∧
      (interrupted operation flags calls).2.carry =
        (chain operation other (calls.filterMap Call.operands?)).2.carry := by
  induction calls generalizing flags other with
  | nil => exact ⟨rfl, same⟩
  | cons call rest ih =>
    cases call with
    | bytes a b =>
      have first := carried a b same
      obtain ⟨behind, carry⟩ := @ih (operation flags a b).2 (operation other a b).2 (by rw [first])
      refine ⟨?_, carry⟩
      change (operation flags a b).1 :: _ = (operation other a b).1 :: _
      rw [behind, first]
    | aside between =>
      exact ih ((between.carry_perform flags).trans same)

/-- Binary numbers of any length are added and subtracted exactly through the carry, which weighs
as much as the byte behind the last one; the borrow of a difference compares the operands. Whatever
counts or works on bits before, between and behind the bytes changes neither bytes nor carry. -/
theorem binary_arithmetic {n : Nat} {a b : List UInt8} (flags : Flags)
    (lengthA : a.length = n) (lengthB : b.length = n) :
    let sum := chain adc8 flags (a.zip b)
    let difference := chain sbc8 flags (a.zip b)
    (sum.1.length = n ∧
      binaryValue sum.1 + 256 ^ n * sum.2.carry.toNat =
        binaryValue a + binaryValue b + flags.carry.toNat) ∧
    (difference.1.length = n ∧
      (binaryValue difference.1 : Int) - 256 ^ n * difference.2.carry.toNat =
        binaryValue a - binaryValue b - flags.carry.toNat ∧
      (difference.2.carry = true ↔
        (binaryValue a : Int) - flags.carry.toNat < binaryValue b)) ∧
    ∀ calls : List Call, calls.filterMap Call.operands? = a.zip b →
      ((interrupted adc8 flags calls).1 = sum.1 ∧
        (interrupted adc8 flags calls).2.carry = sum.2.carry) ∧
      (interrupted sbc8 flags calls).1 = difference.1 ∧
        (interrupted sbc8 flags calls).2.carry = difference.2.carry := by
  intro sum difference
  have count : (a.zip b).length = n := by
    rw [List.length_zip, lengthA, lengthB, Nat.min_self]
  have left : (a.zip b).map Prod.fst = a := List.map_fst_zip (by omega)
  have right : (a.zip b).map Prod.snd = b := List.map_snd_zip (by omega)
  have added := @binaryValue_chain_adc8 flags (a.zip b)
  have subtracted := @binaryValue_chain_sbc8 flags (a.zip b)
  have compared := @carry_chain_sbc8 flags (a.zip b)
  rw [left, right] at added subtracted compared
  rw [count] at added subtracted
  refine ⟨⟨(length_chain adc8 flags).trans count, added⟩,
    ⟨(length_chain sbc8 flags).trans count, subtracted, compared⟩, ?_⟩
  intro calls operands
  have addition {flags other : Flags} (a b : UInt8) (same : flags.carry = other.carry) :
      adc8 flags a b = adc8 other a b := by
    unfold adc8
    rw [same]
  have subtraction {flags other : Flags} (a b : UInt8) (same : flags.carry = other.carry) :
      sbc8 flags a b = sbc8 other a b := by
    unfold sbc8
    rw [same]
  have sums := interrupted_eq_chain addition (@rfl _ flags.carry) calls
  have differences := interrupted_eq_chain subtraction (@rfl _ flags.carry) calls
  rw [operands] at sums differences
  exact ⟨sums, differences⟩

/-- FFFF and 0000 with a carry make 10000, also with a loop counter that runs out in between. -/
theorem carry_through_two_bytes :
    let calls := [.bytes 0xFF 0x00, .aside (.dec 1), .aside (.bitTest 0 7), .bytes 0xFF 0x00]
    let sum := interrupted adc8 { Flags.clear with carry := true } calls
    binaryValue sum.1 + 256 ^ 2 * sum.2.carry.toNat = 0x10000 ∧
      (chain sbc8 { Flags.clear with carry := true } [(0xFF, 0x00), (0xFF, 0x00)]).2.carry =
        false := by
  intro calls sum
  obtain ⟨⟨-, added⟩, ⟨-, -, compared⟩, undisturbed⟩ :=
    binary_arithmetic (n := 2) (a := [0xFF, 0xFF]) (b := [0x00, 0x00])
      { Flags.clear with carry := true } rfl rfl
  obtain ⟨⟨bytes, carry⟩, -⟩ := undisturbed calls rfl
  constructor
  · rw [bytes, carry]
    exact added
  · exact Bool.eq_false_iff.mpr (mt compared.mp (by decide))

end SM83.Alu
