import SM83.Alu.Shift
import SM83.Proofs.Alu.MultiByte

/-! Numbers of many bytes shifted by one place through the carry: to the left from the least
significant byte on, to the right from the most significant one. Each byte hands the bit that leaves
it to the next in the carry flag. -/
namespace SM83.Alu

/-- Applies an operation to bytes in order, each with the flags the one before left. The first byte
has an operation of its own. -/
def sweep (first others : Flags → UInt8 → UInt8 × Flags) (flags : Flags) :
    List UInt8 → List UInt8 × Flags
  | [] => ([], flags)
  | byte :: rest =>
    let head := first flags byte
    let behind := sweep others others head.2 rest
    (head.1 :: behind.1, behind.2)

/-- Sweeps from the most significant byte to the least significant one, which stands first. -/
def sweepDown (first others : Flags → UInt8 → UInt8 × Flags) (flags : Flags)
    (bytes : List UInt8) : List UInt8 × Flags :=
  let swept := sweep first others flags bytes.reverse
  (swept.1.reverse, swept.2)

variable (first others : Flags → UInt8 → UInt8 × Flags) (flags : Flags) (bytes : List UInt8)

theorem length_sweep : (sweep first others flags bytes).1.length = bytes.length := by
  induction bytes generalizing first flags with
  | nil => rfl
  | cons byte rest ih => rw [sweep, List.length_cons, ih, List.length_cons]

theorem length_sweepDown : (sweepDown first others flags bytes).1.length = bytes.length := by
  rw [sweepDown, List.length_reverse, length_sweep, List.length_reverse]

/-- The byte to the left and the bit that leaves it make twice the byte and the bit that comes
in. -/
theorem toNat_shiftedIn_left : ∀ (byte : UInt8) (carry : Bool),
    (byte <<< 1 ||| carry.toUInt8).toNat + 256 * (topBit byte).toNat =
      2 * byte.toNat + carry.toNat := by
  decide +kernel

/-- Twice the byte to the right and the bit that leaves it make the byte and the bit that comes in
above it. -/
theorem toNat_shiftedIn_right : ∀ (byte : UInt8) (carry : Bool),
    2 * (byte >>> 1 ||| if carry then 0x80 else 0).toNat + (bottomBit byte).toNat =
      byte.toNat + 256 * carry.toNat := by
  decide +kernel

theorem rotateLeftThroughCarry_spec (flags : Flags) (byte : UInt8) :
    (rotateLeftThroughCarry flags byte).1.toNat +
        256 * (rotateLeftThroughCarry flags byte).2.carry.toNat =
      2 * byte.toNat + flags.carry.toNat :=
  toNat_shiftedIn_left byte flags.carry

theorem rotateRightThroughCarry_spec (flags : Flags) (byte : UInt8) :
    2 * (rotateRightThroughCarry flags byte).1.toNat +
        (rotateRightThroughCarry flags byte).2.carry.toNat =
      byte.toNat + 256 * flags.carry.toNat :=
  toNat_shiftedIn_right byte flags.carry

/-- A clear bit comes in as from a clear carry. -/
theorem shiftLeft_eq (flags : Flags) (byte : UInt8) :
    shiftLeft byte = rotateLeftThroughCarry { flags with carry := false } byte :=
  congrArg (shifted · (topBit byte)) UInt8.or_zero.symm

theorem shiftRightLogical_eq (flags : Flags) (byte : UInt8) :
    shiftRightLogical byte = rotateRightThroughCarry { flags with carry := false } byte :=
  congrArg (shifted · (bottomBit byte)) UInt8.or_zero.symm

/-- The sign comes in as from the carry. -/
theorem shiftRightArithmetic_eq (flags : Flags) (byte : UInt8) :
    shiftRightArithmetic byte =
      rotateRightThroughCarry { flags with carry := topBit byte } byte := by
  have sign : ∀ byte : UInt8, byte &&& 0x80 = if topBit byte then 0x80 else 0 := by
    decide +kernel
  rw [shiftRightArithmetic, rotateRightThroughCarry, sign]

/-- Twice the number and the carry that came in, with the carry that comes out weighing as much as
the byte behind the last. -/
theorem binaryValue_sweep_left :
    let swept := sweep rotateLeftThroughCarry rotateLeftThroughCarry flags bytes
    binaryValue swept.1 + 256 ^ bytes.length * swept.2.carry.toNat =
      2 * binaryValue bytes + flags.carry.toNat := by
  induction bytes generalizing flags with
  | nil => simp [sweep, binaryValue, value]
  | cons byte rest ih =>
    have head := rotateLeftThroughCarry_spec flags byte
    have behind := ih (rotateLeftThroughCarry flags byte).2
    simp only [binaryValue] at behind
    simp only [sweep, binaryValue, value_cons, List.length_cons, pow_succ', Nat.mul_assoc]
    omega

theorem binaryValue_concat (low : List UInt8) (top : UInt8) :
    binaryValue (low ++ [top]) = binaryValue low + 256 ^ low.length * top.toNat := by
  rw [binaryValue, value_append]
  simp [binaryValue, value]

/-- Here the most significant byte stands first. -/
theorem binaryValue_sweep_right :
    let swept := sweep rotateRightThroughCarry rotateRightThroughCarry flags bytes
    2 * binaryValue swept.1.reverse + swept.2.carry.toNat =
      binaryValue bytes.reverse + 256 ^ bytes.length * flags.carry.toNat := by
  induction bytes generalizing flags with
  | nil => simp [sweep, binaryValue, value]
  | cons byte rest ih =>
    have head := rotateRightThroughCarry_spec flags byte
    have behind := ih (rotateRightThroughCarry flags byte).2
    simp only [sweep, List.reverse_cons, binaryValue_concat, List.length_reverse, length_sweep,
      List.length_cons, pow_succ]
    zify at head behind ⊢
    linear_combination behind + 256 ^ rest.length * head

theorem binaryValue_sweepDown :
    let swept := sweepDown rotateRightThroughCarry rotateRightThroughCarry flags bytes
    2 * binaryValue swept.1 + swept.2.carry.toNat =
      binaryValue bytes + 256 ^ bytes.length * flags.carry.toNat := by
  have swept := binaryValue_sweep_right flags bytes.reverse
  rwa [List.reverse_reverse, List.length_reverse] at swept

/-- Bytes of the same number are the same bytes. -/
theorem eq_of_binaryValue {bytes other : List UInt8} (length : bytes.length = other.length)
    (same : binaryValue bytes = binaryValue other) : bytes = other := by
  have digits : bytes.map UInt8.toNat = other.map UInt8.toNat := by
    refine Nat.ofDigits_inj_of_len_eq (by decide) ?_ ?_ ?_ same
    · rw [List.length_map, List.length_map, length]
    · exact List.forall_mem_map.mpr fun byte _ => byte.toNat_lt
    · exact List.forall_mem_map.mpr fun byte _ => byte.toNat_lt
  exact List.map_injective_iff.mpr (fun _ _ => UInt8.toNat_inj.mp) digits

/-- A bit below a number and a bit above it can be told from the whole. -/
theorem eq_of_bit_below {bytes other : List UInt8} {one two : Bool}
    (length : bytes.length = other.length)
    (same : 2 * binaryValue bytes + one.toNat = 2 * binaryValue other + two.toNat) :
    bytes = other ∧ one = two := by
  have first := one.toNat_le
  have second := two.toNat_le
  refine ⟨eq_of_binaryValue length (by omega), ?_⟩
  have bits : one.toNat = two.toNat := by omega
  cases one <;> cases two <;> first | rfl | cases bits

theorem eq_of_bit_above {bytes other : List UInt8} {one two : Bool}
    (length : bytes.length = other.length)
    (same : binaryValue bytes + 256 ^ bytes.length * one.toNat =
      binaryValue other + 256 ^ other.length * two.toNat) :
    bytes = other ∧ one = two := by
  have first := binaryValue_lt bytes
  have second := binaryValue_lt other
  rw [length] at same first
  cases one <;> cases two <;> simp only [Bool.toNat_true, Bool.toNat_false] at same
  · exact ⟨eq_of_binaryValue length (by omega), rfl⟩
  · omega
  · omega
  · exact ⟨eq_of_binaryValue length (by omega), rfl⟩

/-- The number twice and a carry that comes in. -/
structure Doubled (bytes : List UInt8) (carry : Bool) (outcome : List UInt8 × Flags) : Prop where
  length : outcome.1.length = bytes.length
  value : binaryValue outcome.1 + 256 ^ bytes.length * outcome.2.carry.toNat =
    2 * binaryValue bytes + carry.toNat

/-- Half the number below a carry that comes in, rounded down, and what is lost by that. -/
structure Halved (bytes : List UInt8) (carry : Bool) (outcome : List UInt8 × Flags) : Prop where
  length : outcome.1.length = bytes.length
  value : binaryValue outcome.1 = (binaryValue bytes + carry.toNat * 256 ^ bytes.length) / 2
  carry : outcome.2.carry.toNat = binaryValue bytes % 2

theorem doubled_sweep :
    Doubled bytes flags.carry
      (sweep rotateLeftThroughCarry rotateLeftThroughCarry flags bytes) :=
  ⟨length_sweep _ _ _ _, binaryValue_sweep_left flags bytes⟩

variable {bytes}

theorem halved_sweepDown (nonempty : bytes ≠ []) :
    Halved bytes flags.carry
      (sweepDown rotateRightThroughCarry rotateRightThroughCarry flags bytes) := by
  have swept := binaryValue_sweepDown flags bytes
  have bit := Bool.toNat_le
    (sweepDown rotateRightThroughCarry rotateRightThroughCarry flags bytes).2.carry
  -- The carry that comes in stands above at least one byte, so it weighs an even number.
  obtain ⟨half, even⟩ : ∃ half, 256 ^ bytes.length * flags.carry.toNat = 2 * half := by
    obtain ⟨count, length⟩ := Nat.exists_eq_add_one.mpr (List.length_pos_iff.mpr nonempty)
    rw [length, pow_succ]
    exact ⟨256 ^ count * 128 * flags.carry.toNat, by ring⟩
  refine ⟨length_sweepDown _ _ _ _, ?_, ?_⟩
  · rw [Nat.mul_comm flags.carry.toNat]
    omega
  · omega

/-- The way back to the right: the carry is where the way to the left has put it. -/
theorem sweepDown_sweep (bytes : List UInt8) :
    let left := sweep rotateLeftThroughCarry rotateLeftThroughCarry flags bytes
    let back := sweepDown rotateRightThroughCarry rotateRightThroughCarry left.2 left.1
    back.1 = bytes ∧ back.2.carry = flags.carry := by
  intro left back
  have doubled := doubled_sweep flags bytes
  have halved : 2 * binaryValue back.1 + back.2.carry.toNat = _ :=
    binaryValue_sweepDown left.2 left.1
  refine eq_of_bit_below ((length_sweepDown _ _ _ _).trans doubled.length) ?_
  rw [halved, doubled.length]
  exact doubled.value

/-- The way back to the left. -/
theorem sweep_sweepDown (bytes : List UInt8) :
    let right := sweepDown rotateRightThroughCarry rotateRightThroughCarry flags bytes
    let back := sweep rotateLeftThroughCarry rotateLeftThroughCarry right.2 right.1
    back.1 = bytes ∧ back.2.carry = flags.carry := by
  intro right back
  have doubled := doubled_sweep right.2 right.1
  have length : back.1.length = bytes.length := doubled.length.trans (length_sweepDown _ _ _ _)
  refine eq_of_bit_above length ?_
  rw [doubled.length]
  exact doubled.value.trans (binaryValue_sweepDown flags bytes)

theorem sweep_shiftLeft (nonempty : bytes ≠ []) :
    sweep (fun _ => shiftLeft) rotateLeftThroughCarry flags bytes =
      sweep rotateLeftThroughCarry rotateLeftThroughCarry { flags with carry := false } bytes := by
  obtain ⟨byte, rest, rfl⟩ := List.exists_cons_of_ne_nil nonempty
  rw [sweep, sweep, shiftLeft_eq flags]

/-- On the way down the operation of its own is that of the most significant byte. -/
theorem sweepDown_of_top {before : Flags} {top : UInt8}
    (same : first flags top = others before top) (low : List UInt8) :
    sweepDown first others flags (low ++ [top]) =
      sweepDown others others before (low ++ [top]) := by
  rw [sweepDown, sweepDown, List.reverse_concat, sweep, sweep, same]

/-- The top bit of the number. -/
def signBit (bytes : List UInt8) : Bool :=
  (binaryValue bytes).testBit (8 * bytes.length - 1)

/-- The number in two's complement. -/
def signedValue (bytes : List UInt8) : Int :=
  (binaryValue bytes : Int).bmod (256 ^ bytes.length)

theorem topBit_eq_testBit : ∀ byte : UInt8, topBit byte = byte.toNat.testBit 7 := by
  decide +kernel

theorem signBit_concat (low : List UInt8) (top : UInt8) :
    signBit (low ++ [top]) = topBit top := by
  have base : 256 ^ low.length = 2 ^ (8 * low.length) := (pow_mul 2 8 low.length).symm
  have bound := binaryValue_lt low
  have whole : binaryValue (low ++ [top]) = 2 ^ (8 * low.length) * top.toNat + binaryValue low := by
    rw [binaryValue_concat, base, Nat.add_comm]
  have place : 8 * (low ++ [top]).length - 1 = 8 * low.length + 7 := by
    rw [List.length_append, List.length_singleton]
    omega
  rw [base] at bound
  rw [signBit, whole, place, Nat.testBit_two_pow_mul_add _ bound, if_neg (by omega),
    Nat.add_sub_cancel_left, topBit_eq_testBit]

theorem sweepDown_shiftRightLogical (nonempty : bytes ≠ []) :
    sweepDown (fun _ => shiftRightLogical) rotateRightThroughCarry flags bytes =
      sweepDown rotateRightThroughCarry rotateRightThroughCarry { flags with carry := false }
        bytes := by
  rw [← List.dropLast_append_getLast nonempty]
  exact sweepDown_of_top _ _ flags (shiftRightLogical_eq flags _) _

theorem sweepDown_shiftRightArithmetic (nonempty : bytes ≠ []) :
    sweepDown (fun _ => shiftRightArithmetic) rotateRightThroughCarry flags bytes =
      sweepDown rotateRightThroughCarry rotateRightThroughCarry
        { flags with carry := signBit bytes } bytes := by
  rw [← List.dropLast_append_getLast nonempty, signBit_concat]
  exact sweepDown_of_top _ _ flags (shiftRightArithmetic_eq flags _) _

/-- The sign splits the numbers of so many bytes in two halves. -/
theorem exists_half (nonempty : bytes ≠ []) :
    ∃ half, 256 ^ bytes.length = 2 * half ∧ binaryValue bytes < 2 * half ∧
      signBit bytes = decide (half ≤ binaryValue bytes) := by
  have positive := List.length_pos_iff.mpr nonempty
  let half := 2 ^ (8 * bytes.length - 1)
  have whole : 256 ^ bytes.length = 2 * half := by
    rw [← pow_succ', Nat.sub_add_cancel (by omega)]
    exact (pow_mul 2 8 bytes.length).symm
  have bound := whole ▸ binaryValue_lt bytes
  refine ⟨half, whole, bound, ?_⟩
  rw [signBit, Nat.testBit_eq_decide_div_mod_eq, decide_eq_decide]
  change binaryValue bytes / half % 2 = 1 ↔ _
  by_cases negative : half ≤ binaryValue bytes
  · rw [Nat.div_eq_of_lt_le (k := 1) (by omega) (by omega)]
    exact iff_of_true rfl negative
  · rw [Nat.div_eq_of_lt (by omega)]
    exact iff_of_false (by decide) negative

theorem bmod_double {number half : Nat} (bound : number < 2 * half) :
    (number : Int).bmod (2 * half) =
      if number < half then (number : Int) else number - (2 * half : Nat) := by
  rw [Int.bmod_def, Int.emod_eq_of_lt (by omega) (by omega)]
  split <;> split <;> omega

/-- Half of a number in two's complement, rounded down: the sign comes in above it. -/
theorem signedValue_of_halved {outcome : List UInt8 × Flags} (nonempty : bytes ≠ [])
    (halved : Halved bytes (signBit bytes) outcome) :
    signedValue outcome.1 = signedValue bytes / 2 := by
  obtain ⟨length, value, -⟩ := halved
  obtain ⟨half, whole, bound, sign⟩ := exists_half nonempty
  rw [sign, whole] at value
  rw [signedValue, signedValue, length, whole, bmod_double bound]
  by_cases negative : half ≤ binaryValue bytes
  · rw [decide_eq_true negative, Bool.toNat_true] at value
    rw [if_neg (by omega), bmod_double (by omega), if_neg (by omega)]
    omega
  · rw [decide_eq_false negative, Bool.toNat_false] at value
    rw [if_pos (by omega), bmod_double (by omega), if_pos (by omega)]
    omega

/-- A number of any length is doubled exactly through the carry from its least significant byte on,
and halved, rounded down, from its most significant byte on. A sweep that starts with a plain shift
is the one into which a clear carry comes; one that starts with the arithmetic shift is the one into
which the sign comes, and halves in two's complement. Each way undoes the other. -/
theorem shifts_through_carry_exact (flags : Flags) :
    let rl := rotateLeftThroughCarry
    let rr := rotateRightThroughCarry
    (∀ bytes : List UInt8, bytes ≠ [] →
      let shiftedLeft := sweep (fun _ => shiftLeft) rl flags bytes
      let logical := sweepDown (fun _ => shiftRightLogical) rr flags bytes
      let arithmetic := sweepDown (fun _ => shiftRightArithmetic) rr flags bytes
      Doubled bytes flags.carry (sweep rl rl flags bytes) ∧
      (Doubled bytes false shiftedLeft ∧
        shiftedLeft = sweep rl rl { flags with carry := false } bytes) ∧
      Halved bytes flags.carry (sweepDown rr rr flags bytes) ∧
      (Halved bytes false logical ∧
        logical = sweepDown rr rr { flags with carry := false } bytes) ∧
      (Halved bytes (signBit bytes) arithmetic ∧
        arithmetic = sweepDown rr rr { flags with carry := signBit bytes } bytes ∧
        signedValue arithmetic.1 = signedValue bytes / 2)) ∧
    ∀ bytes : List UInt8,
      let left := sweep rl rl flags bytes
      let leftAndBack := sweepDown rr rr left.2 left.1
      let right := sweepDown rr rr flags bytes
      let rightAndBack := sweep rl rl right.2 right.1
      (leftAndBack.1 = bytes ∧ leftAndBack.2.carry = flags.carry) ∧
      rightAndBack.1 = bytes ∧ rightAndBack.2.carry = flags.carry := by
  intro rl rr
  constructor
  · intro bytes nonempty shiftedLeft logical arithmetic
    have first : shiftedLeft = sweep rl rl { flags with carry := false } bytes :=
      sweep_shiftLeft flags nonempty
    have plain : logical = sweepDown rr rr { flags with carry := false } bytes :=
      sweepDown_shiftRightLogical flags nonempty
    have signed : arithmetic = sweepDown rr rr { flags with carry := signBit bytes } bytes :=
      sweepDown_shiftRightArithmetic flags nonempty
    have halved : Halved bytes (signBit bytes) arithmetic := by
      rw [signed]
      exact halved_sweepDown { flags with carry := signBit bytes } nonempty
    refine ⟨doubled_sweep flags bytes, ⟨?_, first⟩, halved_sweepDown flags nonempty, ⟨?_, plain⟩,
      halved, signed, signedValue_of_halved nonempty halved⟩
    · rw [first]
      exact doubled_sweep { flags with carry := false } bytes
    · rw [plain]
      exact halved_sweepDown { flags with carry := false } nonempty
  · intro bytes left leftAndBack right rightAndBack
    exact ⟨sweepDown_sweep flags bytes, sweep_sweepDown flags bytes⟩

/-- The word 8001 is shifted to 0003 and a carry, and to C000 and a carry. -/
theorem word_with_outer_bits :
    let flags : Flags := { Flags.clear with carry := true }
    let bytes : List UInt8 := [0x01, 0x80]
    let left := sweep rotateLeftThroughCarry rotateLeftThroughCarry flags bytes
    let arithmetic :=
      sweepDown (fun _ => shiftRightArithmetic) rotateRightThroughCarry flags bytes
    binaryValue left.1 + 256 ^ 2 * left.2.carry.toNat = 0x10003 ∧
      binaryValue arithmetic.1 = 0xC000 ∧ arithmetic.2.carry.toNat = 1 ∧
      signedValue arithmetic.1 = -0x4000 := by
  intro flags bytes left arithmetic
  obtain ⟨exact, -⟩ := shifts_through_carry_exact flags
  obtain ⟨doubled, -, -, -, halved, -, signed⟩ := exact bytes (List.cons_ne_nil _ _)
  have value : signedValue bytes / 2 = -0x4000 := by decide
  exact ⟨doubled.value, halved.value.trans (by decide), halved.carry.trans (by decide),
    signed.trans value⟩

end SM83.Alu
