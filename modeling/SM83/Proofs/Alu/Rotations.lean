import Mathlib.Data.FinEnum
import Mathlib.Data.Int.ModEq
import SM83.Alu.Shift

/-! Bytes that are rotated again and again, to either side and in any order. The byte by itself is a
ring of eight bits, with the carry above it one of nine. Only how many more rotations went to the
left than to the right counts, and of that only the remainder by the length of the ring. -/
namespace SM83.Alu

section Ring

variable {width : Nat} (word : BitVec width) {i j : Int}

/-- The bits moved around to the left by so many places, to the right by a negative number. -/
def turned (places : Int) : BitVec width :=
  word.rotateLeft (places % width).toNat

/-- By the length of the ring every number leaves one of its places as remainder. -/
theorem exists_offset (positive : 0 < width) (i : Int) :
    ∃ offset < width, i % width = (offset : Int) := by
  have modulus : (0 : Int) < width := by omega
  have bound := Int.emod_lt_of_pos i modulus
  obtain ⟨offset, remainder⟩ := Int.eq_ofNat_of_zero_le (Int.emod_nonneg i modulus.ne')
  exact ⟨offset, by omega, remainder⟩

theorem getLsbD_turned (i : Int) {place : Nat} (inside : place < width) :
    (turned word i).getLsbD place = word.getLsbD ((place - i) % width).toNat := by
  obtain ⟨shift, bound, remainder⟩ := exists_offset (Nat.zero_lt_of_lt inside) i
  have source : ((place : Int) - i) % width = (place - shift) % width := by
    rw [← remainder, Int.sub_emod_emod]
  rw [turned, source, remainder, Int.toNat_natCast, BitVec.getLsbD_rotateLeft,
    Nat.mod_eq_of_lt bound]
  -- The lowest bits come from the top of the word, all others from below their place.
  by_cases wraps : place < shift
  · have around : ((place : Int) - shift) % width = (width - shift + place : Nat) := by
      rw [← Int.add_emod_right, Int.emod_eq_of_lt (by omega) (by omega)]
      omega
    rw [around, Int.toNat_natCast]
    simp [wraps]
  · have straight : ((place : Int) - shift) % width = (place - shift : Nat) := by
      rw [Int.emod_eq_of_lt (by omega) (by omega)]
      omega
    rw [straight, Int.toNat_natCast]
    simp [wraps, inside]

theorem turned_zero : turned word 0 = word := by
  apply BitVec.eq_of_getLsbD_eq
  intro place inside
  rw [getLsbD_turned word 0 inside, Int.sub_zero, Int.emod_eq_of_lt (by omega) (by omega),
    Int.toNat_natCast]

theorem turned_turned : turned (turned word i) j = turned word (i + j) := by
  apply BitVec.eq_of_getLsbD_eq
  intro place inside
  obtain ⟨between, bound, source⟩ := exists_offset (Nat.zero_lt_of_lt inside) (place - j)
  have whole : ((between : Int) - i) % width = (place - (i + j)) % width := by
    rw [← source, Int.emod_sub_emod, Int.sub_sub, Int.add_comm j]
  rw [getLsbD_turned _ j inside, source, Int.toNat_natCast, getLsbD_turned _ i bound, whole,
    getLsbD_turned _ _ inside]

theorem turned_congr (same : i ≡ j [ZMOD width]) : turned word i = turned word j := by
  rw [turned, turned, same]

/-- Where a single bit ends up tells how far it was moved. -/
theorem modEq_of_turned_one (positive : 0 < width)
    (same : turned (.ofNat width 1) i = turned (.ofNat width 1) j) : i ≡ j [ZMOD width] := by
  -- The bit has come from place 0 to the same place in both words.
  obtain ⟨place, inside, moved⟩ := exists_offset positive i
  obtain ⟨offset, -, apart⟩ := exists_offset positive (i - j)
  have first : ((place : Int) - i) % width = 0 := by
    rw [← moved, Int.emod_sub_emod, Int.sub_self, Int.zero_emod]
  have second : ((place : Int) - j) % width = offset := by
    rw [← moved, Int.emod_sub_emod, apart]
  have bits : (turned (.ofNat width 1) i).getLsbD place =
      (turned (.ofNat width 1) j).getLsbD place := by rw [same]
  rw [getLsbD_turned _ i inside, getLsbD_turned _ j inside, first, second] at bits
  have origin : offset = 0 := by simpa [positive, eq_comm] using bits
  rw [origin] at apart
  exact Int.emod_eq_emod_iff_emod_sub_eq_zero.mpr apart

end Ring

inductive Direction where
  | left | right
deriving DecidableEq

namespace Direction

def opposite : Direction → Direction
  | left => right
  | right => left

/-- How far one rotation moves the bits to the left. -/
def places : Direction → Int
  | left => 1
  | right => -1

theorem places_opposite (direction : Direction) :
    direction.opposite.places = -direction.places := by
  cases direction <;> rfl

/-- The place where the bit that leaves the byte by itself comes back. -/
def entry : Direction → Nat
  | left => 0
  | right => 7

end Direction

/-- How many more rotations go to the left than to the right. -/
def leftward (directions : List Direction) : Int :=
  (directions.count .left : Int) - directions.count .right

theorem leftward_cons (direction : Direction) (rest : List Direction) :
    leftward (direction :: rest) = direction.places + leftward rest := by
  cases direction with
  | left =>
    simp [leftward, Direction.places]
    omega
  | right =>
    simp [leftward, Direction.places]
    omega

theorem leftward_append (first second : List Direction) :
    leftward (first ++ second) = leftward first + leftward second := by
  simp only [leftward, List.count_append]
  omega

theorem leftward_there_and_back (direction : Direction) (rest : List Direction) :
    leftward (direction :: direction.opposite :: rest) = leftward rest := by
  rw [leftward_cons, leftward_cons, direction.places_opposite]
  omega

/-- A rotation of the byte by itself. -/
def circular : Direction → Flags → UInt8 → UInt8 × Flags
  | .left, _, byte => rotateLeft byte
  | .right, _, byte => rotateRight byte

def throughCarry : Direction → Flags → UInt8 → UInt8 × Flags
  | .left => rotateLeftThroughCarry
  | .right => rotateRightThroughCarry

/-- Rotates again and again, each time the byte and with the flags that the rotation before left. -/
def rotateAll (rotate : Direction → Flags → UInt8 → UInt8 × Flags) :
    UInt8 × Flags → List Direction → UInt8 × Flags :=
  List.foldl fun state direction => rotate direction state.2 state.1

def byteAlone (state : UInt8 × Flags) : BitVec 8 :=
  state.1.toBitVec

def carryAbove (state : UInt8 × Flags) : BitVec 9 :=
  .cons state.2.carry state.1.toBitVec

theorem byteAlone_circular (direction : Direction) (state : UInt8 × Flags) :
    byteAlone (circular direction state.2 state.1) =
      turned (byteAlone state) direction.places := by
  have toLeft : ∀ byte : UInt8, (rotateLeft byte).1.toBitVec = turned byte.toBitVec 1 := by
    decide +kernel
  have toRight : ∀ byte : UInt8, (rotateRight byte).1.toBitVec = turned byte.toBitVec (-1) := by
    decide +kernel
  cases direction with
  | left => exact toLeft state.1
  | right => exact toRight state.1

theorem carryAbove_throughCarry (direction : Direction) (state : UInt8 × Flags) :
    carryAbove (throughCarry direction state.2 state.1) =
      turned (carryAbove state) direction.places := by
  have toLeft : ∀ (byte : UInt8) (carry : Bool),
      BitVec.cons (topBit byte) (byte <<< 1 ||| carry.toUInt8).toBitVec =
        turned (.cons carry byte.toBitVec) 1 := by
    decide +kernel
  have toRight : ∀ (byte : UInt8) (carry : Bool),
      BitVec.cons (bottomBit byte) (byte >>> 1 ||| if carry then 0x80 else 0).toBitVec =
        turned (.cons carry byte.toBitVec) (-1) := by
    decide +kernel
  cases direction with
  | left => exact toLeft state.1 state.2.carry
  | right => exact toRight state.1 state.2.carry

/-- The bit that left the byte is in the carry and in the byte again. -/
theorem carry_circular (direction : Direction) (flags : Flags) (byte : UInt8) :
    (circular direction flags byte).2.carry =
      (circular direction flags byte).1.toNat.testBit direction.entry := by
  have toLeft : ∀ byte : UInt8, topBit byte = (rotateLeft byte).1.toNat.testBit 0 := by
    decide +kernel
  have toRight : ∀ byte : UInt8, bottomBit byte = (rotateRight byte).1.toNat.testBit 7 := by
    decide +kernel
  cases direction with
  | left => exact toLeft byte
  | right => exact toRight byte

section Run

variable {width : Nat} {rotate : Direction → Flags → UInt8 → UInt8 × Flags}
  {word : UInt8 × Flags → BitVec width}

/-- If one rotation moves the bits by one place, many move them by as many places as more of them go
to the left than to the right. -/
theorem word_rotateAll
    (single : ∀ direction state,
      word (rotate direction state.2 state.1) = turned (word state) direction.places)
    (state : UInt8 × Flags) (directions : List Direction) :
    word (rotateAll rotate state directions) = turned (word state) (leftward directions) := by
  induction directions generalizing state with
  | nil => exact (turned_zero (word state)).symm
  | cons direction rest ih =>
    have behind := ih (rotate direction state.2 state.1)
    rw [single, turned_turned, ← leftward_cons] at behind
    exact behind

theorem carry_rotateAll (state : UInt8 × Flags) {directions : List Direction} {last : Direction}
    (ends : directions.getLast? = some last) :
    let after := rotateAll circular state directions
    after.2.carry = after.1.toNat.testBit last.entry := by
  obtain ⟨before, rfl⟩ := List.getLast?_eq_some_iff.mp ends
  rw [rotateAll, List.foldl_concat]
  exact carry_circular last _ _

variable (rotate word)

/-- Rotations that act on a word as a cyclic group, whose order is the number of its bits. -/
structure Cyclic : Prop where
  rotated : ∀ state directions, word (rotateAll rotate state directions) =
    (word state).rotateLeft (leftward directions % width).toNat
  /-- Two sequences do the same to every word just if they agree modulo the number of its bits. -/
  same_iff : ∀ first second,
    (∀ state, word (rotateAll rotate state first) = word (rotateAll rotate state second)) ↔
      leftward first ≡ leftward second [ZMOD width]
  /-- Wherever they stand in a sequence, one rotation and the one to the other side do nothing. -/
  undone : ∀ state before direction after,
    word (rotateAll rotate state (before ++ direction :: direction.opposite :: after)) =
      word (rotateAll rotate state (before ++ after))

variable {rotate word}

theorem Cyclic.of_single (positive : 0 < width) (unit : UInt8 × Flags)
    (one : word unit = .ofNat width 1)
    (single : ∀ direction state,
      word (rotate direction state.2 state.1) = turned (word state) direction.places) :
    Cyclic rotate word := by
  have run := word_rotateAll single
  refine ⟨run, ?_, ?_⟩
  · intro first second
    constructor
    · intro same
      have moved := same unit
      rw [run, run, one] at moved
      exact modEq_of_turned_one positive moved
    · intro same state
      rw [run, run, turned_congr _ same]
  · intro state before direction after
    rw [run, run, leftward_append, leftward_there_and_back, ← leftward_append]

end Run

/-- Rotations through the carry form a cyclic group of order nine on the carry above the byte, those
of the byte by itself one of order eight on the byte. The latter leave in the carry the bit that came
back last: at the bottom after a rotation to the left, at the top after one to the right. -/
theorem rotations_form_cyclic_groups :
    Cyclic throughCarry carryAbove ∧ Cyclic circular byteAlone ∧
      ∀ (state : UInt8 × Flags) (directions : List Direction),
        let after := rotateAll circular state directions
        (directions.getLast? = some .left → after.2.carry = after.1.toNat.testBit 0) ∧
        (directions.getLast? = some .right → after.2.carry = after.1.toNat.testBit 7) := by
  refine ⟨?_, ?_, ?_⟩
  · exact .of_single (by decide) (1, Flags.clear) rfl carryAbove_throughCarry
  · exact .of_single (by decide) (1, Flags.clear) rfl byteAlone_circular
  · intro state directions after
    exact ⟨carry_rotateAll state, carry_rotateAll state⟩

/-- Two rotations to the left and four to the right move 96 by two places to the right, and leave in
the carry the top bit of A5. -/
theorem two_places_to_the_right :
    let state : UInt8 × Flags := (0x96, { Flags.clear with carry := true })
    let directions : List Direction := [.left, .right, .right, .left, .right, .right]
    carryAbove (rotateAll throughCarry state directions) = 0b101100101 ∧
      byteAlone (rotateAll circular state directions) = 0xA5 ∧
      directions.getLast? = some .right ∧ (rotateAll circular state directions).2.carry = true := by
  intro state directions
  obtain ⟨nine, eight, carry⟩ := rotations_form_cyclic_groups
  have last : directions.getLast? = some .right := rfl
  refine ⟨?_, ?_, last, ?_⟩
  · rw [nine.rotated]
    decide
  · rw [eight.rotated]
    decide
  · rw [(carry state directions).2 last]
    decide

end SM83.Alu
