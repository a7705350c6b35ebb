import SM83.Proofs.LastWrite
import SM83.Proofs.Memory.Slice
import SM83.Proofs.Run.Observation

/-! Flat memory under writes of every kind, single bytes, words and loads of any length. Each address
holds the byte that was last written there, whichever way it was written and is read. -/
namespace SM83

inductive MemoryWrite where
  | load (address : UInt16) (bytes : List UInt8)
  | writeByte (address : UInt16) (value : UInt8)
  | writeWord (address value : UInt16)
  | set (address : UInt16) (value : UInt8)

/-- The bytes that are written, in order, each with its address. -/
def MemoryWrite.cells : MemoryWrite → List (UInt16 × UInt8)
  | load address bytes =>
    bytes.mapIdx fun offset value => (.ofNat (address.toNat + offset), value)
  | writeByte address value | set address value => [(address, value)]
  | writeWord address value =>
    [(address, .ofNat (value.toNat % 256)),
      (.ofNat (address.toNat + 1), .ofNat (value.toNat / 256))]

namespace Memory

def perform (memory : Memory) : MemoryWrite → Memory
  | .load address bytes => memory.load address bytes
  | .writeByte address value => ((Action.writeByte address value).observe memory).bus
  | .writeWord address value => ((Action.writeWord address value).observe memory).bus
  | .set address value => memory.set address value

def setCell (memory : Memory) (cell : UInt16 × UInt8) : Memory :=
  memory.set cell.1 cell.2

variable (memory : Memory) (address : UInt16)

/-- A load puts its bytes down one by one, also where it comes round to its own first bytes. -/
theorem load_eq_setCells (bytes : List UInt8) :
    memory.load address bytes = (MemoryWrite.load address bytes).cells.foldl setCell memory := by
  induction bytes generalizing memory address with
  | nil => rfl
  | cons value rest ih =>
    have first : UInt16.ofNat (address.toNat + 0) = address := UInt16.ofNat_toNat
    rw [load, ih]
    simp only [MemoryWrite.cells, List.mapIdx_cons, List.foldl_cons, first,
      Word.ofNat_toNat_succ_add]
    rfl

theorem perform_eq_setCells (write : MemoryWrite) :
    memory.perform write = write.cells.foldl setCell memory := by
  cases write with
  | load address bytes => exact memory.load_eq_setCells address bytes
  | writeByte address value => rfl
  | writeWord address value =>
    have low : Word.low value = .ofNat (value.toNat % 256) := by
      rw [← Word.toNat_low, UInt8.ofNat_toNat]
    have high : Word.high value = .ofNat (value.toNat / 256) := by
      rw [← Word.toNat_high, UInt8.ofNat_toNat]
    rw [MemoryWrite.cells, ← low, ← high, Word.ofNat_toNat_add]
    rfl
  | set address value => rfl

theorem performAll_eq_setCells (writes : List MemoryWrite) :
    writes.foldl perform memory = (writes.flatMap MemoryWrite.cells).foldl setCell memory := by
  rw [List.foldl_flatMap]
  congr 1
  funext memory write
  exact memory.perform_eq_setCells write

theorem get_setCells (cells : List (UInt16 × UInt8)) (x : UInt16) :
    (cells.foldl setCell memory).get x = lastUnder x cells (memory.get x) := by
  have single (memory : Memory) (cell : UInt16 × UInt8) (x : UInt16) :
      (memory.setCell cell).get x = if cell.1 = x then cell.2 else memory.get x :=
    memory.get_set cell.1 x cell.2
  have all := read_foldl get id single cells memory x
  rwa [List.map_id] at all

theorem getElem?_toList (x : UInt16) : memory.toList[x.toNat]? = some (memory.get x) := by
  rw [toList, Vector.getElem?_toList]
  exact Vector.getElem?_eq_getElem x.toNat_lt_size

theorem length_toList : memory.toList.length = 65536 :=
  Vector.length_toList

/-- A word is read with the byte behind the address counting 256 times. -/
theorem toNat_readWord :
    ((Action.readWord address).observe memory).value.toNat =
      (memory.get address).toNat + 256 * (memory.get (.ofNat (address.toNat + 1))).toNat := by
  rw [Word.ofNat_toNat_add]
  exact (Word.toNat_ofBytes _ _).trans (Nat.add_comm _ _)

/-- A load of as many bytes as there are addresses leaves nothing of what was before. -/
theorem load_whole {bytes : List UInt8} (whole : bytes.length = 65536) (other : Memory) :
    memory.load address bytes = other.load address bytes := by
  have loaded (memory : Memory) : (memory.load address bytes).slice address 65536 = bytes := by
    rw [← whole]
    exact slice_load (Nat.le_of_eq whole)
  exact eq_of_slice ((loaded memory).trans (loaded other).symm)

/-- Of more bytes than there are addresses only the last stay. -/
theorem load_eq_load_last {bytes : List UInt8} (more : 65536 ≤ bytes.length) (other : Memory) :
    let surplus := bytes.length - 65536
    memory.load address bytes =
      other.load (.ofNat (address.toNat + surplus)) (bytes.drop surplus) := by
  intro surplus
  have taken : (bytes.take surplus).length = surplus := List.length_take_of_le (by omega)
  have left : (bytes.drop surplus).length = 65536 := by
    rw [List.length_drop]
    omega
  calc memory.load address bytes
    _ = memory.load address (bytes.take surplus ++ bytes.drop surplus) := by
      rw [List.take_append_drop]
    _ = (memory.load address (bytes.take surplus)).load (.ofNat (address.toNat + surplus))
          (bytes.drop surplus) := by rw [load_append, taken]
    _ = other.load (.ofNat (address.toNat + surplus)) (bytes.drop surplus) :=
      load_whole _ _ left other

/-- Whatever is written to cleared memory, in bytes, words or loads, each address holds the byte that
was last written to it, or zero, in whichever way it is read; a word is read as two such bytes. A
load may be split anywhere. Up to 65536 bytes are all read back, wherever they start; of more the
last 65536 are what is left in memory. -/
theorem holds_last_written :
    (∀ writes : List MemoryWrite,
      let memory := writes.foldl perform zero
      let last (x : UInt16) : UInt8 := lastUnder x (writes.flatMap MemoryWrite.cells) 0
      memory.toList.length = 65536 ∧
      ∀ x : UInt16,
        (Action.readByte x).observe memory = ⟨last x, memory, [.read x (last x)], []⟩ ∧
        memory.get x = last x ∧
        memory.toList[x.toNat]? = some (last x) ∧
        ((Action.readWord x).observe memory).bus = memory ∧
        ((Action.readWord x).observe memory).value.toNat =
          (last x).toNat + 256 * (last (.ofNat (x.toNat + 1))).toNat) ∧
    ∀ (memory : Memory) (address : UInt16) (bytes : List UInt8),
      (∀ more, memory.load address (bytes ++ more) =
        (memory.load address bytes).load (.ofNat (address.toNat + bytes.length)) more) ∧
      (bytes.length ≤ 65536 → (memory.load address bytes).slice address bytes.length = bytes) ∧
      (65536 < bytes.length →
        let surplus := bytes.length - 65536
        let start : UInt16 := .ofNat (address.toNat + surplus)
        (memory.load address bytes).slice start 65536 = bytes.drop surplus ∧
          ∀ other : Memory, other.load start (bytes.drop surplus) = memory.load address bytes) := by
  constructor
  · intro writes memory last
    have holds (x : UInt16) : memory.get x = last x := by
      simp only [memory, last, performAll_eq_setCells, get_setCells, get_zero]
    refine ⟨memory.length_toList, fun x => ⟨?_, holds x, ?_, rfl, ?_⟩⟩
    · rw [← holds]
      rfl
    · rw [← holds]
      exact memory.getElem?_toList x
    · rw [← holds, ← holds]
      exact memory.toNat_readWord x
  · intro memory address bytes
    refine ⟨memory.load_append address bytes, slice_load, ?_⟩
    intro more surplus start
    have left : (bytes.drop surplus).length = 65536 := by
      rw [List.length_drop]
      omega
    have last (other : Memory) :
        memory.load address bytes = other.load start (bytes.drop surplus) :=
      memory.load_eq_load_last address (Nat.le_of_lt more) other
    refine ⟨?_, fun other => (last other).symm⟩
    have loaded := @slice_load memory start (bytes.drop surplus) (Nat.le_of_eq left)
    rwa [left, ← last] at loaded

/-- Three bytes across the top, and one byte more than there are addresses, of which the first is
lost. -/
theorem one_byte_too_many :
    (zero.load 0xFFFE [0x11, 0x22, 0x33]).slice 0xFFFE 3 = [0x11, 0x22, 0x33] ∧
      (zero.load 0xFFFF (0xAA :: List.replicate 65536 0xBB)).slice 0 65536 =
        List.replicate 65536 0xBB := by
  obtain ⟨-, loads⟩ := holds_last_written
  have length : (0xAA :: List.replicate 65536 (0xBB : UInt8)).length = 65537 := by
    rw [List.length_cons, List.length_replicate]
  obtain ⟨-, few, -⟩ := loads zero 0xFFFE [0x11, 0x22, 0x33]
  obtain ⟨-, -, many⟩ := loads zero 0xFFFF (0xAA :: List.replicate 65536 0xBB)
  refine ⟨few (by decide), ?_⟩
  have left := (many (by rw [length]; decide)).1
  rwa [length] at left

end Memory
end SM83
