import SM83.Memory

/-! Consecutive bytes of memory. Addresses wrap at the top of the address space, so a slice of up to
65536 bytes may start anywhere. -/
namespace SM83

namespace Word

def upFrom (address : UInt16) : Nat → List UInt16
  | 0 => []
  | count + 1 => address :: upFrom (address + 1) count

@[simp] theorem length_upFrom (address : UInt16) (count : Nat) :
    (upFrom address count).length = count := by
  induction count generalizing address with
  | zero => rfl
  | succ count ih => rw [upFrom, List.length_cons, ih]

/-- Fewer than all addresses follow each other without meeting the first again. -/
theorem mem_upFrom {address other : UInt16} {count : Nat} (fits : count ≤ 65536) :
    other ∈ upFrom address count ↔ (other - address).toNat < count := by
  induction count generalizing address with
  | zero => simp [upFrom]
  | succ count ih =>
    rw [upFrom, List.mem_cons, ih (by omega), ← UInt16.toNat_inj]
    have := address.toNat_lt
    have := other.toNat_lt
    simp only [UInt16.toNat_sub, UInt16.toNat_add, UInt16.reduceToNat]
    omega

/-- Addresses are counted modulo 65536. -/
theorem ofNat_toNat_add (address : UInt16) (count : Nat) :
    UInt16.ofNat (address.toNat + count) = address + .ofNat count := by
  rw [UInt16.ofNat_add, UInt16.ofNat_toNat]

theorem ofNat_toNat_succ_add (address : UInt16) (count : Nat) :
    UInt16.ofNat ((address + 1).toNat + count) = .ofNat (address.toNat + (count + 1)) := by
  rw [ofNat_toNat_add, ofNat_toNat_add, UInt16.ofNat_add, UInt16.add_assoc, UInt16.add_comm 1]
  rfl

end Word

namespace Memory

variable {memory other : Memory} {address : UInt16}

def slice (memory : Memory) (address : UInt16) (count : Nat) : List UInt8 :=
  (Word.upFrom address count).map memory.get

@[simp] theorem length_slice (memory : Memory) (address : UInt16) (count : Nat) :
    (memory.slice address count).length = count := by
  rw [slice, List.length_map, Word.length_upFrom]

theorem slice_succ (memory : Memory) (address : UInt16) (count : Nat) :
    memory.slice address (count + 1) =
      memory.get address :: memory.slice (address + 1) count := rfl

/-- Memories that agree on the addresses of a slice have the same slice. -/
theorem slice_congr {count : Nat}
    (agree : ∀ x ∈ Word.upFrom address count, memory.get x = other.get x) :
    memory.slice address count = other.slice address count :=
  List.map_congr_left agree

theorem take_slice (memory : Memory) (address : UInt16) {count total : Nat}
    (part : count ≤ total) :
    (memory.slice address total).take count = memory.slice address count := by
  induction count generalizing address total with
  | zero => rfl
  | succ count ih =>
    obtain ⟨total, rfl⟩ : ∃ n, total = n + 1 := ⟨total - 1, by omega⟩
    rw [slice_succ, slice_succ, List.take_succ_cons, ih _ (by omega)]

theorem get_load_of_not_mem {bytes : List UInt8} {x : UInt16}
    (outside : x ∉ Word.upFrom address bytes.length) :
    (memory.load address bytes).get x = memory.get x := by
  induction bytes generalizing memory address with
  | nil => rfl
  | cons value rest ih =>
    simp only [List.length_cons, Word.upFrom, List.mem_cons, not_or] at outside
    rw [load, ih outside.2, get_set, if_neg (Ne.symm outside.1)]

/-- Bytes that fit into memory are read back as they were loaded. -/
theorem slice_load {bytes : List UInt8} (fits : bytes.length ≤ 65536) :
    (memory.load address bytes).slice address bytes.length = bytes := by
  induction bytes generalizing memory address with
  | nil => rfl
  | cons value rest ih =>
    simp only [List.length_cons] at fits
    have first : address ∉ Word.upFrom (address + 1) rest.length := by
      rw [Word.mem_upFrom (by omega)]
      have := address.toNat_lt
      simp only [UInt16.toNat_sub, UInt16.toNat_add, UInt16.reduceToNat]
      omega
    rw [List.length_cons, load, slice_succ, ih (by omega), get_load_of_not_mem first, get_set,
      if_pos rfl]

/-- A load in two parts, the second where the first ends. -/
theorem load_append (memory : Memory) (address : UInt16) (front back : List UInt8) :
    memory.load address (front ++ back) =
      (memory.load address front).load (.ofNat (address.toNat + front.length)) back := by
  induction front generalizing memory address with
  | nil => rw [List.nil_append, load, List.length_nil, Nat.add_zero, UInt16.ofNat_toNat]
  | cons value rest ih =>
    rw [List.cons_append, load, ih, Word.ofNat_toNat_succ_add, load, List.length_cons]

/-- Memories with the same byte at every address are the same. -/
theorem eq_of_get (same : ∀ address, memory.get address = other.get address) : memory = other := by
  obtain ⟨cells⟩ := memory
  obtain ⟨others⟩ := other
  refine congrArg Memory.mk (Vector.ext ?_)
  intro index inside
  have place : (UInt16.ofNat index).toNat = index := UInt16.toNat_ofNat_of_lt' inside
  have byte := same (.ofNat index)
  simpa only [get, place] using byte

theorem eq_of_slice (same : memory.slice address 65536 = other.slice address 65536) :
    memory = other := by
  refine eq_of_get ?_
  intro x
  have member : x ∈ Word.upFrom address 65536 :=
    (Word.mem_upFrom (Nat.le_refl _)).mpr (x - address).toNat_lt
  exact List.map_inj_left.mp same x member

end Memory
end SM83
