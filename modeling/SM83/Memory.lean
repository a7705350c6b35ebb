import SM83.Bus

/-!
Flat memory: one byte at every address and nothing behind it, so a read has no side effect. Writes
of more than one byte wrap at the top of the address space.
-/

namespace SM83

structure Memory where
  cells : Vector UInt8 UInt16.size

namespace Memory

def zero : Memory :=
  ⟨Vector.replicate UInt16.size 0⟩

def get (memory : Memory) (address : UInt16) : UInt8 :=
  have inside := address.toNat_lt_size
  memory.cells[address.toNat]

def set (memory : Memory) (address : UInt16) (value : UInt8) : Memory :=
  ⟨memory.cells.set address.toNat value address.toNat_lt_size⟩

/-- Writes bytes at consecutive addresses, the first of them first. -/
def load (memory : Memory) (address : UInt16) : List UInt8 → Memory
  | [] => memory
  | value :: rest => (memory.set address value).load (address + 1) rest

/-- All bytes in the order of their addresses. -/
def toList (memory : Memory) : List UInt8 :=
  memory.cells.toList

instance : Bus Memory where
  read address memory := (memory.get address, memory)
  write address value memory := memory.set address value

@[simp] theorem get_zero (address : UInt16) : zero.get address = 0 := by
  simp [zero, get]

@[simp] theorem get_set (memory : Memory) (address other : UInt16) (value : UInt8) :
    (memory.set address value).get other = if address = other then value else memory.get other := by
  simp [get, set, Vector.getElem_set, UInt16.toNat_inj]

end Memory

end SM83
