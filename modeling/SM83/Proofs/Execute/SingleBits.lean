import Mathlib.Data.Nat.Bitwise
import SM83.Proofs.Execute.Frame
import SM83.Proofs.Execute.Synonyms
import SM83.Proofs.LastWrite

/-! A byte operand as eight bits of its own. Setting and resetting bits writes each of them apart,
whichever register or address holds the byte, and nothing beside it; a test reads one of them. -/
namespace SM83

namespace Alu

theorem toNat_bitMask : ∀ index : UInt8, (bitMask index).toNat = 2 ^ (index.toNat % 8) := by
  decide +kernel

theorem testBit_setBit (value index : UInt8) (place : Nat) :
    (setBit value index).toNat.testBit place =
      if index.toNat % 8 = place then true else value.toNat.testBit place := by
  rw [setBit, UInt8.toNat_or, toNat_bitMask, Nat.testBit_or, Nat.testBit_two_pow]
  split <;> simp_all

/-- A byte has no bits beyond its eight. -/
theorem testBit_of_ge (byte : UInt8) {place : Nat} (beyond : 8 ≤ place) :
    byte.toNat.testBit place = false :=
  Nat.testBit_lt_two_pow
    (byte.toNat_lt.trans_le (Nat.pow_le_pow_right (by decide) beyond))

theorem testBit_resetBit (value index : UInt8) (place : Nat) :
    (resetBit value index).toNat.testBit place =
      if index.toNat % 8 = place then false else value.toNat.testBit place := by
  have inside : 2 ^ (index.toNat % 8) < 2 ^ 8 := Nat.pow_lt_pow_right (by decide) (by omega)
  have mask : (~~~bitMask index).toNat = 2 ^ 8 - (2 ^ (index.toNat % 8) + 1) := by
    rw [UInt8.toNat_not, toNat_bitMask, Nat.sub_sub, Nat.add_comm]
    rfl
  rw [resetBit, UInt8.toNat_and, mask, Nat.testBit_and, Nat.testBit_two_pow_sub_succ inside,
    Nat.testBit_two_pow]
  by_cases beyond : 8 ≤ place
  · simp [testBit_of_ge value beyond]
  · by_cases named : index.toNat % 8 = place <;> simp [named, Nat.lt_of_not_le beyond]

theorem bitTest_eq_testBit (flags : Flags) (value index : UInt8) :
    bitTest flags value index =
      ⟨!value.toNat.testBit (index.toNat % 8), false, true, flags.carry⟩ := by
  have masked : (value &&& bitMask index).toNat =
      (value.toNat.testBit (index.toNat % 8)).toNat * 2 ^ (index.toNat % 8) := by
    rw [UInt8.toNat_and, toNat_bitMask, Nat.and_two_pow]
  have zero : (value &&& bitMask index == 0) = !value.toNat.testBit (index.toNat % 8) := by
    rw [Bool.eq_iff_iff, beq_iff_eq, ← UInt8.toNat_inj, masked]
    cases value.toNat.testBit (index.toNat % 8) <;> simp
  rw [bitTest, zero]

end Alu

/-- One bit of an operand is set or reset. -/
structure BitWrite where
  index : UInt8
  value : Bool

namespace BitWrite

def on (target : Operand8) (write : BitWrite) : Instruction :=
  if write.value then .set write.index target else .res write.index target

/-- The place of the bit and what is written there; of the index only the low three bits count. -/
def cell (write : BitWrite) : Nat × Bool :=
  (write.index.toNat % 8, write.value)

def apply (write : BitWrite) (byte : UInt8) : UInt8 :=
  if write.value then Alu.setBit byte write.index else Alu.resetBit byte write.index

theorem testBit_apply (write : BitWrite) (byte : UInt8) (place : Nat) :
    (write.apply byte).toNat.testBit place =
      if write.cell.1 = place then write.cell.2 else byte.toNat.testBit place := by
  obtain ⟨index, value⟩ := write
  cases value with
  | true => exact Alu.testBit_setBit byte index place
  | false => exact Alu.testBit_resetBit byte index place

end BitWrite

namespace Machine

/-- Nothing changed but the byte that an operand stands for. -/
structure SameBut (target : Operand8) (before after : Machine Memory) : Prop where
  bytes : ∀ register ∉ target.bytes,
    after.cpu.regs.byte register = before.cpu.regs.byte register
  pointers : before.cpu.SamePointers after.cpu
  control : after.cpu.control = before.cpu.control
  config : after.cpu.config = before.cpu.config
  memory : ∀ address, (target = .atHL → address ≠ before.cpu.regs.hl) →
    after.bus.get address = before.bus.get address

namespace SameBut

variable {target : Operand8} {before between after : Machine Memory}

theorem refl (target : Operand8) (machine : Machine Memory) : SameBut target machine machine :=
  ⟨fun _ _ => rfl, ⟨rfl, rfl⟩, rfl, rfl, fun _ _ => rfl⟩

/-- Where the operand is in memory it stays at the same address. -/
theorem hl (same : SameBut .atHL before after) : after.cpu.regs.hl = before.cpu.regs.hl := by
  have high : Word.high after.cpu.regs.hl = Word.high before.cpu.regs.hl :=
    same.bytes .h (by decide)
  have low : Word.low after.cpu.regs.hl = Word.low before.cpu.regs.hl :=
    same.bytes .l (by decide)
  rw [← Word.ofBytes_high_low after.cpu.regs.hl, high, low, Word.ofBytes_high_low]

theorem trans (first : SameBut target before between) (second : SameBut target between after) :
    SameBut target before after := by
  refine ⟨?_, ⟨?_, ?_⟩, ?_, ?_, ?_⟩
  · intro register spared
    exact (second.bytes register spared).trans (first.bytes register spared)
  · exact second.pointers.sp.trans first.pointers.sp
  · exact second.pointers.pc.trans first.pointers.pc
  · exact second.control.trans first.control
  · exact second.config.trans first.config
  · intro address spared
    refine (second.memory address ?_).trans (first.memory address spared)
    rintro rfl
    rw [first.hl]
    exact spared rfl

end SameBut

variable (machine : Machine Memory) (target : Operand8)

theorem sameBut_writeOperand (value : UInt8) :
    SameBut target machine ((machine.cpu.writeOperand target value).leave machine.bus) := by
  unfold Cpu.writeOperand
  cases named : target.register? with
  | none =>
    refine ⟨fun _ _ => rfl, ⟨rfl, rfl⟩, rfl, rfl, ?_⟩
    intro address spared
    exact (Memory.get_set ..).trans (if_neg (spared (Operand8.eq_atHL_of_register named)).symm)
  | some register =>
    refine ⟨?_, machine.cpu.pointers_setByte register value, rfl, rfl, fun _ _ => rfl⟩
    intro other spared
    rw [Operand8.bytes_of_register named, List.mem_singleton] at spared
    exact machine.cpu.regs.byte_setByte_of_ne spared value

theorem execute_bitWrite (write : BitWrite) :
    machine.execute (write.on target) =
      (machine.cpu.writeOperand target (write.apply (machine.operand target))).leave
        machine.bus := by
  obtain ⟨index, value⟩ := write
  cases value <;> exact machine.leave_readOperand target _

/-- Sets and resets bits of an operand, one instruction after the other. -/
def writeBits (writes : List BitWrite) : Machine Memory :=
  writes.foldl (fun machine write => machine.execute (write.on target)) machine

theorem sameBut_writeBits (writes : List BitWrite) :
    SameBut target machine (machine.writeBits target writes) := by
  induction writes generalizing machine with
  | nil => exact .refl target machine
  | cons write rest ih =>
    have first : SameBut target machine (machine.execute (write.on target)) := by
      rw [execute_bitWrite]
      exact machine.sameBut_writeOperand target _
    exact first.trans (ih _)

/-- A bit of the byte that an operand stands for. -/
def bit (place : Nat) : Bool :=
  (machine.operand target).toNat.testBit place

theorem bit_execute_bitWrite (write : BitWrite) (place : Nat) :
    (machine.execute (write.on target)).bit target place =
      if write.cell.1 = place then write.cell.2 else machine.bit target place := by
  rw [bit, execute_bitWrite, (machine.leave_writeOperand target _).1, write.testBit_apply]
  rfl

/-- A test only reads, also where the operand is in memory. -/
theorem not_write_of_bit (index : UInt8) (address : UInt16) (value : UInt8) :
    .write address value ∉
      ((machine.cpu.execute (.bit index target)).observe machine.bus).accesses := by
  intro written
  cases target with
  | atHL =>
    have only : Access.write address value ∈
        [.read machine.cpu.regs.hl (machine.operand .atHL)] := written
    cases List.mem_singleton.mp only
  | _ => exact List.not_mem_nil written

/-- However often bits of one operand are set and reset, each holds what was last written to it, or
what it held if nothing was; of an index only the low three bits count. The flags and everything
beside the operand stay as they were, the other register of its pair as well as all other memory. A
test then tells by the zero flag whether its bit is clear; it writes the flags alone, and nothing to
memory. -/
theorem bits_last_written (writes : List BitWrite) :
    let after := machine.writeBits target writes
    (∀ place, after.bit target place =
      lastUnder place (writes.map fun write => (write.index.toNat % 8, write.value))
        (machine.bit target place)) ∧
    after.cpu.regs.byte .f = machine.cpu.regs.byte .f ∧
    SameBut target machine after ∧
    ∀ index : UInt8,
      let told : Flags :=
        ⟨!after.bit target (index.toNat % 8), false, true, machine.cpu.regs.flags.carry⟩
      let tested := after.execute (.bit index target)
      tested.cpu.regs.flags = told ∧
        tested = { after with cpu := after.cpu.setFlags told } ∧
        ∀ address value, .write address value ∉
          ((after.cpu.execute (.bit index target)).observe after.bus).accesses := by
  intro after
  have same : SameBut target machine after := machine.sameBut_writeBits target writes
  have flags : after.cpu.regs.byte .f = machine.cpu.regs.byte .f :=
    same.bytes .f target.f_not_mem_bytes
  refine ⟨?_, flags, same, ?_⟩
  · exact read_foldl (fun machine => machine.bit target) BitWrite.cell
      (fun machine => machine.bit_execute_bitWrite target) writes machine
  · intro index told tested
    have carry : after.cpu.regs.flags.carry = machine.cpu.regs.flags.carry :=
      congrArg (fun byte => (Flags.ofByte byte).carry) flags
    have answer :
        Alu.bitTest after.cpu.regs.flags (after.operand target) index = told := by
      rw [Alu.bitTest_eq_testBit, carry]
      rfl
    have written : tested = { after with cpu := after.cpu.setFlags told } := by
      rw [← answer]
      exact after.execute_bit index target
    refine ⟨?_, written, after.not_write_of_bit target index⟩
    rw [written]
    exact after.cpu.regs.flags_setFlags told

end Machine
end SM83
