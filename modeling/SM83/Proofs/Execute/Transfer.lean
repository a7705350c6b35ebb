import Mathlib.Data.FinEnum
import SM83.Proofs.Decode.PrefixCode
import SM83.Proofs.Registers.Naming
import SM83.Proofs.Run.Steps

/-! The bus traffic of a step on any bus: the bytes of the instruction, then the data accesses its
operands call for, with the registers as they are before the step. -/
namespace SM83

/-- The data accesses of an instruction. To modify is to read a byte and to write another in its
place; a word is read and written with its low byte first, and pushed below an address with its high
byte first. -/
inductive Transfer where
  | none
  | read (address : UInt16)
  | write (address : UInt16) (value : UInt8)
  | modify (address : UInt16)
  | readWord (address : UInt16)
  | writeWord (address value : UInt16)
  | push (top value : UInt16)

namespace Transfer

/-- The accesses are those that are called for, in this order. What a read answers is open, and so
is what is written in the place of a byte that was read. -/
def Describes : Transfer → List Access → Prop
  | none, accesses => accesses = []
  | read address, accesses => ∃ value, accesses = [.read address value]
  | write address value, accesses => accesses = [.write address value]
  | modify address, accesses =>
    ∃ value result, accesses = [.read address value, .write address result]
  | readWord address, accesses =>
    ∃ low high, accesses = [.read address low, .read (address + 1) high]
  | writeWord address value, accesses =>
    accesses = [.write address (Word.low value), .write (address + 1) (Word.high value)]
  | push top value, accesses =>
    accesses = [.write (top - 1) (Word.high value), .write (top - 2) (Word.low value)]

end Transfer

namespace Cpu

def placeAddress (cpu : Cpu) : Place → UInt16
  | .indirect .bc => cpu.regs.bc
  | .indirect .de => cpu.regs.de
  | .indirect .hlInc | .indirect .hlDec => cpu.regs.hl
  | .absolute address => address
  | .high offset => 0xFF00 + offset.toUInt16
  | .highC => 0xFF00 + (cpu.regs.byte .c).toUInt16

/-- The data accesses of an instruction that stands at the program counter. -/
def transfer (cpu : Cpu) (instruction : Instruction) : Transfer :=
  let next := cpu.regs.pc + instruction.length
  match instruction with
  | .ld .atHL (.operand source) =>
    match cpu.regs.held? source with
    | some value => .write cpu.regs.hl value
    | none => .modify cpu.regs.hl
  | .ld _ (.operand .atHL) => .read cpu.regs.hl
  | .ld .atHL (.immediate value) => .write cpu.regs.hl value
  | .alu _ (.operand .atHL) | .bit _ .atHL => .read cpu.regs.hl
  | .inc .atHL | .dec .atHL | .shift _ .atHL | .res _ .atHL | .set _ .atHL =>
    .modify cpu.regs.hl
  | .storeA place => .write (cpu.placeAddress place) (cpu.regs.byte .a)
  | .loadA place => .read (cpu.placeAddress place)
  | .storeSP address => .writeWord address cpu.regs.sp
  | .push pair => .push cpu.regs.sp (cpu.regs.pair pair)
  | .call condition _ => if cpu.satisfies condition then .push cpu.regs.sp next else .none
  | .rst _ =>
    match cpu.config.restart with
    | .pushReturn => .push cpu.regs.sp next
    | .jumpOnly => .none
  | .pop _ | .reti => .readWord cpu.regs.sp
  | .ret condition => if cpu.satisfies condition then .readWord cpu.regs.sp else .none
  | _ => .none

variable {σ : Type} [Bus σ]

theorem lastPage_or :
    ∀ offset : UInt8, lastPage ||| offset.toUInt16 = 0xFF00 + offset.toUInt16 := by
  decide +kernel

variable (cpu : Cpu) (pc : UInt16)

theorem locate_fst (place : Place) :
    ((cpu.setWord .pc pc).locate place).1 = cpu.placeAddress place := by
  cases place with
  | indirect pair => cases pair <;> rfl
  | absolute address => rfl
  | high offset => exact lastPage_or offset
  | highC => exact lastPage_or _

theorem byte_a_locate_snd (place : Place) :
    ((cpu.setWord .pc pc).locate place).2.regs.byte .a = cpu.regs.byte .a := by
  cases place with
  | indirect pair => cases pair <;> rfl
  | _ => rfl

@[simp] theorem config_setWord (register : WordRegister) (value : UInt16) :
    (cpu.setWord register value).config = cpu.config := rfl

theorem satisfies_setWord_pc (condition : Option Condition) :
    (cpu.setWord .pc pc).satisfies condition = cpu.satisfies condition := by
  cases condition <;> rfl

theorem observe_disableInterrupts (bus : σ) :
    cpu.disableInterrupts.observe bus =
      ⟨cpu.setIme false, bus, [],
        if cpu.ime then [.interruptsDisabled cpu.ownAddress] else []⟩ := by
  unfold disableInterrupts
  cases cpu.ime <;> rfl

theorem observe_enableInterrupts (bus : σ) :
    cpu.enableInterrupts.observe bus =
      ⟨cpu.setIme true, bus, [],
        if cpu.ime then [] else [.interruptsEnabled cpu.ownAddress]⟩ := by
  unfold enableInterrupts
  cases cpu.ime <;> rfl

theorem observe_reti (bus : σ) :
    cpu.reti.observe bus =
      let returned := cpu.ret.observe bus
      { returned with
        value := returned.value.setIme true
        events := if cpu.ime then [] else [.interruptReturn returned.value.regs.pc] } := by
  unfold reti
  cases cpu.ime <;> rfl

/-- Executing an instruction makes the data accesses that its operands call for. -/
theorem execute_transfer (instruction : Instruction) (bus : σ) :
    (cpu.transfer instruction).Describes
      (((cpu.setWord .pc (cpu.regs.pc + instruction.length)).execute instruction).observe
        bus).accesses := by
  cases instruction with
  | ld target source =>
    cases source with
    | immediate value => cases target <;> rfl
    | operand source =>
      cases target <;> cases source <;> first
        | rfl
        | exact ⟨_, rfl⟩
        | exact ⟨_, _, rfl⟩
  | storeA place =>
    change [Access.write (locate _ place).1 ((locate _ place).2.regs.byte .a)] = [_]
    rw [locate_fst, byte_a_locate_snd]
  | loadA place =>
    rw [transfer, ← locate_fst cpu (cpu.regs.pc + (Instruction.loadA place).length)]
    exact ⟨_, rfl⟩
  | push pair => cases pair <;> rfl
  | pop pair => exact ⟨_, _, rfl⟩
  | alu op source =>
    cases source with
    | immediate value => rfl
    | operand source =>
      cases source <;> first
        | rfl
        | exact ⟨_, rfl⟩
  | inc target | dec target | shift _ target | res _ target | set _ target =>
    cases target <;> first
      | rfl
      | exact ⟨_, _, rfl⟩
  | bit _ target =>
    cases target <;> first
      | rfl
      | exact ⟨_, rfl⟩
  | call condition address =>
    simp only [transfer, execute, satisfies_setWord_pc]
    split <;> rfl
  | ret condition =>
    simp only [transfer, execute, satisfies_setWord_pc]
    split
    · exact ⟨_, _, rfl⟩
    · rfl
  | reti =>
    rw [execute, observe_reti]
    exact ⟨_, _, rfl⟩
  | rst vector =>
    simp only [transfer, execute, restart, config_setWord]
    cases cpu.config.restart <;> rfl
  | di => rw [execute, observe_disableInterrupts]; rfl
  | ei => rw [execute, observe_enableInterrupts]; rfl
  | _ => rfl

end Cpu

namespace Machine

/-- The accesses of a step that executes an instruction, on any bus: first its bytes, each read once
and in the order of their addresses, then the data accesses its operands call for. -/
theorem step_accesses {σ : Type} [Bus σ] {machine : Machine σ} {instruction : Instruction}
    (found : machine.step.result = .ok instruction) :
    instruction.encode.length = instruction.length.toNat ∧
      ∃ data, (machine.cpu.transfer instruction).Describes data ∧
        machine.step.accesses =
          List.zipWith .read (Word.upFrom machine.cpu.regs.pc instruction.length.toNat)
            instruction.encode ++ data := by
  rw [result_step] at found
  have fetched := (decode_ok found).2
  refine ⟨instruction.length_encode, (machine.executed instruction).accesses, ?_, ?_⟩
  · exact machine.cpu.execute_transfer instruction machine.decoded.bus
  · rw [step_of_decoded_ok found]
    exact congrArg (· ++ _) fetched

/-- A bus that answers with the bytes of a list, one for each read at whatever address. -/
structure Feed where
  bytes : List UInt8

instance : Bus Feed where
  read _ feed := (feed.bytes.headD 0, ⟨feed.bytes.tail⟩)
  write _ _ feed := feed

/-- Setting a bit in memory from the last address: the second byte is read at the first address, and
the byte at HL is read once and written once. -/
theorem set_bit_accesses :
    let machine : Machine Feed :=
      ⟨(Cpu.ofConfig .default).setRegs { Registers.zero with hl := 0xC000, pc := 0xFFFF },
        ⟨[0xCB, 0xFE, 0x01]⟩⟩
    machine.step.result = .ok (.set 7 .atHL) ∧
      ∃ value result, machine.step.accesses =
        [.read 0xFFFF 0xCB, .read 0x0000 0xFE, .read 0xC000 value, .write 0xC000 result] := by
  intro machine
  have found : machine.step.result = .ok (.set 7 .atHL) := rfl
  obtain ⟨-, data, ⟨value, result, rfl⟩, accesses⟩ := step_accesses found
  have fetched : List.zipWith Access.read (Word.upFrom 0xFFFF 2)
      (Instruction.set 7 .atHL).encode = [.read 0xFFFF 0xCB, .read 0x0000 0xFE] := by decide
  exact ⟨found, value, result, accesses.trans (congrArg (· ++ _) fetched)⟩

end Machine
end SM83
