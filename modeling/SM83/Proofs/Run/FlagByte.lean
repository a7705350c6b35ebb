import SM83.Proofs.Execute.Frame
import SM83.Proofs.Registers.FlagNibble
import SM83.Proofs.Run.CallStack
import SM83.Proofs.Run.Operations

/-! The low nibble of the flag byte. No flag lives there, and whatever is done to a processor it
stays clear, so the flags are all that the byte holds. -/
namespace SM83

namespace Cpu

variable {σ : Type} [Bus σ] {cpu after : Cpu} {written : List ByteRegister}

theorem Confined.clean (confined : Confined written cpu after) (spared : .f ∉ written)
    (clean : cpu.regs.Clean) : after.regs.Clean := by
  rw [Registers.Clean, confined .f spared]
  exact clean

theorem clean_update (clean : cpu.regs.Clean) (target : Operand8)
    (operation : Flags → UInt8 → UInt8 × Flags) (bus : σ) :
    ((cpu.update target operation).observe bus).value.regs.Clean := by
  rw [update, Action.observe_bind]
  exact ((Confined.refl _ _).writeOperand (List.Subset.refl _) _ _).clean (by simp)
    (clean.setFlags _)

theorem clean_applyAlu (clean : cpu.regs.Clean) (op : AluOp) (value : UInt8) :
    (cpu.applyAlu op value).regs.Clean := by
  unfold applyAlu
  dsimp only
  split
  · exact (clean.setFlags _).setByte _ _
  · exact clean.setFlags _

theorem clean_rotateA (clean : cpu.regs.Clean) (rotation : Rotation) :
    (cpu.rotateA rotation).regs.Clean := by
  have rotated : (cpu.updateA rotation.apply).regs.Clean := (clean.setFlags _).setByte _ _
  unfold rotateA
  dsimp only
  split
  · exact rotated
  · exact rotated.setFlags _

/-- No instruction sets a bit of the low nibble. A write to A keeps the nibble as it is; every other
write to the pair clears it. -/
theorem execute_clean (clean : cpu.regs.Clean) (instruction : Instruction) (bus : σ) :
    ((cpu.execute instruction).observe bus).value.regs.Clean := by
  have unwritten (spared : .f ∉ instruction.written) :
      ((cpu.execute instruction).observe bus).value.regs.Clean :=
    (cpu.execute_confined bus instruction).clean spared clean
  cases instruction with
  | pop pair => exact (clean.setWord _ _).setWord _ _
  | alu op source =>
    rw [execute, Action.observe_bind]
    exact clean_applyAlu clean _ _
  | inc target | dec target | shift _ target =>
    rw [execute]
    exact clean_update clean _ _ _
  | bit index target =>
    rw [execute, Action.observe_bind]
    exact clean.setFlags _
  | daa => exact (clean.setFlags _).setByte _ _
  | cpl => exact (clean.setByte _ _).setFlags _
  | scf | ccf => exact clean.setFlags _
  | addHL source => exact (clean.setFlags _).setWord _ _
  | addSP offset | ldHLOffset offset => exact (clean.setFlags _).setWord _ _
  | rotateA rotation => exact clean_rotateA clean rotation
  | _ => exact unwritten (by simp [Instruction.written])

end Cpu

/-- A register file that is written as a whole has the nibble clear. -/
def Operation.Tidy {σ : Type} : Operation σ → Prop
  | setRegs registers => registers.Clean
  | _ => True

namespace Machine

variable {σ : Type} [Bus σ] {machine : Machine σ}

theorem clean_step (clean : machine.cpu.regs.Clean) : machine.step.machine.cpu.regs.Clean := by
  cases found : machine.step.result with
  | error fault =>
    rw [cpu_step_of_error found]
    exact clean
  | ok instruction =>
    rw [step_of_ok found]
    have fetched : (machine.fetched instruction).regs.Clean := clean.setWord .pc _
    exact Cpu.execute_clean fetched instruction machine.decoded.bus

theorem clean_perform (clean : machine.cpu.regs.Clean) {operation : Operation σ}
    (tidy : operation.Tidy) : (machine.perform operation).cpu.regs.Clean := by
  cases operation with
  | step => exact clean_step clean
  | wake =>
    rw [perform, Cpu.value_wake]
    exact clean
  | reset => exact Registers.clean_values _
  | setRegs registers => exact tidy
  | setByte register value => exact clean.setByte register value
  | setWord register value => exact clean.setWord register value
  | setFlags flags | assignFlags flags value => exact clean.setFlags _
  | connect | setIme => exact clean

theorem clean_performAll (clean : machine.cpu.regs.Clean) {operations : List (Operation σ)}
    (tidy : ∀ operation ∈ operations, operation.Tidy) :
    (operations.foldl perform machine).cpu.regs.Clean := by
  induction operations generalizing machine with
  | nil => exact clean
  | cons operation rest ih =>
    obtain ⟨first, rest⟩ := List.forall_mem_cons.mp tidy
    exact ih (clean_perform clean first) rest

/-- A push of A and the flags stores A above the flag byte. -/
theorem accesses_of_push_af (found : machine.step.result = .ok (.push .af)) :
    machine.step.accesses = machine.decoded.accesses ++
      [.write (machine.cpu.regs.sp - 1) (machine.cpu.regs.byte .a),
        .write (machine.cpu.regs.sp - 2) (machine.cpu.regs.byte .f)] := by
  have data := machine.cpu.execute_transfer (.push .af) machine.decoded.bus
  rw [step_of_ok found]
  exact congrArg (machine.decoded.accesses ++ ·) data

/-- The stack after a pop into A and the flags that a push of both follows: the bytes that were
there, the lower one without its low nibble. -/
theorem pop_then_push_af {machine : Machine Memory}
    (popped : machine.step.result = .ok (.pop .af))
    (pushed : machine.step.machine.step.result = .ok (.push .af)) :
    let sp := machine.cpu.regs.sp
    let final := machine.step.machine.step.machine
    final.cpu.regs.sp = sp ∧
      ∀ address, final.bus.get address =
        if address = sp then machine.bus.get sp &&& 0xF0 else machine.bus.get address := by
  intro sp final
  have pops : machine.stackEffect = .pop := stackEffect_of_ok popped
  have pushes : machine.step.machine.stackEffect = .push machine.step.machine.cpu.regs.af :=
    stackEffect_of_ok pushed
  have raised : machine.step.machine.cpu.regs.sp = sp + 2 := by
    have moves := machine.step_moves
    rwa [pops] at moves
  have lowered : final.cpu.regs.sp = machine.step.machine.cpu.regs.sp - 2 := by
    have moves := machine.step.machine.step_moves
    rwa [pushes] at moves
  have received : machine.step.machine.cpu.regs.af =
      Word.ofBytes (machine.bus.get (sp + 1)) (machine.bus.get sp) &&& 0xFFF0 :=
    step_popped popped rfl
  have high : Word.high machine.step.machine.cpu.regs.af = machine.bus.get (sp + 1) := by
    rw [received, Word.high_and, Word.high_ofBytes]
    exact UInt8.and_neg_one
  have low : Word.low machine.step.machine.cpu.regs.af = machine.bus.get sp &&& 0xF0 := by
    rw [received, Word.low_and, Word.low_ofBytes]
    rfl
  have below : sp + 2 - 2 = sp := UInt16.add_sub_cancel sp 2
  have above : sp + 2 - 1 = sp + 1 := by grind
  refine ⟨by rw [lowered, raised, below], fun address => ?_⟩
  rw [step_bus_of_push pushes, step_bus_of_pop pops, raised, below, above, high, low,
    Memory.get_set, Memory.get_set]
  by_cases lower : sp = address
  · rw [if_pos lower, if_pos lower.symm]
  · rw [if_neg lower, if_neg (Ne.symm lower)]
    split
    case isTrue upper => rw [upper]
    case isFalse => rfl

/-- However a processor is used from its start, the flag byte is its flags and nothing else: its low
nibble is clear, and writing the flags back changes nothing. A push of A and the flags stores that
byte, and a pop of any word followed by a push leaves the stack as it was but for that nibble. -/
theorem flag_byte_holds_flags_only (config : Config) (bus : σ) {operations : List (Operation σ)}
    (tidy : ∀ operation ∈ operations, operation.Tidy) :
    let machine := operations.foldl perform ⟨Cpu.ofConfig config, bus⟩
    let regs := machine.cpu.regs
    (regs.af &&& 0x000F = 0 ∧ regs.byte .f = regs.flags.toByte ∧
      regs.setFlags regs.flags = regs) ∧
    (machine.step.result = .ok (.push .af) →
      ∃ low, low &&& 0x0F = 0 ∧
        machine.step.accesses = machine.decoded.accesses ++
          [.write (regs.sp - 1) (regs.byte .a), .write (regs.sp - 2) low]) ∧
    ∀ stacked : Machine Memory, stacked.step.result = .ok (.pop .af) →
      stacked.step.machine.step.result = .ok (.push .af) →
      let sp := stacked.cpu.regs.sp
      let final := stacked.step.machine.step.machine
      final.cpu.regs.sp = sp ∧
        ∀ address, final.bus.get address =
          if address = sp then stacked.bus.get sp &&& 0xF0 else stacked.bus.get address := by
  intro machine regs
  let start : Machine σ := ⟨Cpu.ofConfig config, bus⟩
  have initial : start.cpu.regs.Clean := Registers.clean_values config.initialState
  have clean : regs.Clean := clean_performAll initial tidy
  refine ⟨⟨clean.af, clean.byte_f_eq, clean.setFlags_flags⟩, fun found => ?_, fun _ => ?_⟩
  · exact ⟨regs.byte .f, clean, accesses_of_push_af found⟩
  · exact pop_then_push_af

/-- A pop that finds its own opcode and that of the push behind it on the stack: the push writes the
two bytes back, of the first of them the high nibble. -/
theorem own_opcodes_through_af :
    let operations : List (Operation Memory) :=
      [.setRegs Registers.zero, .setWord .af 0x12FF, .setByte .a 0x34]
    let machine := operations.foldl perform
      ⟨Cpu.ofConfig .default, Memory.zero.load 0 [0xF1, 0xF5]⟩
    machine.cpu.regs.af &&& 0x000F = 0 ∧
      machine.step.machine.step.machine.bus.get 0 = 0xF0 ∧
      machine.step.machine.step.machine.bus.get 1 = 0xF5 := by
  intro operations machine
  have tidy : ∀ operation ∈ operations, operation.Tidy := by
    have zero : Registers.zero.Clean := by decide
    simp only [operations, List.forall_mem_cons]
    exact ⟨zero, trivial, trivial, nofun⟩
  have first : machine.bus.get 0 = 0xF1 := by
    change ((Memory.zero.set 0 0xF1).set (0 + 1) 0xF5).get 0 = 0xF1
    simp
  have second : machine.bus.get 1 = 0xF5 := by
    change ((Memory.zero.set 0 0xF1).set (0 + 1) 0xF5).get 1 = 0xF5
    simp
  have popped : machine.step.result = .ok (.pop .af) := by
    rw [result_step]
    exact decode_eq_ok_iff.mpr ⟨trivial, congrArg (fun byte => [byte]) first⟩
  have pops : machine.stackEffect = .pop := stackEffect_of_ok popped
  have next : machine.step.machine.cpu.regs.pc = 1 := by
    rw [step_of_ok popped]
    rfl
  have pushed : machine.step.machine.step.result = .ok (.push .af) := by
    rw [result_step]
    refine decode_eq_ok_iff.mpr ⟨trivial, ?_⟩
    rw [next, step_bus_of_pop pops]
    exact congrArg (fun byte => [byte]) second
  obtain ⟨⟨clear, -, -⟩, -, stack⟩ :=
    flag_byte_holds_flags_only .default (Memory.zero.load 0 [0xF1, 0xF5]) tidy
  obtain ⟨-, bytes⟩ := stack machine popped pushed
  have sp : machine.cpu.regs.sp = 0 := rfl
  rw [sp] at bytes
  refine ⟨clear, ?_, ?_⟩
  · rw [bytes, if_pos rfl, first]
    rfl
  · rw [bytes, if_neg (by decide), second]

end Machine
end SM83
