import SM83.Decode
import SM83.Proofs.Decode.Encoding
import SM83.Proofs.Memory.Slice
import SM83.Proofs.Run.Observation

/-! Decoding as a prefix code. Every instruction that can stand in memory is decoded from exactly
one string of bytes, wherever that string stands, and no other instruction is ever decoded. -/
namespace SM83

open Opcode Template

/-- Decoding reads the bytes of the instruction it finds, each once and in the order of their
addresses, and finds only instructions that can stand in memory. The bus may be any. -/
theorem decode_ok {σ : Type} [Bus σ] {pc : UInt16} {bus : σ} {instruction : Instruction}
    (decoded : ((decode pc).observe bus).value = .ok instruction) :
    instruction.WellFormed ∧
      ((decode pc).observe bus).accesses =
        List.zipWith .read (Word.upFrom pc instruction.length.toNat) instruction.encode := by
  rw [decode, Action.observe_bind] at decoded ⊢
  simp only [Observed.andThen, Action.readByte, Action.observe] at decoded ⊢
  have codes := template_codes (Bus.read pc bus).1
  generalize template (Bus.read pc bus).1 = form at codes decoded ⊢
  rw [← Instruction.length_encode]
  cases form with
  | complete instruction =>
    obtain rfl := Except.ok.inj decoded
    obtain ⟨formed, coded⟩ := codes [] _ rfl
    rw [coded]
    exact ⟨formed, rfl⟩
  | withByte build =>
    obtain rfl := Except.ok.inj decoded
    obtain ⟨formed, coded⟩ := codes [_] _ rfl
    refine ⟨formed, ?_⟩
    rw [coded]
    rfl
  | withWord build =>
    obtain rfl := Except.ok.inj decoded
    obtain ⟨formed, coded⟩ := codes [_, _] _ rfl
    refine ⟨formed, ?_⟩
    rw [coded]
    rfl
  | illegal => cases decoded

/-- On flat memory the bytes behind the opcode complete its template. -/
theorem value_decode (memory : Memory) (pc : UInt16) :
    ((decode pc).observe memory).value =
      let form := template (memory.get pc)
      match form.fill? (memory.slice (pc + 1) form.size) with
      | some instruction => .ok instruction
      | none => .error ⟨memory.get pc, pc⟩ := by
  rw [decode, Action.observe_bind, Observed.andThen]
  simp only [Action.observe_readByte, Memory.bus_read]
  cases template (memory.get pc) <;> rfl

/-- An instruction is found exactly where its bytes stand. -/
theorem decode_eq_ok_iff {memory : Memory} {pc : UInt16} {instruction : Instruction} :
    ((decode pc).observe memory).value = .ok instruction ↔
      instruction.WellFormed ∧ memory.slice pc instruction.length.toNat = instruction.encode := by
  have size : instruction.length.toNat = instruction.operandBytes.length + 1 :=
    (Instruction.length_encode instruction).symm
  rw [value_decode, size, Memory.slice_succ]
  dsimp only
  constructor
  · intro found
    split at found
    case h_2 => cases found
    case h_1 filled =>
      obtain rfl := Except.ok.inj found
      obtain ⟨formed, coded⟩ := fill?_template_iff.mp filled
      have operands := (List.cons.inj coded).2
      refine ⟨formed, ?_⟩
      rw [coded, operands, Memory.length_slice]
  · rintro ⟨formed, bytes⟩
    obtain ⟨first, rest⟩ := List.cons.inj bytes
    have filled := fill?_template_opcode formed
    rw [first, ← length_of_fill? filled, rest, filled]

namespace Instruction

/-- The instruction is decoded from these bytes, wherever in memory they stand, and from no
others. -/
def HasCode (instruction : Instruction) (word : List UInt8) : Prop :=
  word.length = instruction.length.toNat ∧
    ∀ (memory : Memory) (pc : UInt16),
      ((decode pc).observe memory).value = .ok instruction ↔ memory.slice pc word.length = word

variable {instruction other : Instruction} {word longer : List UInt8}

theorem hasCode_encode (formed : instruction.WellFormed) :
    instruction.HasCode instruction.encode := by
  refine ⟨length_encode instruction, fun memory pc => ?_⟩
  rw [decode_eq_ok_iff, length_encode]
  exact and_iff_right formed

theorem length_word_le (code : instruction.HasCode word) : word.length ≤ 65536 := by
  have := instruction.length.toNat_lt
  rw [code.1]
  omega

/-- Bytes that start with the code of an instruction are decoded to it. -/
theorem decode_load (code : instruction.HasCode word) (start : word <+: longer)
    (fits : longer.length ≤ 65536) :
    ((decode 0).observe (Memory.zero.load 0 longer)).value = .ok instruction := by
  rw [code.2, ← Memory.take_slice _ _ start.length_le, Memory.slice_load fits]
  exact (List.prefix_iff_eq_take.mp start).symm

theorem code_unique (first : instruction.HasCode word) (second : instruction.HasCode longer) :
    longer = word := by
  have found := decode_load first (List.prefix_refl word) (length_word_le first)
  rw [second.2, second.1, ← first.1, Memory.slice_load (length_word_le first)] at found
  exact found.symm

theorem eq_of_prefix (first : instruction.HasCode word) (second : other.HasCode longer)
    (start : word <+: longer) : instruction = other := by
  have fits := length_word_le second
  have found := decode_load first start fits
  rw [decode_load second (List.prefix_refl longer) fits] at found
  exact (Except.ok.inj found).symm

end Instruction

/-- Only instructions that can stand in memory are decoded, on any bus; each of them has exactly one
code, which starts with the extension byte if the instruction is of the second map; and no code is
the beginning of another instruction's. -/
theorem decode_is_prefix_code :
    (∀ (σ : Type) [Bus σ] (bus : σ) (pc : UInt16) (instruction : Instruction),
      ((decode pc).observe bus).value = .ok instruction → instruction.WellFormed) ∧
    (∀ instruction : Instruction, instruction.WellFormed →
      (∃! word, instruction.HasCode word) ∧
      ∀ word, instruction.HasCode word → (word.head? = some 0xCB ↔ instruction.isExtended)) ∧
    ∀ (instruction other : Instruction) (word longer : List UInt8),
      instruction.HasCode word → other.HasCode longer → word <+: longer → instruction = other := by
  refine ⟨fun σ _ bus pc instruction decoded => (decode_ok decoded).1, ?_, ?_⟩
  · intro instruction formed
    have code := Instruction.hasCode_encode formed
    refine ⟨⟨instruction.encode, code, fun other => Instruction.code_unique code⟩, ?_⟩
    intro word other
    rw [Instruction.code_unique code other, Instruction.encode, List.head?_cons,
      Option.some.injEq]
    exact opcode_eq_extension_iff formed
  · intro instruction other word longer
    exact Instruction.eq_of_prefix

/-- A test of the top bit in memory has a code, which starts with the extension byte and is not the
beginning of a code of another test; the code found at the first address of empty memory is that of
an instruction that can stand there. -/
theorem bit_seven_code :
    (∃ word, (Instruction.bit 7 .atHL).HasCode word ∧ word.head? = some 0xCB ∧
      ∀ longer, (Instruction.bit 6 .atHL).HasCode longer → ¬ word <+: longer) ∧
      Instruction.nop.WellFormed := by
  obtain ⟨found, coded, alone⟩ := decode_is_prefix_code
  have formed : (Instruction.bit 7 .atHL).WellFormed := by
    unfold Instruction.WellFormed
    decide
  obtain ⟨⟨word, code, -⟩, extended⟩ := coded _ formed
  refine ⟨⟨word, code, (extended word code).mpr rfl, fun longer other start => ?_⟩, ?_⟩
  · cases alone _ _ _ _ code other start
  · refine found Memory Memory.zero 0 .nop (decode_eq_ok_iff.mpr ⟨trivial, ?_⟩)
    rw [show Instruction.nop.length.toNat = 1 from rfl, Memory.slice_succ, Memory.get_zero]
    rfl

end SM83
