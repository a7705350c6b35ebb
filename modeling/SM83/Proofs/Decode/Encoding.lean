import SM83.Proofs.Decode.Fields

/-! The bytes of an instruction, read off the instruction alone, and the opcode map as their
inverse: a template completed by operand bytes gives exactly the instructions that have these bytes
behind that opcode. -/
namespace SM83

open Opcode (ofFields ofParts)

namespace Instruction

/-- An instruction that can stand in memory. Excluded are the load from memory to memory, restarts
outside the eight vectors and bit indexes above seven. -/
def WellFormed : Instruction → Prop
  | ld target source => ¬ (target = .atHL ∧ source = .operand .atHL)
  | rst vector => vector ∈ [0x00, 0x08, 0x10, 0x18, 0x20, 0x28, 0x30, 0x38]
  | bit index _ | res index _ | set index _ => index ≤ 7
  | _ => True

/-- The first byte. -/
def opcode : Instruction → UInt8
  | nop => ofFields 0 0 0
  | stop => ofFields 0 2 0
  | halt => ofFields 1 6 6
  | di => ofFields 3 6 3
  | ei => ofFields 3 7 3
  | ld target (.operand source) => ofFields 1 target.index source.index
  | ld target (.immediate _) => ofFields 0 target.index 6
  | storeA (.indirect pair) => ofFields 0 (ofParts pair.index 0) 2
  | loadA (.indirect pair) => ofFields 0 (ofParts pair.index 1) 2
  | storeA (.high _) => ofFields 3 4 0
  | loadA (.high _) => ofFields 3 6 0
  | storeA .highC => ofFields 3 4 2
  | loadA .highC => ofFields 3 6 2
  | storeA (.absolute _) => ofFields 3 5 2
  | loadA (.absolute _) => ofFields 3 7 2
  | ldImmediate16 target _ => ofFields 0 (ofParts target.index 0) 1
  | storeSP _ => ofFields 0 1 0
  | ldSPHL => ofFields 3 7 1
  | ldHLOffset _ => ofFields 3 7 0
  | push pair => ofFields 3 (ofParts pair.index 0) 5
  | pop pair => ofFields 3 (ofParts pair.index 0) 1
  | alu op (.operand source) => ofFields 2 op.index source.index
  | alu op (.immediate _) => ofFields 3 op.index 6
  | inc target => ofFields 0 target.index 4
  | dec target => ofFields 0 target.index 5
  | daa => ofFields 0 4 7
  | cpl => ofFields 0 5 7
  | scf => ofFields 0 6 7
  | ccf => ofFields 0 7 7
  | addHL source => ofFields 0 (ofParts source.index 1) 1
  | addSP _ => ofFields 3 5 0
  | inc16 target => ofFields 0 (ofParts target.index 0) 3
  | dec16 target => ofFields 0 (ofParts target.index 1) 3
  | rotateA rotation => ofFields 0 rotation.index 7
  | jp none _ => ofFields 3 0 3
  | jp (some condition) _ => ofFields 3 condition.index 2
  | jpHL => ofFields 3 5 1
  | jr none _ => ofFields 0 3 0
  | jr (some condition) _ => ofFields 0 (4 ||| condition.index) 0
  | call none _ => ofFields 3 1 5
  | call (some condition) _ => ofFields 3 condition.index 4
  | ret none => ofFields 3 1 1
  | ret (some condition) => ofFields 3 condition.index 0
  | reti => ofFields 3 3 1
  | rst vector => ofFields 3 (vector >>> 3) 7
  | shift _ _ | bit _ _ | res _ _ | set _ _ => ofFields 3 1 3

/-- The bytes behind the first; a word has its low byte first. -/
def operandBytes : Instruction → List UInt8
  | ld _ (.immediate value) | alu _ (.immediate value) => [value]
  | storeA (.high offset) | loadA (.high offset) => [offset]
  | ldHLOffset offset | addSP offset | jr _ offset => [offset.toUInt8]
  | storeA (.absolute word) | loadA (.absolute word) | ldImmediate16 _ word | storeSP word
  | jp _ word | call _ word => [Word.low word, Word.high word]
  | shift op target => [ofFields 0 op.index target.index]
  | bit index target => [ofFields 1 index target.index]
  | res index target => [ofFields 2 index target.index]
  | set index target => [ofFields 3 index target.index]
  | _ => []

/-- All bytes of an instruction. -/
def encode (instruction : Instruction) : List UInt8 :=
  instruction.opcode :: instruction.operandBytes

theorem length_encode (instruction : Instruction) :
    instruction.encode.length = instruction.length.toNat := by
  cases instruction with
  | ld _ source | alu _ source => cases source <;> rfl
  | storeA place | loadA place => cases place <;> rfl
  | _ => rfl

end Instruction

namespace Template

/-- The instruction that a template and the bytes behind the opcode make. -/
def fill? : Template → List UInt8 → Option Instruction
  | complete instruction, [] => some instruction
  | withByte build, [value] => some (build value)
  | withWord build, [low, high] => some (build (Word.ofBytes high low))
  | _, _ => none

def isIllegal : Template → Bool
  | illegal => true
  | _ => false

/-- How many bytes behind the opcode a template asks for. -/
def size : Template → Nat
  | complete _ | illegal => 0
  | withByte _ => 1
  | withWord _ => 2

theorem fill?_withByte (build : UInt8 → Instruction) (value : UInt8) :
    (withByte build).fill? [value] = some (build value) := rfl

theorem fill?_withWord (build : UInt16 → Instruction) (value : UInt16) :
    (withWord build).fill? [Word.low value, Word.high value] = some (build value) := by
  rw [fill?, Word.ofBytes_high_low]

theorem length_of_fill? {template : Template} {bytes : List UInt8} {instruction : Instruction}
    (filled : template.fill? bytes = some instruction) : bytes.length = template.size := by
  unfold fill? at filled
  split at filled <;> simp_all [size]

/-- Whatever a template becomes can stand in memory and has the bytes it was made from. -/
def Codes (opcode : UInt8) (template : Template) : Prop :=
  ∀ bytes instruction, template.fill? bytes = some instruction →
    instruction.WellFormed ∧ instruction.encode = opcode :: bytes

variable {opcode : UInt8}

theorem codes_complete {instruction : Instruction} (formed : instruction.WellFormed)
    (coded : instruction.encode = [opcode]) : (complete instruction).Codes opcode := by
  intro bytes other filled
  cases bytes with
  | nil => exact Option.some.inj filled ▸ ⟨formed, coded⟩
  | cons => simp [fill?] at filled

theorem codes_withByte {build : UInt8 → Instruction} (formed : ∀ value, (build value).WellFormed)
    (coded : ∀ value, (build value).encode = [opcode, value]) :
    (withByte build).Codes opcode := by
  intro bytes other filled
  match bytes with
  | [value] => exact Option.some.inj filled ▸ ⟨formed value, coded value⟩
  | [] | _ :: _ :: _ => simp [fill?] at filled

theorem codes_withWord {build : UInt16 → Instruction} (formed : ∀ value, (build value).WellFormed)
    (coded : ∀ value, (build value).encode = [opcode, Word.low value, Word.high value]) :
    (withWord build).Codes opcode := by
  intro bytes other filled
  match bytes with
  | [low, high] =>
    refine Option.some.inj filled ▸ ⟨formed _, ?_⟩
    rw [coded, Word.low_ofBytes, Word.high_ofBytes]
  | [] | [_] | _ :: _ :: _ :: _ => simp [fill?] at filled

theorem codes_illegal : illegal.Codes opcode := by
  intro bytes other filled
  simp [fill?] at filled

end Template

namespace Opcode

open Instruction Template

/-! From bytes to instructions: one lemma for each quarter of the map. -/

attribute [local simp] encode Instruction.opcode operandBytes

theorem extended_codes (code : UInt8) :
    (extended code).WellFormed ∧ (extended code).encode = [0xCB, code] := by
  have whole := ofFields_fields code
  obtain ⟨x, y, z, -⟩ := fields_lt code
  have index : yField code ≤ 7 := by grind
  have yMask := mask_of_lt_eight y
  have zMask := mask_of_lt_eight z
  unfold extended
  rcases eq_of_lt_four x with x | x | x | x <;> rw [x] at whole <;> rw [x]
  · exact ⟨trivial, by simp [yMask, zMask, whole]; rfl⟩
  all_goals exact ⟨index, by simp [zMask, whole]; rfl⟩

theorem firstQuarter_codes {y z p q : UInt8} (hy : y < 8) (hz : z < 8) (hp : p < 4) (hq : q < 2)
    (parts : ofParts p q = y) : (firstQuarter y z p q).Codes (ofFields 0 y z) := by
  have yMask := mask_of_lt_eight hy
  have pMask := mask_of_lt_four hp
  rcases eq_of_lt_eight hz with rfl | rfl | rfl | rfl | rfl | rfl | rfl | rfl
  · rcases eq_of_lt_eight hy with rfl | rfl | rfl | rfl | rfl | rfl | rfl | rfl
    · exact codes_complete trivial rfl
    · exact codes_withWord (fun _ => trivial) fun _ => rfl
    · exact codes_complete trivial rfl
    · exact codes_withByte (fun _ => trivial) fun _ => by simp
    iterate 4
      exact codes_withByte (fun _ => trivial) fun _ => by
        simp only [encode, opcode, Condition.index_ofIndex, operandBytes, UInt8.toUInt8_toInt8]
        rfl
  · subst parts
    rcases eq_of_lt_two hq with rfl | rfl
    · exact codes_withWord (fun _ => trivial) fun _ => by
        simp [pMask]
    · exact codes_complete trivial (by simp [pMask])
  · subst parts
    rcases eq_of_lt_two hq with rfl | rfl
    all_goals exact codes_complete trivial (by simp [pMask])
  · subst parts
    rcases eq_of_lt_two hq with rfl | rfl
    all_goals exact codes_complete trivial (by simp [pMask])
  · exact codes_complete trivial (by simp [yMask])
  · exact codes_complete trivial (by simp [yMask])
  · exact codes_withByte (fun _ => by simp [WellFormed]) fun _ => by simp [yMask]
  · rcases eq_of_lt_eight hy with rfl | rfl | rfl | rfl | rfl | rfl | rfl | rfl
    all_goals exact codes_complete trivial rfl

theorem secondQuarter_codes {opcode : UInt8} (x : xField opcode = 1) (notHalt : opcode ≠ 0x76) :
    (complete (.ld (.ofIndex (yField opcode)) (.operand (.ofIndex (zField opcode))))).Codes
      opcode := by
  have whole := ofFields_fields opcode
  obtain ⟨-, y, z, -⟩ := fields_lt opcode
  have yMask := mask_of_lt_eight y
  have zMask := mask_of_lt_eight z
  refine codes_complete ?_ (by simp [yMask, zMask, ← x, whole])
  rintro ⟨target, source⟩
  have y6 : yField opcode = 6 := by
    rw [← yMask, ← Operand8.index_ofIndex, target]
    rfl
  have z6 : zField opcode = 6 := by
    rw [← zMask, ← Operand8.index_ofIndex, Source.operand.inj source]
    rfl
  rw [x, y6, z6] at whole
  exact notHalt whole.symm

theorem thirdQuarter_codes {opcode : UInt8} (x : xField opcode = 2) :
    (complete (.alu (.ofIndex (yField opcode)) (.operand (.ofIndex (zField opcode))))).Codes
      opcode := by
  have whole := ofFields_fields opcode
  obtain ⟨-, y, z, -⟩ := fields_lt opcode
  have yMask := mask_of_lt_eight y
  have zMask := mask_of_lt_eight z
  exact codes_complete trivial (by simp [yMask, zMask, ← x, whole])

theorem lastQuarter_codes {y z p q : UInt8} (hy : y < 8) (hz : z < 8) (hp : p < 4) (hq : q < 2)
    (parts : ofParts p q = y) : (lastQuarter y z p q).Codes (ofFields 3 y z) := by
  have yMask := mask_of_lt_eight hy
  have pMask := mask_of_lt_four hp
  rcases eq_of_lt_eight hz with rfl | rfl | rfl | rfl | rfl | rfl | rfl | rfl
  · rcases eq_of_lt_eight hy with rfl | rfl | rfl | rfl | rfl | rfl | rfl | rfl
    iterate 4 exact codes_complete trivial rfl
    all_goals
      exact codes_withByte (fun _ => trivial) fun _ => by simp
  · subst parts
    rcases eq_of_lt_two hq with rfl | rfl
    · exact codes_complete trivial (by simp [pMask])
    · rcases eq_of_lt_four hp with rfl | rfl | rfl | rfl
      all_goals exact codes_complete trivial rfl
  · rcases eq_of_lt_eight hy with rfl | rfl | rfl | rfl | rfl | rfl | rfl | rfl
    iterate 4 exact codes_withWord (fun _ => trivial) fun _ => rfl
    · exact codes_complete trivial rfl
    · exact codes_withWord (fun _ => trivial) fun _ => rfl
    · exact codes_complete trivial rfl
    · exact codes_withWord (fun _ => trivial) fun _ => rfl
  · rcases eq_of_lt_eight hy with rfl | rfl | rfl | rfl | rfl | rfl | rfl | rfl
    · exact codes_withWord (fun _ => trivial) fun _ => rfl
    · exact codes_withByte (fun code => (extended_codes code).1) fun code => (extended_codes code).2
    iterate 4 exact codes_illegal
    all_goals exact codes_complete trivial rfl
  · rcases eq_of_lt_eight hy with rfl | rfl | rfl | rfl | rfl | rfl | rfl | rfl
    iterate 4 exact codes_withWord (fun _ => trivial) fun _ => rfl
    all_goals exact codes_illegal
  · subst parts
    rcases eq_of_lt_two hq with rfl | rfl
    · exact codes_complete trivial (by simp [pMask])
    · rcases eq_of_lt_four hp with rfl | rfl | rfl | rfl
      · exact codes_withWord (fun _ => trivial) fun _ => rfl
      all_goals exact codes_illegal
  · exact codes_withByte (fun _ => trivial) fun _ => by simp [yMask]
  · rcases eq_of_lt_eight hy with rfl | rfl | rfl | rfl | rfl | rfl | rfl | rfl
    all_goals exact codes_complete (by unfold WellFormed; decide) rfl

/-- What the map makes of an opcode and the bytes behind it has that opcode and those bytes. -/
theorem template_codes (opcode : UInt8) : (template opcode).Codes opcode := by
  have whole := ofFields_fields opcode
  have parts := ofParts_parts opcode
  obtain ⟨x, y, z, p, q⟩ := fields_lt opcode
  unfold template
  rcases eq_of_lt_four x with x | x | x | x <;> simp only [x, UInt8.reduceToNat]
  · have codes := firstQuarter_codes y z p q parts
    rwa [← x, whole] at codes
  · split
    · subst opcode
      exact codes_complete trivial rfl
    · exact secondQuarter_codes x ‹_›
  · exact thirdQuarter_codes x
  · have codes := lastQuarter_codes y z p q parts
    rwa [← x, whole] at codes

/-! From instructions to bytes. -/

theorem extended_ofFields {index : UInt8} (small : index < 8) (target : Operand8) :
    extended (ofFields 0 index target.index) = .shift (ShiftOp.ofIndex index) target ∧
      extended (ofFields 1 index target.index) = .bit index target ∧
      extended (ofFields 2 index target.index) = .res index target ∧
      extended (ofFields 3 index target.index) = .set index target := by
  simp [extended, fields_ofFields, small, Operand8.index_lt]

/-- The map makes every instruction that can stand in memory from its own bytes. -/
theorem fill?_template_opcode {instruction : Instruction} (formed : instruction.WellFormed) :
    (template instruction.opcode).fill? instruction.operandBytes = some instruction := by
  have extension {instruction : Instruction} {code : UInt8} (made : extended code = instruction) :
      (template (ofFields 3 1 3)).fill? [code] = some instruction :=
    made ▸ fill?_withByte extended code
  cases instruction with
  | ld target source =>
    cases source with
    | operand source =>
      cases target <;> cases source <;> first
        | rfl
        | exact absurd ⟨rfl, rfl⟩ formed
    | immediate value =>
      simp only [Instruction.opcode, operandBytes]
      cases target <;> rfl
  | alu op source =>
    cases source with
    | operand source => cases op <;> cases source <;> rfl
    | immediate value =>
      simp only [Instruction.opcode, operandBytes]
      cases op <;> rfl
  | storeA place | loadA place =>
    cases place with
    | indirect pair => cases pair <;> rfl
    | absolute address =>
      simp only [Instruction.opcode, operandBytes]
      exact fill?_withWord _ address
    | high offset =>
      simp only [Instruction.opcode, operandBytes]
      exact fill?_withByte _ offset
    | highC => rfl
  | ldImmediate16 target value =>
    simp only [Instruction.opcode, operandBytes]
    cases target <;> exact fill?_withWord _ value
  | storeSP address =>
    simp only [Instruction.opcode, operandBytes]
    exact fill?_withWord _ address
  | push pair | pop pair => cases pair <;> rfl
  | inc target | dec target | addHL target | inc16 target | dec16 target => cases target <;> rfl
  | ldHLOffset offset | addSP offset =>
    simp only [Instruction.opcode, operandBytes]
    exact fill?_withByte _ offset.toUInt8
  | rotateA rotation => cases rotation <;> rfl
  | jp condition address | call condition address =>
    rcases condition with _ | condition
    · simp only [Instruction.opcode, operandBytes]
      exact fill?_withWord _ address
    · simp only [Instruction.opcode, operandBytes]
      cases condition <;> exact fill?_withWord _ address
  | jr condition offset =>
    rcases condition with _ | condition
    · simp only [Instruction.opcode, operandBytes]
      exact fill?_withByte _ offset.toUInt8
    · simp only [Instruction.opcode, operandBytes]
      cases condition <;> exact fill?_withByte _ offset.toUInt8
  | ret condition =>
    rcases condition with _ | condition
    · rfl
    · cases condition <;> rfl
  | rst vector =>
    simp only [WellFormed, List.mem_cons, List.not_mem_nil, or_false] at formed
    rcases formed with rfl | rfl | rfl | rfl | rfl | rfl | rfl | rfl <;> rfl
  | shift op target =>
    have made := (extended_ofFields op.index_lt target).1
    rw [ShiftOp.ofIndex_index] at made
    exact extension made
  | bit index target =>
    have small : index < 8 := by grind [WellFormed]
    exact extension (extended_ofFields small target).2.1
  | res index target =>
    have small : index < 8 := by grind [WellFormed]
    exact extension (extended_ofFields small target).2.2.1
  | set index target =>
    have small : index < 8 := by grind [WellFormed]
    exact extension (extended_ofFields small target).2.2.2
  | nop | stop | halt | di | ei | ldSPHL | daa | cpl | scf | ccf | jpHL | reti => rfl

/-- An opcode and the bytes behind it make exactly the instruction whose bytes they are. -/
theorem fill?_template_iff {opcode : UInt8} {bytes : List UInt8} {instruction : Instruction} :
    (template opcode).fill? bytes = some instruction ↔
      instruction.WellFormed ∧ instruction.encode = opcode :: bytes := by
  constructor
  · exact template_codes opcode bytes instruction
  · rintro ⟨formed, coded⟩
    obtain ⟨rfl, rfl⟩ := List.cons.inj coded
    exact fill?_template_opcode formed

/-- The opcodes that stand for nothing. -/
def illegalOpcodes : List UInt8 :=
  [0xD3, 0xDB, 0xDD, 0xE3, 0xE4, 0xEB, 0xEC, 0xED, 0xF4, 0xFC, 0xFD]

theorem isIllegal_template_iff :
    ∀ opcode, (template opcode).isIllegal ↔ opcode ∈ illegalOpcodes := by
  decide +kernel

theorem isExtended_extended (code : UInt8) : (extended code).isExtended := by
  unfold extended
  split <;> rfl

/-- The extension byte leads to the second map and to nothing else. -/
theorem opcode_eq_extension_iff {instruction : Instruction} (formed : instruction.WellFormed) :
    instruction.opcode = 0xCB ↔ instruction.isExtended := by
  constructor
  · intro extension
    have filled := fill?_template_opcode formed
    rw [extension] at filled
    generalize instruction.operandBytes = bytes at filled
    match bytes with
    | [code] => exact Option.some.inj filled ▸ isExtended_extended code
    | [] | _ :: _ :: _ => cases filled
  · cases instruction <;> intro extended <;> first
      | rfl
      | cases extended

end Opcode
end SM83
