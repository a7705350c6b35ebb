import SM83.Proofs.Assembly.Line
import SM83.Proofs.Decode.PrefixCode

/-! Assembly text read back: the text of an instruction says which instruction it is. -/
namespace SM83

open Assembly

/-! Names of operands and operations, looked up among all there are. -/

def Operand8.ofText? (letters : String) : Option Operand8 :=
  [b, c, d, e, h, l, atHL, a].find? (·.text = letters)

def Operand16.ofText? (letters : String) : Option Operand16 :=
  [bc, de, hl, sp].find? (·.text = letters)

def StackPair.ofText? (letters : String) : Option StackPair :=
  [bc, de, hl, af].find? (·.text = letters)

/-- The places that are named by a pair or register, not by an address. -/
def Place.ofText? (letters : String) : Option Place :=
  [indirect .bc, indirect .de, indirect .hlInc, indirect .hlDec, highC].find? (·.text = letters)

def Condition.ofText? (letters : String) : Option Condition :=
  [nz, z, nc, c].find? (·.text = letters)

def ShiftOp.ofText? (letters : String) : Option ShiftOp :=
  [rotate .rlc, rotate .rrc, rotate .rl, rotate .rr, sla, sra, swap, srl].find? (·.text = letters)

@[simp] theorem Operand8.ofText?_text (operand : Operand8) :
    ofText? operand.text = some operand := by
  cases operand <;> rfl

@[simp] theorem Operand16.ofText?_text (operand : Operand16) :
    ofText? operand.text = some operand := by
  cases operand <;> rfl

@[simp] theorem StackPair.ofText?_text (pair : StackPair) : ofText? pair.text = some pair := by
  cases pair <;> rfl

@[simp] theorem Condition.ofText?_text (condition : Condition) :
    ofText? condition.text = some condition := by
  cases condition <;> rfl

def AluOp.ofVerb? (letters : String) : Option AluOp :=
  [add, adc, sub, sbc, and, xor, or, cp].find? (·.verb = letters)

namespace Instruction

/-- The instructions of one word. -/
def bare : List Instruction :=
  [nop, stop, halt, di, ei, daa, cpl, scf, ccf, ret none, reti, rotateA .rlc, rotateA .rrc,
    rotateA .rl, rotateA .rr]

/-- Reads an instruction with one operand. -/
def ofTerm? (verb : String) : Term → Option Instruction
  | .name letters =>
    match verb with
    | "PUSH" => (StackPair.ofText? letters).map push
    | "POP" => (StackPair.ofText? letters).map pop
    | "INC" => (Operand8.ofText? letters).map inc <|> (Operand16.ofText? letters).map inc16
    | "DEC" => (Operand8.ofText? letters).map dec <|> (Operand16.ofText? letters).map dec16
    | "JP" => some jpHL
    | "RET" => (Condition.ofText? letters).map fun test => ret (some test)
    | _ => do
      let target ← Operand8.ofText? letters
      (ShiftOp.ofText? verb).map (shift · target) <|>
        (AluOp.ofVerb? verb).map (alu · (.operand target))
  | .byte value =>
    match verb with
    | "RST" => some (rst value)
    | _ => (AluOp.ofVerb? verb).map (alu · (.immediate value))
  | .word address =>
    match verb with
    | "JP" => some (jp none address)
    | _ => some (call none address)
  | .number offset => some (jr none offset.toInt8)
  | _ => none

/-- Reads a load with two names. -/
def ofNames? (first second : String) : Option Instruction :=
  match Operand8.ofText? first, Operand8.ofText? second with
  | some target, some source => some (ld target (.operand source))
  | none, some _ => (Place.ofText? first).map storeA
  | some _, none => (Place.ofText? second).map loadA
  | none, none => some ldSPHL

/-- Reads an instruction with two operands. -/
def ofTwoTerms? (verb : String) : Term → Term → Option Instruction
  | .name first, .name second =>
    match verb, first with
    | "LD", _ => ofNames? first second
    | _, "HL" => (Operand16.ofText? second).map addHL
    | _, _ => do
      let source ← Operand8.ofText? second
      (AluOp.ofVerb? verb).map (alu · (.operand source))
  | .name first, .byte value =>
    match verb with
    | "LD" => (Operand8.ofText? first).map (ld · (.immediate value))
    | _ => (AluOp.ofVerb? verb).map (alu · (.immediate value))
  | .name first, .word value =>
    match verb with
    | "LD" => (Operand16.ofText? first).map (ldImmediate16 · value)
    | "JP" => (Condition.ofText? first).map fun test => jp (some test) value
    | _ => (Condition.ofText? first).map fun test => call (some test) value
  | .name first, .number offset =>
    match verb with
    | "ADD" => some (addSP offset.toInt8)
    | _ => (Condition.ofText? first).map fun test => jr (some test) offset.toInt8
  | .name _, .fromSP offset => some (ldHLOffset offset.toInt8)
  | .name _, .wordCell address => some (loadA (.absolute address))
  | .name _, .byteCell offset => some (loadA (.high offset))
  | .wordCell address, .name second =>
    match second with
    | "SP" => some (storeSP address)
    | _ => some (storeA (.absolute address))
  | .byteCell offset, .name _ => some (storeA (.high offset))
  | .number index, .name letters => do
    let target ← Operand8.ofText? letters
    let index := index.toNat.toUInt8
    match verb with
    | "BIT" => some (bit index target)
    | "RES" => some (res index target)
    | _ => some (set index target)
  | _, _ => none

def ofTerms? (verb : String) : List Term → Option Instruction
  | [] => bare.find? (·.text = verb)
  | [term] => ofTerm? verb term
  | [first, second] => ofTwoTerms? verb first second
  | _ => none

theorem ofTerms?_terms (instruction : Instruction) :
    ofTerms? instruction.verb instruction.terms = some instruction := by
  cases instruction with
  | ld target source =>
    cases source <;> simp [ofTerms?, ofTwoTerms?, ofNames?, verb, terms, Source.term]
  | storeA place | loadA place =>
    cases place with
    | indirect pair => cases pair <;> rfl
    | _ => rfl
  | ldImmediate16 target value => simp [ofTerms?, ofTwoTerms?, verb, terms]
  | ldHLOffset offset | addSP offset => simp [ofTerms?, ofTwoTerms?, verb, terms]
  | alu op source =>
    cases source with
    | immediate value => cases op <;> rfl
    | operand source =>
      cases op <;>
        simp [ofTerms?, ofTerm?, ofTwoTerms?, verb, terms, AluOp.terms, AluOp.verb, Source.term] <;>
        decide
  | push pair | pop pair => simp [ofTerms?, ofTerm?, verb, terms]
  | inc target | dec target => simp [ofTerms?, ofTerm?, verb, terms]
  | inc16 target | dec16 target | addHL target => cases target <;> rfl
  | shift op target =>
    cases op with
    | rotate rotation =>
      cases rotation <;> simp [ofTerms?, ofTerm?, verb, terms, ShiftOp.text, Rotation.text] <;> rfl
    | _ => simp [ofTerms?, ofTerm?, verb, terms, ShiftOp.text]; rfl
  | bit index target | res index target | set index target =>
    simp [ofTerms?, ofTwoTerms?, verb, terms]
  | rotateA rotation => cases rotation <;> rfl
  | jp condition address | call condition address =>
    cases condition <;> simp [ofTerms?, ofTerm?, ofTwoTerms?, verb, terms, conditionTerms]
  | jr condition offset =>
    cases condition <;>
      simp [ofTerms?, ofTerm?, ofTwoTerms?, verb, terms, conditionTerms]
  | ret condition =>
    cases condition with
    | none => rfl
    | some test => simp [ofTerms?, ofTerm?, verb, terms]
  | _ => rfl

/-- Reads the text of one instruction. -/
def ofText? (text : String) : Option Instruction :=
  match text.toList.splitOn ' ' with
  | [verb] => ofTerms? (String.ofList verb) []
  | [verb, terms] => ofTerms? (String.ofList verb) ((terms.splitOn ',').map Term.read)
  | _ => none

theorem ofText?_text (instruction : Instruction) : ofText? instruction.text = some instruction := by
  have named := blank_not_mem_verb instruction
  have known := ofTerms?_terms instruction
  rw [ofText?, toList_text]
  by_cases any : instruction.terms = []
  · rw [any] at known ⊢
    rw [line, List.splitOn_eq_singleton named]
    simpa using known
  · obtain ⟨joined, words, terms⟩ := split_line named (readable_terms instruction) any
    rw [words]
    simpa [terms] using known

/-- The text of an instruction tells which instruction it is, with every operand, also one that no
opcode has. So where instructions with the same text are found in memory, the same bytes stand. -/
theorem text_unambiguous :
    Function.Injective text ∧
    ∀ (memory other : Memory) (pc place : UInt16) (instruction twin : Instruction),
      ((decode pc).observe memory).value = .ok instruction →
      ((decode place).observe other).value = .ok twin → twin.text = instruction.text →
      twin.length = instruction.length ∧
        other.slice place twin.length.toNat = memory.slice pc instruction.length.toNat := by
  have unambiguous : Function.Injective text := by
    intro one other same
    apply Option.some.inj
    rw [← ofText?_text one, same, ofText?_text]
  refine ⟨unambiguous, ?_⟩
  intro memory other pc place instruction twin found alsoFound same
  obtain rfl := unambiguous same
  rw [(decode_eq_ok_iff.mp found).2, (decode_eq_ok_iff.mp alsoFound).2]
  exact ⟨rfl, rfl⟩

/-- A jump to itself, once at the first address and once across the end of memory. -/
theorem endless_jump_unambiguous :
    let memory := (Memory.zero.set 0 0x20).set 1 0xFE
    let other := (Memory.zero.set 0xFFFF 0x20).set 0 0xFE
    (jr (some .nz) (-2)).text = "JR NZ,-2" ∧ other.slice 0xFFFF 2 = memory.slice 0 2 := by
  intro memory other
  have formed : (jr (some .nz) (-2)).WellFormed := trivial
  have first : memory.slice 0 2 = (jr (some .nz) (-2)).encode := by
    change [memory.get 0, memory.get 1] = [0x20, 0xFE]
    simp [memory]
  have second : other.slice 0xFFFF 2 = (jr (some .nz) (-2)).encode := by
    change [other.get 0xFFFF, other.get 0] = [0x20, 0xFE]
    simp [other]
  have found := decode_eq_ok_iff.mpr ⟨formed, first⟩
  have alsoFound := decode_eq_ok_iff.mpr ⟨formed, second⟩
  exact ⟨by decide, (text_unambiguous.2 memory other 0 0xFFFF _ _ found alsoFound rfl).2⟩

end Instruction
end SM83
