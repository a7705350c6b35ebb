import SM83.Instruction.Text
import SM83.Proofs.Assembly.Term

/-! The text of an instruction as a line of assembly: a verb, and behind a blank the terms with
commas between them. No separator stands in a verb or term. -/
namespace SM83

open Assembly

def AluOp.verb : AluOp → String
  | add => "ADD"
  | adc => "ADC"
  | sub => "SUB"
  | sbc => "SBC"
  | and => "AND"
  | xor => "XOR"
  | or => "OR"
  | cp => "CP"

/-- Some operations name A before the source. -/
def AluOp.terms : AluOp → Term → List Term
  | add, source | adc, source | sbc, source => [.name "A", source]
  | _, source => [source]

def Source.term : Source → Term
  | operand place => .name place.text
  | immediate value => .byte value

def Place.term : Place → Term
  | absolute address => .wordCell address
  | high offset => .byteCell offset
  | place => .name place.text

namespace Instruction

def conditionTerms (condition : Option Condition) (operand : Term) : List Term :=
  match condition with
  | none => [operand]
  | some test => [.name test.text, operand]

def verb : Instruction → String
  | ld _ _ | ldImmediate16 _ _ | storeSP _ | ldSPHL | ldHLOffset _ => "LD"
  | storeA place | loadA place => place.verb
  | push _ => "PUSH"
  | pop _ => "POP"
  | alu op _ => op.verb
  | inc _ | inc16 _ => "INC"
  | dec _ | dec16 _ => "DEC"
  | addHL _ | addSP _ => "ADD"
  | jp _ _ | jpHL => "JP"
  | jr _ _ => "JR"
  | call _ _ => "CALL"
  | ret _ => "RET"
  | rst _ => "RST"
  | shift op _ => op.text
  | bit _ _ => "BIT"
  | res _ _ => "RES"
  | set _ _ => "SET"
  | instruction => instruction.text

def terms : Instruction → List Term
  | ld target source => [.name target.text, source.term]
  | storeA place => [place.term, .name "A"]
  | loadA place => [.name "A", place.term]
  | ldImmediate16 target value => [.name target.text, .word value]
  | storeSP address => [.wordCell address, .name "SP"]
  | ldSPHL => [.name "SP", .name "HL"]
  | ldHLOffset offset => [.name "HL", .fromSP offset.toInt]
  | push pair | pop pair => [.name pair.text]
  | alu op source => op.terms source.term
  | inc target | dec target | shift _ target => [.name target.text]
  | addHL source => [.name "HL", .name source.text]
  | addSP offset => [.name "SP", .number offset.toInt]
  | inc16 target | dec16 target => [.name target.text]
  | jp condition address | call condition address => conditionTerms condition (.word address)
  | jpHL => [.name "(HL)"]
  | jr condition offset => conditionTerms condition (.number offset.toInt)
  | ret (some test) => [.name test.text]
  | rst vector => [.byte vector]
  | bit index target | res index target | set index target =>
    [.number index.toNat, .name target.text]
  | _ => []

def line (verb : String) : List Term → List Char
  | [] => verb.toList
  | terms => verb.toList ++ ' ' :: [','].intercalate (terms.map (·.text.toList))

theorem toList_text (instruction : Instruction) :
    instruction.text.toList = line instruction.verb instruction.terms := by
  cases instruction with
  | ld target source =>
    cases source <;> simp [text, verb, terms, line, Source.term, Source.text, Term.text]
  | storeA place | loadA place =>
    cases place <;>
      simp [text, verb, terms, line, Place.term, Place.text, Place.verb, Term.text]
  | alu op source =>
    cases op <;> cases source <;>
      simp [text, verb, terms, line, AluOp.lead, AluOp.verb, AluOp.terms, Source.term, Source.text,
        Term.text]
  | jp condition address | call condition address =>
    cases condition <;> simp [text, verb, terms, line, conditional, conditionTerms, Term.text]
  | jr condition offset =>
    cases condition <;>
      simp [text, verb, terms, line, conditional, conditionTerms, Term.signed_eq]
  | ret condition => cases condition <;> simp [text, verb, terms, line]
  | bit index target | res index target | set index target =>
    simp [text, verb, terms, line, indexed, Term.decimal_eq]
  | ldHLOffset offset => simp [text, verb, terms, line, ← Term.toList_explicitlySigned]
  | addSP offset => simp [text, verb, terms, line, Term.signed_eq]
  | _ => simp [text, verb, terms, line, Term.text]

theorem readable_operand8 (operand : Operand8) : (Term.name operand.text).Readable := by
  cases operand <;> exact ⟨rfl, by decide, by decide⟩

theorem readable_operand16 (operand : Operand16) : (Term.name operand.text).Readable := by
  cases operand <;> exact ⟨rfl, by decide, by decide⟩

theorem readable_pair (pair : StackPair) : (Term.name pair.text).Readable := by
  cases pair <;> exact ⟨rfl, by decide, by decide⟩

theorem readable_condition (test : Condition) : (Term.name test.text).Readable := by
  cases test <;> exact ⟨rfl, by decide, by decide⟩

theorem readable_place (place : Place) : place.term.Readable := by
  cases place with
  | indirect pair => cases pair <;> exact ⟨rfl, by decide, by decide⟩
  | absolute address => exact Term.readable_wordCell address
  | high offset => exact Term.readable_byteCell offset
  | highC => exact ⟨rfl, by decide, by decide⟩

theorem readable_source (source : Source) : source.term.Readable := by
  cases source with
  | operand operand => exact readable_operand8 operand
  | immediate value => exact Term.readable_byte value

theorem readable_conditionTerms {operand : Term} (readable : operand.Readable)
    (condition : Option Condition) :
    ∀ term ∈ conditionTerms condition operand, term.Readable := by
  cases condition with
  | none => simpa [conditionTerms] using readable
  | some test => simpa [conditionTerms] using ⟨readable_condition test, readable⟩

theorem readable_terms (instruction : Instruction) :
    ∀ term ∈ instruction.terms, term.Readable := by
  have a : (Term.name "A").Readable := readable_operand8 .a
  have hl : (Term.name "HL").Readable := readable_operand16 .hl
  have sp : (Term.name "SP").Readable := readable_operand16 .sp
  have atHL : (Term.name "(HL)").Readable := readable_operand8 .atHL
  cases instruction with
  | ret condition => cases condition <;> simp [terms, readable_condition]
  | alu op source => cases op <;> simp [terms, AluOp.terms, a, readable_source]
  | jp condition address | call condition address =>
    exact readable_conditionTerms (Term.readable_word address) condition
  | jr condition offset => exact readable_conditionTerms (Term.readable_number _) condition
  | _ =>
    simp [terms, a, hl, sp, atHL, readable_operand8, readable_operand16, readable_pair,
      readable_place, readable_source, Term.readable_byte, Term.readable_word,
      Term.readable_wordCell, Term.readable_number, Term.readable_fromSP]

theorem blank_not_mem_verb (instruction : Instruction) : ' ' ∉ instruction.verb.toList := by
  cases instruction with
  | storeA place | loadA place => cases place <;> simp [verb, Place.verb]
  | alu op source => cases op <;> simp [verb, AluOp.verb]
  | shift op target =>
    cases op with
    | rotate rotation => cases rotation <;> simp [verb, ShiftOp.text, Rotation.text]
    | _ => simp [verb, ShiftOp.text]
  | rotateA rotation => cases rotation <;> decide
  | _ => simp [verb, text]

theorem blank_not_mem_join {words : List (List Char)} (blank : ∀ word ∈ words, ' ' ∉ word) :
    ' ' ∉ [','].intercalate words := by
  induction words with
  | nil => simp
  | cons first rest ih =>
    obtain ⟨head, tail⟩ := List.forall_mem_cons.mp blank
    cases rest with
    | nil => simpa using head
    | cons second rest =>
      rw [List.intercalate_cons_cons]
      simp [head, ih tail]

/-- A line is split at its blank, and what stands behind that at its commas. -/
theorem split_line {verb : String} {terms : List Term} (named : ' ' ∉ verb.toList)
    (readable : ∀ term ∈ terms, term.Readable) (any : terms ≠ []) :
    ∃ joined, (line verb terms).splitOn ' ' = [verb.toList, joined] ∧
      (joined.splitOn ',').map Term.read = terms := by
  let words := terms.map (·.text.toList)
  have blank : ∀ word ∈ words, ' ' ∉ word :=
    List.forall_mem_map.mpr fun term member => (readable term member).blank
  have comma : ∀ word ∈ words, ',' ∉ word :=
    List.forall_mem_map.mpr fun term member => (readable term member).comma
  refine ⟨[','].intercalate words, ?_, ?_⟩
  · rw [line, List.splitOn_append_cons_self_of_not_mem named,
      List.splitOn_eq_singleton (blank_not_mem_join blank)]
    exact any
  · rw [List.splitOn_intercalate ',' comma (by simpa [words] using any), List.map_map]
    calc terms.map (Term.read ∘ fun term => term.text.toList)
      _ = terms.map id := List.map_congr_left fun term member => (readable term member).back
      _ = terms := List.map_id terms

end Instruction
end SM83
