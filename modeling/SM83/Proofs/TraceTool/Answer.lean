import SM83.Proofs.Run.Count
import SM83.Proofs.TraceTool.CommandLine

/-! The trace tool as a whole: it reports the first thing that is wrong, or else runs the image and
tells how far the run came and where the processor stands. Nothing is assumed of the console but
that the text of a failure leads with its message. -/
namespace SM83.TraceTool

variable {console : Console} {files : String → Except String (List UInt8)}
  {arguments : List String}

/-- A console that shows no records and puts what lies behind a failure in a paragraph of its
own. -/
def paragraphs : Console where
  notices := []
  shown _ := []
  describe message cause :=
    message ++ cause.elim "" fun cause => "\n\nCaused by:\n    " ++ cause

theorem paragraphs_leads : paragraphs.LeadsWithMessage := fun _ _ => ⟨_, rfl⟩

/-- What the tool answers when reading a file gives what `files` says. -/
def answerOn (console : Console) (files : String → Except String (List UInt8))
    (arguments : List String) : Report :=
  Id.run (perform console (fun path => pure (files path)) arguments)

theorem answerOn_of_error {failure : Failure}
    (failed : Request.ofArguments arguments = .error failure) :
    answerOn console files arguments = console.failed failure := by
  simp only [answerOn, perform, failed]
  rfl

theorem answerOn_of_ok {request : Request} (read : Request.ofArguments arguments = .ok request) :
    answerOn console files arguments = request.answer console (files request.image) := by
  simp only [answerOn, perform, read]
  rfl

/-- The tool meets a failure before which there is none, or performs what it was asked for. -/
theorem answerOn_cases (console : Console) (files : String → Except String (List UInt8))
    (arguments : List String) :
    (∃ failure, First files arguments failure ∧
      answerOn console files arguments = console.failed failure) ∨
    ∃ (request : Request) (image : List UInt8), request.Meant arguments ∧
      files request.image = .ok image ∧ image.length ≤ UInt16.size ∧
      answerOn console files arguments = request.perform console image := by
  obtain ⟨request, read, meant⟩ | ⟨failure, failed, first⟩ :=
    Request.ofArguments_cases files arguments
  · have answered := @answerOn_of_ok console files arguments request read
    cases contents : files request.image with
    | error cause =>
      refine .inl ⟨.unreadable request.image cause, ⟨.unreadable meant.image contents, ?_⟩, ?_⟩
      · intro other fails
        obtain ⟨_, _, rfl⟩ | ⟨_, read, _⟩ := meant.of_fails fails
        · exact Nat.le_refl _
        · cases contents.symm.trans read
      · rw [answered, contents, Request.answer]
    | ok image =>
      rw [contents, Request.answer] at answered
      by_cases large : UInt16.size < image.length
      · refine .inl ⟨.tooLarge request.image image.length,
          ⟨.tooLarge meant.image contents large, ?_⟩, ?_⟩
        · intro other fails
          obtain ⟨_, unread, _⟩ | ⟨_, _, _, rfl⟩ := meant.of_fails fails
          · cases contents.symm.trans unread
          · exact Nat.le_refl _
        · rw [answered, if_pos large]
      · rw [answered, if_neg large]
        exact .inr ⟨request, image, meant, contents, Nat.le_of_not_lt large, rfl⟩
  · exact .inl ⟨failure, first, answerOn_of_error failed⟩

/-- A processor as switched on that is about to run an image, in memory that is empty otherwise. -/
def loaded (address : UInt16) (image : List UInt8) : Machine Memory :=
  ⟨(Cpu.ofConfig .default).setWord .pc address, Memory.zero.load address image⟩

/-- What is said of a run that ends after `count` of at most `limit` steps. -/
inductive Headline (machine : Machine Memory) (limit count : Nat) : String → Prop
  | stopped {fault : IllegalOpcode} : count < limit →
      (machine.after count).step.result = .error fault →
      Headline machine limit count
        ("Stopped after " ++ Nat.repr count ++ " instructions: " ++
          ("illegal opcode 0x" ++ Numeral.hexByte fault.opcode ++
            " at 0x" ++ Numeral.hexWord fault.address))
  | executed : count = limit →
      Headline machine limit count ("Executed " ++ Nat.repr count ++ " instructions")

theorem headline_ending {machine : Machine Memory} {α : Type} (keep : Step Memory → List α)
    (limit : Nat) :
    let run := machine.run keep limit
    Headline machine limit run.executed (ending run) := by
  intro run
  obtain ⟨completes, -, stops⟩ := machine.run_completes keep limit
  cases ended : run.fault with
  | none =>
    have all : run.executed = limit := by
      refine Nat.le_antisymm completes.le (Nat.le_of_not_lt fun short => ?_)
      obtain ⟨fault, failed⟩ := completes.fails short
      cases ended.symm.trans ((stops fault).mpr ⟨short, failed⟩)
    simp only [ending, ended]
    exact .executed all
  | some fault =>
    obtain ⟨short, failed⟩ := (stops fault).mp ended
    simp only [ending, ended]
    exact .stopped short failed

/-- The tool exits with code 1 and prints nothing exactly if something is wrong with the arguments
or the file, and then reports what comes first. Otherwise it exits with code 0 and prints three
lines: how many steps of the image succeeded and whether an illegal opcode ended the run, and the
registers and the state of the processor after that many steps. -/
theorem answer_is_first_failure_or_run (leads : console.LeadsWithMessage)
    (files : String → Except String (List UInt8)) (arguments : List String) :
    let report := answerOn console files arguments
    (report.exitCode = 1 ∧ report.output = [] ↔ ∃ failure, Fails files arguments failure) ∧
    ((∃ failure, Fails files arguments failure) → ∃ failure, First files arguments failure) ∧
    (∀ failure, First files arguments failure →
      let (message, cause) := failure.told
      report.errors = console.notices ++ ["Error: " ++ console.describe message cause] ∧
      ∃ behind, console.describe message cause = message ++ behind) ∧
    ((∀ failure, ¬ Fails files arguments failure) →
      ∃ (request : Request) (image : List UInt8),
        request.Meant arguments ∧ files request.image = .ok image ∧
        ∃ count headline, let machine := loaded request.address image
          let cpu := (machine.after count).cpu
          let power := match cpu.power with
            | .running => "Running"
            | .halted => "Halted"
            | .stopped => "Stopped"
          machine.Completes request.steps count ∧
          (∀ other, machine.Completes request.steps other → other = count) ∧
          Headline machine request.steps count headline ∧ report.exitCode = 0 ∧
          report.output =
            [headline,
              "AF=" ++ Numeral.hexWord cpu.regs.af ++ " BC=" ++ Numeral.hexWord cpu.regs.bc ++
                " DE=" ++ Numeral.hexWord cpu.regs.de ++ " HL=" ++ Numeral.hexWord cpu.regs.hl ++
                " SP=" ++ Numeral.hexWord cpu.regs.sp ++ " PC=" ++ Numeral.hexWord cpu.regs.pc,
              "IME=" ++ (if cpu.ime then "1" else "0") ++ " power=" ++ power]) := by
  intro report
  obtain ⟨failure, first, answered⟩ | ⟨request, image, meant, read, small, answered⟩ :=
    answerOn_cases console files arguments
  · have answered : report = _ := answered
    rw [answered]
    refine ⟨iff_of_true ⟨rfl, rfl⟩ ⟨failure, first.fails⟩, fun _ => ⟨failure, first⟩, ?_, ?_⟩
    · intro other reported
      cases first.unique reported
      simp only [failure.told_eq]
      exact ⟨rfl, leads _ _⟩
    · intro sound
      exact absurd first.fails (sound failure)
  · have answered : report = _ := answered
    have sound : ∀ failure, ¬ Fails files arguments failure := meant.not_fails read small
    rw [answered]
    refine ⟨iff_of_false ?_ ?_, ?_, ?_, fun _ => ⟨request, image, meant, read, ?_⟩⟩
    · rintro ⟨code, -⟩
      cases code
    · rintro ⟨failure, fails⟩
      exact sound failure fails
    · rintro ⟨failure, fails⟩
      exact absurd fails (sound failure)
    · intro failure first
      exact absurd first.fails (sound failure)
    · obtain ⟨completes, same, -⟩ := (loaded request.address image).run_completes
        console.records request.steps
      refine ⟨_, _, completes, fun other same => same.unique completes, headline_ending _ _,
        rfl, ?_⟩
      rw [← same]
      rfl

/-- Of two instructions that are asked for the second is illegal. Where neither the step count nor
the address is a number, the step count is the failure. -/
theorem stopped_behind_first_instruction :
    (answerOn paragraphs (fun _ => .ok [0x00, 0xD3]) ["image", "2"]).output =
      ["Stopped after 1 instructions: illegal opcode 0xD3 at 0x0001",
        "AF=0000 BC=0000 DE=0000 HL=0000 SP=FFFE PC=0001", "IME=1 power=Running"] ∧
    (answerOn paragraphs (fun _ => .ok []) ["image", "many", "0xG"]).errors =
      ["Error: invalid step count 'many'\n\nCaused by:\n    invalid digit found in string"] := by
  constructor
  · let files : String → Except String (List UInt8) := fun _ => .ok [0x00, 0xD3]
    have asked : Request.Meant ["image", "2"] ⟨"image", 2, 0⟩ :=
      ⟨rfl, .inr ⟨"2", rfl, rfl⟩, .inl ⟨rfl, rfl⟩⟩
    have sound : ∀ failure, ¬ Fails files ["image", "2"] failure :=
      asked.not_fails rfl (by decide)
    have failed : ((loaded 0 [0x00, 0xD3]).after 1).step.result = .error ⟨0xD3, 1⟩ := rfl
    have first : ∃ instruction, (loaded 0 [0x00, 0xD3]).step.result = .ok instruction := ⟨.nop, rfl⟩
    have one : (loaded 0 [0x00, 0xD3]).Completes 2 1 := by
      refine ⟨by decide, fun earlier before => ?_, fun _ => ⟨_, failed⟩⟩
      cases Nat.lt_one_iff.mp before
      exact first
    obtain ⟨-, -, -, runs⟩ := answer_is_first_failure_or_run paragraphs_leads files ["image", "2"]
    obtain ⟨_, _, meant, read, count, _, -, unique, said, -, output⟩ := runs sound
    cases asked.unique meant
    cases read
    cases unique 1 one
    cases said with
    | stopped _ illegal =>
      cases failed.symm.trans illegal
      exact output
    | executed all => cases all
  · let files : String → Except String (List UInt8) := fun _ => .ok []
    have first : First files ["image", "many", "0xG"] (.stepCount "many" .invalidDigit) := by
      refine ⟨.stepCount rfl rfl, fun other fails => ?_⟩
      cases fails with
      | missingImage absent => cases absent
      | _ => simp [Failure.rank]
    obtain ⟨-, -, reports, -⟩ :=
      answer_is_first_failure_or_run paragraphs_leads files ["image", "many", "0xG"]
    exact (reports _ first).1

end SM83.TraceTool
