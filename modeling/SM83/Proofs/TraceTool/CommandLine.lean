import SM83.TraceTool.Basic

/-! What can be wrong with a command line and the files it is about, each fault told for itself,
and what is reported when several things are. -/
namespace SM83.TraceTool

variable {files : String → Except String (List UInt8)} {arguments : List String}

/-- Something that is wrong with the arguments or the file they name, whatever else is. -/
inductive Fails (files : String → Except String (List UInt8)) (arguments : List String) :
    Failure → Prop
  | missingImage : arguments[0]? = none → Fails files arguments .missingImage
  | stepCount {text : String} {cause : NumeralError} : arguments[1]? = some text →
      Numeral.read 10 (UInt64.size - 1) text = .error cause →
      Fails files arguments (.stepCount text cause)
  | address {text : String} {error : AddressError} : arguments[2]? = some text →
      Address.read text = .error error → Fails files arguments (.address error)
  | unreadable {path cause : String} : arguments[0]? = some path → files path = .error cause →
      Fails files arguments (.unreadable path cause)
  | tooLarge {path : String} {image : List UInt8} : arguments[0]? = some path →
      files path = .ok image → UInt16.size < image.length →
      Fails files arguments (.tooLarge path image.length)

/-- The place of a failure in the order in which the tool looks for them. -/
def Failure.rank : Failure → Nat
  | missingImage => 0
  | stepCount _ _ => 1
  | address _ => 2
  | unreadable _ _ => 3
  | tooLarge _ _ => 4

/-- What is told of a failure: a message, and for some what lies behind it. -/
def Failure.told : Failure → String × Option String
  | missingImage => ("Usage: dm_trace <image> [steps] [load_addr]", none)
  | stepCount text cause => ("invalid step count '" ++ text ++ "'", some cause.message)
  | address error => ("invalid address '" ++ error.text ++ "'", some error.cause.message)
  | unreadable path cause => ("failed to read image '" ++ path ++ "'", some cause)
  | tooLarge path size =>
    ("image '" ++ path ++ "' is " ++ Nat.repr size ++
      " bytes, larger than the 64 KiB address space", none)

theorem Failure.told_eq (failure : Failure) : failure.told = (failure.message, failure.cause?) := by
  cases failure <;> rfl

structure First (files : String → Except String (List UInt8)) (arguments : List String)
    (failure : Failure) : Prop where
  fails : Fails files arguments failure
  least : ∀ other, Fails files arguments other → failure.rank ≤ other.rank

theorem Fails.eq_of_rank {first second : Failure} (one : Fails files arguments first)
    (other : Fails files arguments second) (same : first.rank = second.rank) : first = second := by
  cases one <;> cases other <;> simp_all [Failure.rank]

theorem First.unique {first second : Failure} (one : First files arguments first)
    (other : First files arguments second) : first = second :=
  one.fails.eq_of_rank other.fails <|
    Nat.le_antisymm (one.least second other.fails) (other.least first one.fails)

/-- What an argument that may be left out stands for. -/
def Given {α ε : Type} (read : String → Except ε α) (default : α) (argument : Option String)
    (value : α) : Prop :=
  (argument = none ∧ value = default) ∨ ∃ text, argument = some text ∧ read text = .ok value

section Given

variable {α ε : Type} {read : String → Except ε α} {default : α} {argument : Option String}

theorem Given.not_error {value : α} {text : String} {error : ε}
    (given : Given read default argument value) (present : argument = some text) :
    read text ≠ .error error := by
  intro failed
  obtain ⟨absent, -⟩ | ⟨other, same, found⟩ := given
  · cases absent.symm.trans present
  · cases same.symm.trans present
    cases found.symm.trans failed

theorem Given.unique {first second : α} (one : Given read default argument first)
    (other : Given read default argument second) : first = second := by
  obtain ⟨absent, rfl⟩ | ⟨text, present, found⟩ := one
  · obtain ⟨-, rfl⟩ | ⟨text, present, -⟩ := other
    · rfl
    · cases absent.symm.trans present
  · obtain ⟨absent, -⟩ | ⟨again, same, result⟩ := other
    · cases absent.symm.trans present
    · cases present.symm.trans same
      cases found.symm.trans result
      rfl

/-- An argument that may be left out is given a value, or its text is at fault. -/
theorem given_or_error {option : Option String → Except Failure α} {wrap : String → ε → Failure}
    (absent : option none = .ok default)
    (present : ∀ text, option (some text) = (read text).mapError (wrap text))
    (argument : Option String) :
    (∃ value, option argument = .ok value ∧ Given read default argument value) ∨
      ∃ text error, option argument = .error (wrap text error) ∧ argument = some text ∧
        read text = .error error := by
  cases argument with
  | none => exact .inl ⟨default, absent, .inl ⟨rfl, rfl⟩⟩
  | some text =>
    rw [present]
    cases found : read text with
    | ok value => exact .inl ⟨value, rfl, .inr ⟨text, rfl, found⟩⟩
    | error error => exact .inr ⟨text, error, rfl, rfl, found⟩

end Given

namespace Request

structure Meant (arguments : List String) (request : Request) : Prop where
  image : arguments[0]? = some request.image
  steps : Given (Numeral.read 10 (UInt64.size - 1)) 1000 arguments[1]? request.steps
  address : Given Address.read 0 arguments[2]? request.address

theorem Meant.unique {first second : Request} (one : first.Meant arguments)
    (other : second.Meant arguments) : first = second := by
  obtain ⟨image, steps, address⟩ := first
  cases one.image.symm.trans other.image
  cases one.steps.unique other.steps
  cases one.address.unique other.address
  rfl

/-- What can still be wrong with arguments that are in order is the file. -/
theorem Meant.of_fails {request : Request} {failure : Failure} (meant : request.Meant arguments)
    (fails : Fails files arguments failure) :
    (∃ cause, files request.image = .error cause ∧
        failure = .unreadable request.image cause) ∨
      ∃ image, files request.image = .ok image ∧ UInt16.size < image.length ∧
        failure = .tooLarge request.image image.length := by
  cases fails with
  | missingImage absent => cases absent.symm.trans meant.image
  | stepCount present failed => exact absurd failed (meant.steps.not_error present)
  | address present failed => exact absurd failed (meant.address.not_error present)
  | unreadable present failed =>
    cases present.symm.trans meant.image
    exact .inl ⟨_, failed, rfl⟩
  | tooLarge present read large =>
    cases present.symm.trans meant.image
    exact .inr ⟨_, read, large, rfl⟩

/-- Nothing is wrong where the arguments are in order and the file is read and fits. -/
theorem Meant.not_fails {request : Request} {image : List UInt8} (meant : request.Meant arguments)
    (read : files request.image = .ok image) (small : image.length ≤ UInt16.size)
    (failure : Failure) : ¬ Fails files arguments failure := by
  intro fails
  obtain ⟨cause, unread, -⟩ | ⟨contents, again, large, -⟩ := meant.of_fails fails
  · cases read.symm.trans unread
  · cases read.symm.trans again
    exact Nat.not_lt_of_le small large

/-- The arguments are read as the request they stand for, or the first of them that is at fault is
the first failure of all. -/
theorem ofArguments_cases (files : String → Except String (List UInt8)) (arguments : List String) :
    (∃ request, ofArguments arguments = .ok request ∧ request.Meant arguments) ∨
      ∃ failure, ofArguments arguments = .error failure ∧ First files arguments failure := by
  cases arguments with
  | nil => exact .inr ⟨_, rfl, .missingImage rfl, fun _ _ => Nat.zero_le _⟩
  | cons image options =>
    have read : ofArguments (image :: options) = (readSteps options[0]?).bind fun steps =>
      (readAddress options[1]?).bind fun address => .ok ⟨image, steps, address⟩ := rfl
    rw [read]
    have counted := @given_or_error _ _ _ _ readSteps Failure.stepCount rfl (fun _ => rfl)
      options[0]?
    have placed := @given_or_error _ _ _ _ readAddress (fun _ => Failure.address) rfl
      (fun _ => rfl) options[1]?
    obtain ⟨steps, counts, givenSteps⟩ | ⟨text, cause, counts, present, failed⟩ := counted
    · rw [counts, Except.bind]
      obtain ⟨address, places, givenAddress⟩ | ⟨text, error, places, present, failed⟩ := placed
      · rw [places]
        exact .inl ⟨⟨image, steps, address⟩, rfl, rfl, givenSteps, givenAddress⟩
      · rw [places]
        refine .inr ⟨_, rfl, .address present failed, ?_⟩
        intro other fails
        cases fails with
        | missingImage absent => cases absent
        | stepCount present failed => exact absurd failed (givenSteps.not_error present)
        | _ => simp [Failure.rank]
    · rw [counts]
      refine .inr ⟨_, rfl, .stepCount present failed, ?_⟩
      intro other fails
      cases fails with
      | missingImage absent => cases absent
      | _ => simp [Failure.rank]

end Request
end SM83.TraceTool
