import ByteField.Proofs.Command.Results
import ByteField.Proofs.GuardedLookup

namespace ByteField.Command

/-!
# How a run ends

Unless it is asked for help, a run ends in one of three ways, and its exit code
says which: with results and no complaint, with no results and the reason why,
or with arguments that are refused.  Which of the first two it is depends on
the polynomial and on the divisor of a quotient, and on nothing else: a
comparison on samples always succeeds, and no lookup leaves its table.
-/

/-! ## Asking for help -/

/-- An argument that asks for help at some place: the word, or what begins like an option for it. -/
def AsksForHelp
    (argument : String) :
    Prop :=
  argument = "help" ∨
    "-h".toList <+: argument.toList ∨
    "--help".toList <+: argument.toList

instance : DecidablePred AsksForHelp :=
  fun _ => inferInstanceAs (Decidable (_ ∨ _ ∨ _))

namespace Shape

/-- A cluster of letters begins behind one dash. -/
theorem isPrefix_of_short
    {argument : String}
    {first : Char}
    (shape : of argument = .short first) :
    ['-', first] <+: argument.toList := by
  unfold of at shape
  split at shape
  case h_1 =>
    cases shape
  case h_2 =>
    cases shape
  case h_3 letter rest _ _ spelled =>
    cases shape
    rw [spelled]
    exact List.prefix_append ['-', first] rest
  case h_4 =>
    cases shape

theorem splitValue_fst
    (characters : List Char) :
    (splitValue characters).1 =
      String.ofList (characters.takeWhile (· != '=')) := by
  unfold splitValue
  dsimp only
  split <;> rfl

/-- The name of an option stands behind two dashes. -/
theorem isPrefix_of_long
    {argument name : String}
    {value : Option String}
    (shape : of argument = .long name value) :
    '-' :: '-' :: name.toList <+: argument.toList := by
  unfold of at shape
  split at shape
  case h_1 =>
    cases shape
  case h_2 characters _ spelled =>
    have named : (splitValue characters).1 = name := by
      cases shape
      rfl
    rw [spelled, ← named, splitValue_fst, String.toList_ofList]
    simpa using List.takeWhile_prefix (· != '=')
  case h_3 =>
    cases shape
  case h_4 =>
    cases shape

end Shape

/-- Reading stops for help only at an argument that asks for it. -/
theorem Reading.asksForHelp_of_take
    {reading : Reading}
    {argument : String}
    (stopped : reading.take argument = .ok .help) :
    AsksForHelp argument := by
  have goesOn
      (read : Except Refusal Reading) :
      read.map Progress.further ≠ .ok .help := by
    cases read <;> simp [Except.map]
  unfold take at stopped
  split at stopped
  case isTrue =>
    exact (goesOn _ stopped).elim
  split at stopped
  case h_1 =>
    cases stopped
  case h_2 =>
    exact (goesOn _ stopped).elim
  case h_3 first short =>
    split at stopped
    case isTrue isHelp =>
      rw [isHelp] at short
      exact Or.inr (Or.inl (Shape.isPrefix_of_short short))
    case isFalse =>
      cases stopped
  case h_4 name value long =>
    split at stopped
    case isTrue isHelp =>
      rw [isHelp] at long
      exact Or.inr (Or.inr (Shape.isPrefix_of_long long))
    case isFalse =>
      split at stopped
      case h_1 =>
        exact (goesOn _ stopped).elim
      case h_2 =>
        cases stopped

namespace Request

/-- Behind a command, help is asked for by one of the arguments. -/
theorem exists_asksForHelp_of_readTrailing
    {reading : Reading}
    {arguments : List String}
    (asked : readTrailing reading arguments = .ok none) :
    ∃ argument ∈ arguments, AsksForHelp argument := by
  induction arguments generalizing reading with
  | nil =>
      rw [readTrailing] at asked
      split at asked
      case h_1 =>
        cases asked
      case h_2 =>
        split at asked <;> cases asked
  | cons argument rest inductionHypothesis =>
      rw [readTrailing] at asked
      rw [List.exists_mem_cons_iff]
      split at asked
      case h_1 =>
        cases asked
      case h_2 stopped =>
        exact Or.inl (Reading.asksForHelp_of_take stopped)
      case h_3 =>
        exact Or.inr (inductionHypothesis asked)

/-- At a command, help is asked for by one of its own arguments. -/
theorem exists_asksForHelp_of_readCommand
    {leading : Reading}
    {verb : Verb}
    {arguments : List String}
    (asked : readCommand leading verb arguments = .ok .help) :
    ∃ argument ∈ arguments, AsksForHelp argument := by
  rw [readCommand] at asked
  split at asked
  case h_1 =>
    cases asked
  case h_2 trailing =>
    exact exists_asksForHelp_of_readTrailing trailing
  case h_3 trailing _ =>
    split at asked
    case h_1 =>
      cases asked
    case h_2 settled _ =>
      cases added : Invocation.ofValues verb settled.values trailing with
      | error refusal =>
          rw [added] at asked
          cases asked
      | ok invocation =>
          rw [added] at asked
          cases asked

/-- Before a command, help is asked for at the present argument or behind it. -/
theorem readLeading_cons_eq_help
    {reading : Reading}
    {argument : String}
    {rest : List String}
    (asked : readLeading reading (argument :: rest) = .ok .help) :
    argument = "help" ∨
      reading.take argument = .ok .help ∨
      (∃ next, readLeading next rest = .ok .help) ∨
      ∃ verb, readCommand reading verb rest = .ok .help := by
  rw [readLeading] at asked
  grind

/-- Wherever the arguments are read from, help is asked for by one of them. -/
theorem exists_asksForHelp_of_readLeading
    {reading : Reading}
    {arguments : List String}
    (asked : readLeading reading arguments = .ok .help) :
    ∃ argument ∈ arguments, AsksForHelp argument := by
  induction arguments generalizing reading with
  | nil =>
      rw [readLeading] at asked
      split at asked
      case h_1 =>
        cases asked
      case h_2 =>
        split at asked <;> cases asked
  | cons argument rest inductionHypothesis =>
      rw [List.exists_mem_cons_iff]
      rcases readLeading_cons_eq_help asked with
        isHelp | stopped | ⟨next, askedBehind⟩ | ⟨verb, askedBehind⟩
      · exact Or.inl (Or.inl isHelp)
      · exact Or.inl (Reading.asksForHelp_of_take stopped)
      · exact Or.inr (inductionHypothesis askedBehind)
      · exact Or.inr (exists_asksForHelp_of_readCommand askedBehind)

/-- Arguments none of which asks for help are refused or ask for something to be done. -/
theorem ofArguments_cases
    {arguments : List String}
    (noHelp : ∀ argument ∈ arguments, ¬ AsksForHelp argument) :
    (∃ refusal, ofArguments arguments = .error refusal) ∨
      ∃ invocation, ofArguments arguments = .ok (.perform invocation) := by
  cases request : ofArguments arguments with
  | error refusal =>
      exact Or.inl ⟨refusal, rfl⟩
  | ok asked =>
      cases asked with
      | help =>
          obtain ⟨argument, among, asks⟩ :=
            exists_asksForHelp_of_readLeading request
          exact (noHelp argument among asks).elim
      | perform invocation =>
          exact Or.inr ⟨invocation, rfl⟩

end Request

/-! ## Runs under guard -/

namespace Guarded

/-- Do a task in a field with every lookup under guard; the tables are printed slot by slot. -/
def performIn
    (field : TabledField)
    (draw : Nat → Sample) :
    FieldTask → Except OutOfBounds (Printing Unit)
  | .tables =>
      return printTables field
  | .multiply left right => do
      let product ← Guarded.multiply field left right
      return printElement product
  | .divide dividend divisor => do
      let divided ← Guarded.divide field dividend divisor
      return .orStop FieldError.message divided >>= printElement
  | .power base exponent => do
      let power ← Guarded.power field base exponent
      return printElement power
  | .check samples => do
      let verdict ← Guarded.check field draw samples
      return report verdict

theorem performIn_eq
    {field : TabledField}
    {polynomial : Element}
    (tabulates : field.Tabulates polynomial)
    (draw : Nat → Sample)
    (task : FieldTask) :
    performIn field draw task = .ok (Command.performIn field draw task) := by
  cases task with
  | tables =>
      rfl
  | multiply left right =>
      rw [performIn, Guarded.multiply_eq tabulates]
      rfl
  | divide dividend divisor =>
      rw [performIn, Guarded.divide_eq tabulates]
      rfl
  | power base exponent =>
      rw [performIn, Guarded.power_eq tabulates]
      rfl
  | check samples =>
      rw [performIn, Guarded.check_eq tabulates]
      rfl

/-- Carry out an invocation with all tables built and read under guard. -/
def perform
    (draw : Nat → Sample)
    (invocation : Invocation) :
    Except OutOfBounds (Printing Unit) := do
  match invocation.task with
  | .polynomials =>
      let accepted ← Guarded.accepted allElements
      return .printLine
        (", ".intercalate
          (accepted.map fun polynomial => Text.decimal polynomial.toNat))
  | .inField task =>
      match ← Guarded.field invocation.polynomial with
      | .ok field => performIn field draw task
      | .error cause =>
          return .stop (unusablePolynomial invocation.polynomial cause)

theorem perform_eq
    (draw : Nat → Sample)
    (invocation : Invocation) :
    perform draw invocation = .ok (Command.perform draw invocation) := by
  obtain ⟨task, polynomial⟩ := invocation
  cases task with
  | polynomials =>
      unfold perform
      simp only [Guarded.accepted_eq, Guarded.ok_bind]
      rfl
  | inField task =>
      unfold perform Command.perform
      simp only [Guarded.field_eq, Guarded.ok_bind]
      cases generated : TabledField.generate polynomial with
      | error cause =>
          rfl
      | ok field =>
          rw [Printing.orStop_ok, pure_bind]
          exact performIn_eq (TabledField.tabulates_of_generate generated)
            draw task

/-- A whole run with all tables built and read under guard. -/
def run
    (draw : Nat → Sample)
    (arguments : List String) :
    Except OutOfBounds Outcome :=
  match Request.ofArguments arguments with
  | .error refusal => .ok (.refused refusal)
  | .ok .help => .ok .helped
  | .ok (.perform invocation) =>
      (perform draw invocation).map Outcome.ofPrinting

/-- No run leaves a table, whatever its arguments. -/
theorem run_eq
    (draw : Nat → Sample)
    (arguments : List String) :
    run draw arguments = .ok (Command.run draw arguments) := by
  unfold run Command.run
  cases Request.ofArguments arguments with
  | error refusal =>
      rfl
  | ok request =>
      cases request with
      | help =>
          rfl
      | perform invocation =>
          exact congrArg (Except.map Outcome.ofPrinting)
            (perform_eq draw invocation)

end Guarded

/-! ## The three endings -/

/-- A way for a run to end. -/
inductive Ending where
  | success
  | failure
  | refusal
  deriving Repr, DecidableEq

/-- The exit code of a run that ends in a way. -/
def Ending.code : Ending → Nat
  | .success => 0
  | .failure => 1
  | .refusal => 2

/-- The exit code tells the endings apart. -/
theorem Ending.code_injective :
    Function.Injective Ending.code := by
  intro first second
  cases first <;> cases second <;> decide

/-- What a run that ends in a way leaves behind: never results together with a complaint. -/
def Outcome.EndsAs
    (outcome : Outcome)
    (ending : Ending) :
    Prop :=
  outcome.code = ending.code ∧
    match ending with
    | .success => outcome.errors = ""
    | .failure =>
        outcome.output = "" ∧ "Error: ".toList <+: outcome.errors.toList
    | .refusal => outcome.output = ""

/-- An invocation fails under a polynomial without a field, and where it divides by zero. -/
def Invocation.Fails
    (invocation : Invocation) :
    Prop :=
  ∃ task,
    invocation.task = .inField task ∧
      ((∃ cause,
          LogarithmTable.generate invocation.polynomial = .error cause) ∨
        ∃ dividend, task = .divide dividend 0)

/-- What the arguments ask for if their run is to end in a way. -/
def Ending.IsAskedBy
    (arguments : List String) :
    Ending → Prop
  | .success =>
      ∃ invocation,
        Request.ofArguments arguments = .ok (.perform invocation) ∧
          ¬ invocation.Fails
  | .failure =>
      ∃ invocation,
        Request.ofArguments arguments = .ok (.perform invocation) ∧
          invocation.Fails
  | .refusal =>
      ∃ refusal, Request.ofArguments arguments = .error refusal

/-- The same arguments do not ask for different endings. -/
theorem Ending.IsAskedBy.unique
    {arguments : List String}
    {first second : Ending}
    (askedFirst : first.IsAskedBy arguments)
    (askedSecond : second.IsAskedBy arguments) :
    first = second := by
  unfold IsAskedBy at askedFirst askedSecond
  cases request : Request.ofArguments arguments with
  | error refusal =>
      cases first <;> cases second <;> simp_all
  | ok asked =>
      cases first <;> cases second <;> grind

namespace Outcome

theorem endsAs_print
    (text : String) :
    (ofPrinting (.print text)).EndsAs .success :=
  ⟨rfl, rfl⟩

/-- A task that stops before it prints anything ends as a failure. -/
theorem endsAs_stop
    (reason : String) :
    (ofPrinting (.stop reason)).EndsAs .failure := by
  refine ⟨rfl, rfl, ?_⟩
  change "Error: ".toList <+: ("Error: " ++ reason ++ "\n").toList
  simp

theorem endsAs_refusal
    (refusal : Refusal) :
    (refused refusal).EndsAs .refusal :=
  ⟨rfl, rfl⟩

end Outcome

section Field

variable {field : TabledField} {polynomial : Element}

/-- A quotient by zero stops before anything is printed. -/
theorem performIn_divide_zero
    (field : TabledField)
    (draw : Nat → Sample)
    (dividend : Element) :
    performIn field draw (.divide dividend 0) =
      .stop "invalid argument: divisor is zero" :=
  rfl

/-- The tables are printed without a stop between them. -/
theorem printTables_eq
    (field : TabledField) :
    printTables field =
      .print
        ("log:\n" ++
          (Text.rows (field.logarithms.logarithms.map logarithmCell) ++
            ("exp:\n" ++
              Text.rows
                (field.powers.powers.map fun power =>
                  Text.decimal power.toNat)))) := by
  simp only [printTables, Printing.printRows_eq, Printing.printLine,
    Printing.print_bind_print]
  rfl

/-- Every other task is done, on however many samples a comparison is made. -/
theorem exists_performIn_eq_print
    (tabulates : field.Tabulates polynomial)
    (draw : Nat → Sample)
    {task : FieldTask}
    (notByZero : ∀ dividend, task ≠ .divide dividend 0) :
    ∃ text, performIn field draw task = .print text := by
  cases task with
  | tables =>
      exact ⟨_, printTables_eq field⟩
  | multiply left right =>
      exact ⟨_, rfl⟩
  | divide dividend divisor =>
      have nonzero : divisor ≠ 0 := by
        rintro rfl
        exact notByZero dividend rfl
      obtain ⟨quotient, divided, _⟩ :=
        exists_quotient tabulates dividend nonzero
      rw [performIn, divided, Printing.orStop_ok, pure_bind]
      exact ⟨_, rfl⟩
  | power base exponent =>
      exact ⟨_, rfl⟩
  | check samples =>
      have own : field.Tabulates field.polynomial := by
        rw [tabulates.polynomial_eq]
        exact tabulates
      rw [performIn, Agreement.check_eq_agree own]
      exact ⟨_, rfl⟩

end Field

/-- A task under a polynomial without a field stops for this reason, whatever the task. -/
theorem perform_of_rejected
    {polynomial : Element}
    {cause : FieldError}
    (rejected : LogarithmTable.generate polynomial = .error cause)
    (draw : Nat → Sample)
    (task : FieldTask) :
    perform draw ⟨.inField task, polynomial⟩ =
      .stop (unusablePolynomial polynomial cause) := by
  simp only [perform, TabledField.generate_eq_error_iff.mpr rejected,
    Printing.orStop_error, Printing.stop_bind]

/-- An invocation ends as a failure if it fails, and as a success otherwise. -/
theorem perform_endsAs
    (draw : Nat → Sample)
    (invocation : Invocation) :
    (invocation.Fails ∧
        (Outcome.ofPrinting (perform draw invocation)).EndsAs .failure) ∨
      (¬ invocation.Fails ∧
        (Outcome.ofPrinting (perform draw invocation)).EndsAs .success) := by
  obtain ⟨task, polynomial⟩ := invocation
  cases task with
  | polynomials =>
      refine Or.inr ⟨?_, Outcome.endsAs_print _⟩
      rintro ⟨task, isInField, _⟩
      cases isInField
  | inField task =>
      cases generated : TabledField.generate polynomial with
      | error cause =>
          have rejected := TabledField.generate_eq_error_iff.mp generated
          rw [perform_of_rejected rejected]
          exact Or.inl ⟨⟨task, rfl, Or.inl ⟨cause, rejected⟩⟩,
            Outcome.endsAs_stop _⟩
      | ok field =>
          rw [perform_of_generated generated]
          by_cases byZero : ∃ dividend, task = .divide dividend 0
          · obtain ⟨dividend, rfl⟩ := byZero
            exact Or.inl ⟨⟨_, rfl, Or.inr ⟨dividend, rfl⟩⟩,
              Outcome.endsAs_stop _⟩
          · obtain ⟨text, done⟩ :=
              exists_performIn_eq_print
                (TabledField.tabulates_of_generate generated) draw
                (not_exists.mp byZero)
            rw [done]
            refine Or.inr ⟨?_, Outcome.endsAs_print text⟩
            rintro ⟨sameTask, ⟨⟩, ⟨cause, rejected⟩ | divides⟩
            · have refused := TabledField.generate_eq_error_iff.mpr rejected
              rw [generated] at refused
              cases refused
            · exact byZero divides

/-- A run ends in the way that its arguments ask for. -/
theorem exists_endsAs
    (draw : Nat → Sample)
    {arguments : List String}
    (noHelp : ∀ argument ∈ arguments, ¬ AsksForHelp argument) :
    ∃ ending : Ending,
      ending.IsAskedBy arguments ∧ (run draw arguments).EndsAs ending := by
  rcases Request.ofArguments_cases noHelp with
    ⟨refusal, refused⟩ | ⟨invocation, asked⟩
  · have ends := Outcome.endsAs_refusal refusal
    refine ⟨.refusal, ⟨refusal, refused⟩, ?_⟩
    rw [run, refused]
    exact ends
  · have ran :
        run draw arguments = .ofPrinting (perform draw invocation) := by
      rw [run, asked]
    rw [ran]
    rcases perform_endsAs draw invocation with ⟨fails, ends⟩ | ⟨works, ends⟩
    · exact ⟨.failure, ⟨invocation, asked, fails⟩, ends⟩
    · exact ⟨.success, ⟨invocation, asked, works⟩, ends⟩

/-- The exit code is that of the ending which the arguments ask for. -/
theorem code_eq_iff
    (draw : Nat → Sample)
    {arguments : List String}
    (noHelp : ∀ argument ∈ arguments, ¬ AsksForHelp argument)
    (ending : Ending) :
    (run draw arguments).code = ending.code ↔ ending.IsAskedBy arguments := by
  obtain ⟨actual, asked, ends⟩ := exists_endsAs draw noHelp
  constructor
  · intro sameCode
    have same : actual = ending :=
      Ending.code_injective (ends.1.symm.trans sameCode)
    rw [← same]
    exact asked
  · intro alsoAsked
    rw [← asked.unique alsoAsked]
    exact ends.1

/--
Without a question for help, no lookup of a run leaves its table, and the run
ends in exactly one of three ways, each with its exit code: as a success with
nothing but results, as a failure with nothing but a reason, or with arguments
refused and no results.  It fails exactly if it is asked for a task under a
polynomial without logarithms or for a quotient by zero.  Under a polynomial
with a field, the reason is the zero divisor, and everything but a quotient
succeeds, whatever the operands, the exponent and the number of samples.
-/
theorem run_ends_in_one_way
    (draw : Nat → Sample)
    {arguments : List String}
    (noHelp : ∀ argument ∈ arguments, ¬ AsksForHelp argument) :
    Guarded.run draw arguments = .ok (run draw arguments) ∧
      (∃! ending, (run draw arguments).EndsAs ending) ∧
      ((run draw arguments).code = 0 ↔
        ∃ invocation,
          Request.ofArguments arguments = .ok (.perform invocation) ∧
            ¬ invocation.Fails) ∧
      ((run draw arguments).code = 1 ↔
        ∃ invocation,
          Request.ofArguments arguments = .ok (.perform invocation) ∧
            invocation.Fails) ∧
      ((run draw arguments).code = 2 ↔
        ∃ refusal, Request.ofArguments arguments = .error refusal) ∧
      ∀ {polynomial : Element} {field : TabledField} {task : FieldTask},
        TabledField.generate polynomial = .ok field →
          Request.ofArguments arguments =
              .ok (.perform ⟨.inField task, polynomial⟩) →
            ((∃ dividend, task = .divide dividend 0) →
              (run draw arguments).errors =
                "Error: invalid argument: divisor is zero\n") ∧
            ((∀ dividend divisor, task ≠ .divide dividend divisor) →
              (run draw arguments).code = 0) := by
  refine ⟨Guarded.run_eq draw arguments, ?ending,
    code_eq_iff draw noHelp .success, code_eq_iff draw noHelp .failure,
    code_eq_iff draw noHelp .refusal, ?inField⟩
  case ending =>
    obtain ⟨ending, _, ends⟩ := exists_endsAs draw noHelp
    refine ⟨ending, ends, ?_⟩
    intro other alsoEnds
    exact Ending.code_injective (alsoEnds.1.symm.trans ends.1)
  case inField =>
    intro polynomial field task generated request
    rw [run_of_request generated draw request]
    constructor
    · rintro ⟨dividend, rfl⟩
      rw [performIn_divide_zero]
      rfl
    · intro noQuotient
      obtain ⟨text, done⟩ :=
        exists_performIn_eq_print
          (TabledField.tabulates_of_generate generated) draw
          fun dividend => noQuotient dividend 0
      rw [done]
      rfl

/--
Under the default polynomial nine divided by zero fails for its divisor, a
comparison on many samples succeeds, and three operands are refused.
-/
theorem run_ends_in_one_way_standard :
    let draw := Sample.sequence 0
    let byZero := ["div", "9", "0"]
    let compares := ["check", "--samples", "1000000"]
    let tooMany := ["mul", "9", "7", "3"]
    ((∀ argument ∈ byZero, ¬ AsksForHelp argument) ∧
        (run draw byZero).code = 1 ∧
        (run draw byZero).errors =
          "Error: invalid argument: divisor is zero\n") ∧
      ((∀ argument ∈ compares, ¬ AsksForHelp argument) ∧
        (run draw compares).code = 0) ∧
      (∀ argument ∈ tooMany, ¬ AsksForHelp argument) ∧
        (run draw tooMany).code = 2 := by
  intro draw byZero compares tooMany
  have generated := Standard.generate_defaultPolynomial
  refine ⟨?byZero, ?compares, ?tooMany⟩
  case byZero =>
    have noHelp : ∀ argument ∈ byZero, ¬ AsksForHelp argument := by
      decide
    have divides :
        Request.ofArguments byZero =
          .ok (.perform ⟨.inField (.divide 9 0), defaultPolynomial⟩) :=
      rfl
    obtain ⟨_, _, _, fails, _, inField⟩ := run_ends_in_one_way draw noHelp
    exact ⟨noHelp, fails.mpr ⟨_, divides, _, rfl, Or.inr ⟨9, rfl⟩⟩,
      (inField generated divides).1 ⟨9, rfl⟩⟩
  case compares =>
    have noHelp : ∀ argument ∈ compares, ¬ AsksForHelp argument := by
      decide
    have samples :
        Request.ofArguments compares =
          .ok (.perform ⟨.inField (.check 1000000), defaultPolynomial⟩) :=
      rfl
    obtain ⟨_, _, _, _, _, inField⟩ := run_ends_in_one_way draw noHelp
    exact ⟨noHelp, (inField generated samples).2 (by simp)⟩
  case tooMany =>
    have noHelp : ∀ argument ∈ tooMany, ¬ AsksForHelp argument := by
      decide
    have refused :
        Request.ofArguments tooMany = .error (.unexpectedArgument "3") :=
      rfl
    obtain ⟨_, _, _, _, refuses, _⟩ := run_ends_in_one_way draw noHelp
    exact ⟨noHelp, refuses.mpr ⟨_, refused⟩⟩

end ByteField.Command
