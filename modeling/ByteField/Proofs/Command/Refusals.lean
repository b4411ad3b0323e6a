import ByteField.Proofs.ByteComplaints
import ByteField.Proofs.Command.Endings
import ByteField.Proofs.ControlSequences

namespace ByteField.Command

/-!
# Reports give no orders to the terminal

Whatever the arguments are, what a run reports can be shown.  Text that is
repeated from the command line has been cleared of control sequences; text that
is quoted in a reason has its control characters in another form; and everything
else is wording, names and numerals.
-/

open Text (IsShowable)

/-! ## Reasons -/

/-- A complaint about a byte literal can be shown, whatever the literal is. -/
theorem isShowable_of_parse
    {text message : String}
    (refused : Text.ByteLiteral.parse text = .error message) :
    IsShowable message := by
  obtain ⟨fault, _, rfl⟩ := Text.ByteLiteral.parse_eq_error_iff_readUnsigned.mp refused
  intro character member
  exact Text.isShowable_of_visible
    (Text.ByteLiteral.isHidden_of_mem_complaint member)

theorem isShowable_of_readSampleCount
    {text reason : String}
    (refused : readSampleCount text = .error reason) :
    IsShowable reason := by
  unfold readSampleCount at refused
  cases read :
      Text.Numeral.readUnsigned 10 largestSampleCount text.toList with
  | ok number =>
      rw [read] at refused
      cases refused
  | error fault =>
      rw [read] at refused
      cases refused
      exact Text.isShowable_message fault

theorem isShowable_of_readExponent
    {text reason : String}
    (refused : readExponent text = .error reason) :
    IsShowable reason := by
  unfold readExponent at refused
  split at refused
  case h_1 fault _ =>
    cases refused
    exact Text.isShowable_message fault
  case h_2 number _ =>
    split at refused
    case isTrue =>
      cases refused
    case isFalse =>
      cases refused
      have middle : IsShowable " is not in 0..=" := by
        decide
      simp [middle]

/-! ## Refusals -/

@[simp] theorem Slot.isShowable_label
    (slot : Slot) :
    IsShowable slot.label := by
  cases slot <;> decide

/-- The reason that a refusal gives, if it gives one, can be shown. -/
def Refusal.HasShowableReason : Refusal → Prop
  | .invalidValue _ _ reason => IsShowable reason
  | _ => True

/-- What a message repeats is cleared of control sequences, and all the rest can be shown. -/
theorem Refusal.isShowable_message
    {refusal : Refusal}
    (showable : refusal.HasShowableReason) :
    IsShowable refusal.message := by
  unfold message
  cases refusal with
  | noArguments | missingCommand | missingOperands =>
      decide +kernel
  | unknownCommand name | unexpectedArgument name =>
      rw [Text.isShowable_append, Text.isShowable_append]
      exact ⟨⟨by decide, Text.isShowable_withoutControlSequences name⟩,
        by decide⟩
  | unexpectedHelpValue value =>
      rw [Text.isShowable_append, Text.isShowable_append]
      exact ⟨⟨by decide, Text.isShowable_withoutControlSequences value⟩,
        by decide⟩
  | missingValue slot | repeatedOption slot =>
      rw [Text.isShowable_append, Text.isShowable_append]
      exact ⟨⟨by decide, slot.isShowable_label⟩, by decide⟩
  | invalidValue slot text reason =>
      rw [Text.isShowable_append, Text.isShowable_append,
        Text.isShowable_append, Text.isShowable_append,
        Text.isShowable_append]
      exact ⟨⟨⟨⟨⟨by decide, Text.isShowable_withoutControlSequences text⟩,
        by decide⟩, slot.isShowable_label⟩, by decide⟩, showable⟩

/-! ## Where refusals come from -/

theorem Values.hasShowableReason_of_store
    {α : Type}
    {slot : Slot}
    {text : String}
    {occupant : Option α}
    {read : String → Except String α}
    {put : α → Values}
    {refusal : Refusal}
    (showable : ∀ {reason}, read text = .error reason → IsShowable reason)
    (refused : store slot text occupant read put = .error refusal) :
    refusal.HasShowableReason := by
  unfold store at refused
  split at refused
  case h_1 =>
    cases refused
    trivial
  case h_2 =>
    split at refused
    case h_1 =>
      cases refused
    case h_2 failed =>
      cases refused
      exact showable failed

/-- Every slot gives a reason that can be shown. -/
theorem Values.hasShowableReason_of_accept
    {values : Values}
    {text : String}
    {slot : Slot}
    {refusal : Refusal}
    (refused : values.accept text slot = .error refusal) :
    refusal.HasShowableReason := by
  cases slot with
  | polynomial | left | right =>
      exact hasShowableReason_of_store isShowable_of_parse refused
  | samples =>
      exact hasShowableReason_of_store isShowable_of_readSampleCount refused
  | exponent =>
      exact hasShowableReason_of_store isShowable_of_readExponent refused

namespace Reading

variable {reading : Reading} {argument : String} {refusal : Refusal}

theorem hasShowableReason_of_settle
    (refused : reading.settle = .error refusal) :
    refusal.HasShowableReason := by
  unfold settle at refused
  split at refused
  case h_1 =>
    cases refused
  case h_2 =>
    cases refused
    trivial
  case h_3 =>
    split at refused
    case h_1 =>
      cases refused
    case h_2 failed =>
      cases refused
      exact Values.hasShowableReason_of_accept failed

theorem hasShowableReason_superfluous
    (reading : Reading)
    (argument : String) :
    (reading.superfluous argument).HasShowableReason := by
  unfold superfluous
  split
  · trivial
  · split <;> trivial

theorem hasShowableReason_of_takePlain
    (refused : reading.takePlain argument = .error refusal) :
    refusal.HasShowableReason := by
  unfold takePlain at refused
  split at refused
  case h_1 =>
    cases refused
  case h_2 =>
    split at refused
    case h_1 =>
      split at refused
      case h_1 =>
        cases refused
      case h_2 failed =>
        cases refused
        exact hasShowableReason_of_settle failed
    case h_2 =>
      cases refused
      exact hasShowableReason_superfluous reading argument

theorem hasShowableReason_of_takeOption
    {slot : Slot}
    {value : Option String}
    (refused : reading.takeOption slot value = .error refusal) :
    refusal.HasShowableReason := by
  unfold takeOption at refused
  split at refused
  case h_1 failed =>
    cases refused
    exact hasShowableReason_of_settle failed
  case h_2 =>
    dsimp only at refused
    split at refused
    case h_1 =>
      exact hasShowableReason_of_settle refused
    case h_2 =>
      cases refused

theorem hasShowableReason_of_takeHelp
    (refused : reading.takeHelp = .error refusal) :
    refusal.HasShowableReason := by
  unfold takeHelp at refused
  split at refused
  case h_1 =>
    cases refused
  case h_2 failed =>
    cases refused
    exact hasShowableReason_of_settle failed

/-- What becomes of a reading afterwards does not change why it was refused. -/
theorem error_of_map_eq_error
    {First Second : Type}
    {read : Except Refusal First}
    {change : First → Second}
    (refused : read.map change = .error refusal) :
    read = .error refusal := by
  cases read with
  | error =>
      cases refused
      rfl
  | ok =>
      cases refused

theorem hasShowableReason_of_take
    (refused : reading.take argument = .error refusal) :
    refusal.HasShowableReason := by
  unfold take at refused
  split at refused
  case isTrue =>
    exact hasShowableReason_of_takePlain (error_of_map_eq_error refused)
  split at refused
  case h_1 =>
    cases refused
  case h_2 =>
    exact hasShowableReason_of_takePlain (error_of_map_eq_error refused)
  case h_3 =>
    split at refused
    case isTrue =>
      exact hasShowableReason_of_takeHelp refused
    case isFalse =>
      cases refused
      trivial
  case h_4 =>
    split at refused
    case isTrue =>
      split at refused
      case h_1 =>
        exact hasShowableReason_of_takeHelp refused
      case h_2 =>
        cases refused
        trivial
    case isFalse =>
      split at refused
      case h_1 =>
        exact hasShowableReason_of_takeOption (error_of_map_eq_error refused)
      case h_2 =>
        cases refused
        trivial

end Reading

namespace Request

variable {reading : Reading} {refusal : Refusal} {arguments : List String}

theorem hasShowableReason_of_readTrailing
    (refused : readTrailing reading arguments = .error refusal) :
    refusal.HasShowableReason := by
  induction arguments generalizing reading with
  | nil =>
      rw [readTrailing] at refused
      split at refused
      case h_1 failed =>
        cases refused
        exact Reading.hasShowableReason_of_settle failed
      case h_2 =>
        split at refused
        case isTrue =>
          cases refused
        case isFalse =>
          cases refused
          trivial
  | cons argument rest inductionHypothesis =>
      rw [readTrailing] at refused
      split at refused
      case h_1 failed =>
        cases refused
        exact Reading.hasShowableReason_of_take failed
      case h_2 =>
        cases refused
      case h_3 =>
        exact inductionHypothesis refused

theorem hasShowableReason_of_readCommand
    {verb : Verb}
    (refused : readCommand reading verb arguments = .error refusal) :
    refusal.HasShowableReason := by
  rw [readCommand] at refused
  split at refused
  case h_1 failed =>
    cases refused
    exact hasShowableReason_of_readTrailing failed
  case h_2 =>
    cases refused
  case h_3 =>
    split at refused
    case h_1 failed =>
      cases refused
      exact Reading.hasShowableReason_of_settle failed
    case h_2 =>
      have incomplete := Reading.error_of_map_eq_error refused
      unfold Invocation.ofValues at incomplete
      split at incomplete
      case h_1 =>
        cases incomplete
        trivial
      case h_2 =>
        cases incomplete

theorem hasShowableReason_of_readTopic
    (refused : readTopic arguments = .error refusal) :
    refusal.HasShowableReason := by
  unfold readTopic at refused
  split at refused
  case h_1 =>
    cases refused
  case h_2 | h_3 =>
    split at refused <;> cases refused <;> trivial

/-- An argument is refused itself, or the arguments behind it are. -/
theorem readLeading_cons_eq_error
    {argument : String}
    (refused : readLeading reading (argument :: arguments) = .error refusal) :
    reading.take argument = .error refusal ∨
      (∃ next, readLeading next arguments = .error refusal) ∨
      readTopic arguments = .error refusal ∨
      ∃ verb, readCommand reading verb arguments = .error refusal := by
  rw [readLeading] at refused
  grind

theorem hasShowableReason_of_readLeading
    (refused : readLeading reading arguments = .error refusal) :
    refusal.HasShowableReason := by
  induction arguments generalizing reading with
  | nil =>
      rw [readLeading] at refused
      split at refused
      case h_1 failed =>
        cases refused
        exact Reading.hasShowableReason_of_settle failed
      case h_2 =>
        split at refused <;> cases refused <;> trivial
  | cons argument rest inductionHypothesis =>
      rcases readLeading_cons_eq_error refused with
        failed | ⟨next, refusedBehind⟩ | noTopic | ⟨verb, refusedBehind⟩
      · exact Reading.hasShowableReason_of_take failed
      · exact inductionHypothesis refusedBehind
      · exact hasShowableReason_of_readTopic noTopic
      · exact hasShowableReason_of_readCommand refusedBehind

end Request

/-! ## What a run reports -/

/-- The reason for which a polynomial is unusable consists of wording and numerals. -/
theorem isShowable_unusablePolynomial
    {polynomial : Element}
    {cause : FieldError}
    (rejected : LogarithmTable.generate polynomial = .error cause) :
    IsShowable (unusablePolynomial polynomial cause) := by
  obtain ⟨_, _, _, _, rfl⟩ :=
    LogarithmTable.firstRepeated_of_generate rejected
  unfold unusablePolynomial FieldError.message
  simp only [Text.isShowable_append, Text.isShowable_decimal, and_true]
  decide

theorem isShowable_of_stopped
    {draw : Nat → Sample}
    {invocation : Invocation}
    {reason : String}
    (stopped : (perform draw invocation).result = .error reason) :
    IsShowable reason := by
  obtain ⟨task, polynomial⟩ := invocation
  cases task with
  | polynomials =>
      cases stopped
  | inField task =>
      cases generated : TabledField.generate polynomial with
      | error cause =>
          have rejected := TabledField.generate_eq_error_iff.mp generated
          rw [perform_of_rejected rejected] at stopped
          cases stopped
          exact isShowable_unusablePolynomial rejected
      | ok field =>
          rw [perform_of_generated generated] at stopped
          by_cases byZero : ∃ dividend, task = .divide dividend 0
          · obtain ⟨dividend, rfl⟩ := byZero
            rw [performIn_divide_zero] at stopped
            cases stopped
            decide
          · obtain ⟨text, done⟩ :=
              exists_performIn_eq_print
                (TabledField.tabulates_of_generate generated) draw
                (not_exists.mp byZero)
            rw [done] at stopped
            cases stopped

/-- Whatever the arguments are, a terminal takes nothing of what a run reports as an order. -/
theorem isShowable_errors
    (draw : Nat → Sample)
    (arguments : List String) :
    IsShowable (run draw arguments).errors := by
  have lineBreak : IsShowable "\n" := by
    decide
  unfold run
  split
  case h_1 refusal refused =>
    have showable :=
      Refusal.isShowable_message
        (Request.hasShowableReason_of_readLeading refused)
    exact Text.isShowable_append.mpr ⟨showable, lineBreak⟩
  case h_2 =>
    decide
  case h_3 invocation _ =>
    unfold Outcome.ofPrinting
    cases ended : (perform draw invocation).result with
    | ok done =>
        exact (by decide : IsShowable "")
    | error reason =>
        dsimp only
        rw [Text.isShowable_append, Text.isShowable_append]
        exact ⟨⟨by decide, isShowable_of_stopped ended⟩, lineBreak⟩

/-- The order to show what follows in red is left out of the report. -/
example :
    (run (Sample.sequence 0) ["\x1b[31mtable"]).errors =
      "error: unrecognized subcommand 'table'\n" := by
  decide +kernel

end ByteField.Command
