import ByteField.Proofs.Numerals
import Mathlib.Order.Bounds.Basic

namespace ByteField.Text.Numeral

/-!
# Where a numeral goes wrong

Digits are at fault at a place whose character is no digit, or up to which their
value is past the bound.  Reading stops at the first such place and tells the
two cases apart: what stands before it has been read, so it is all digits with a
value within the bound.
-/

/-- A place whose character is no digit, or up to which the value of the digits is past the bound. -/
def FaultyAt
    (radix bound : Nat)
    (characters : List Char)
    (place : Nat) :
    Prop :=
  ∃ character,
    characters[place]? = some character ∧
      ((∀ worth, ¬ IsDigit radix character worth) ∨
        ∃ number,
          WritesDigits radix (characters.take (place + 1)) number ∧
            bound < number)

/-- What is left of a text without the one plus sign that may be in front. -/
def withoutPlus : List Char → List Char
  | '+' :: rest => rest
  | text => text

/-- A character without a value is none of the digits. -/
theorem digitValue?_eq_none_iff
    {radix : Nat}
    (radixSmall : radix ≤ 16)
    {character : Char} :
    digitValue? radix character = none ↔
      ∀ worth, ¬ IsDigit radix character worth := by
  rw [Option.eq_none_iff_forall_ne_some]
  exact forall_congr' fun worth =>
    not_congr (digitValue?_eq_some_iff radixSmall)

/-! ## Reading up to the first fault -/

/--
Reading that fails has read all before one character with success, and fails
there for want of a digit or for a value past the bound.
-/
theorem exists_fault_of_readDigits
    {radix bound value : Nat}
    {pastBound fault : NumeralFault}
    {characters : List Char}
    (failed : readDigits radix bound pastBound value characters = .error fault) :
    ∃ before character behind reached,
      characters = before ++ character :: behind ∧
        readDigits radix bound pastBound value before = .ok reached ∧
        ((digitValue? radix character = none ∧ fault = .invalidDigit) ∨
          ∃ worth,
            digitValue? radix character = some worth ∧
              bound < reached * radix + worth ∧
              fault = pastBound) := by
  induction characters generalizing value with
  | nil =>
      cases failed
  | cons head rest inductionHypothesis =>
      rw [readDigits] at failed
      cases digit : digitValue? radix head with
      | none =>
          rw [digit] at failed
          cases failed
          exact ⟨[], head, rest, value, rfl, rfl, Or.inl ⟨digit, rfl⟩⟩
      | some worth =>
          simp only [digit] at failed
          by_cases past : bound < value * radix + worth
          · rw [if_pos past] at failed
            cases failed
            exact ⟨[], head, rest, value, rfl, rfl,
              Or.inr ⟨worth, digit, past, rfl⟩⟩
          · rw [if_neg past] at failed
            obtain ⟨before, character, behind, reached, rfl, read, atFault⟩ :=
              inductionHypothesis failed
            refine ⟨head :: before, character, behind, reached, rfl, ?_, atFault⟩
            rw [readDigits, digit]
            simp only [if_neg past]
            exact read

/-- Digits are read as the first of them are, and then the others behind their value. -/
theorem readDigits_append
    {radix bound value : Nat}
    {pastBound : NumeralFault}
    {before behind : List Char} :
    readDigits radix bound pastBound value (before ++ behind) =
      (readDigits radix bound pastBound value before).bind fun reached =>
        readDigits radix bound pastBound reached behind := by
  induction before generalizing value with
  | nil =>
      rfl
  | cons character rest inductionHypothesis =>
      rw [List.cons_append, readDigits, readDigits]
      cases digitValue? radix character with
      | none =>
          rfl
      | some worth =>
          by_cases past : bound < value * radix + worth
          · simp only [if_pos past]
            rfl
          · simp only [if_neg past]
            exact inductionHypothesis

/-- What is read in front of other digits is read alone. -/
theorem exists_readDigits_of_append
    {radix bound value result : Nat}
    {pastBound : NumeralFault}
    {before behind : List Char}
    (read :
      readDigits radix bound pastBound value (before ++ behind) = .ok result) :
    ∃ reached, readDigits radix bound pastBound value before = .ok reached := by
  rw [readDigits_append] at read
  cases alone : readDigits radix bound pastBound value before with
  | ok reached =>
      exact ⟨reached, rfl⟩
  | error fault =>
      rw [alone] at read
      cases read

/-- Digits have one number as their value. -/
theorem WritesDigits.unique
    {radix number other : Nat}
    (radixSmall : radix ≤ 16)
    {digits : List Char}
    (writesNumber : WritesDigits radix digits number)
    (writesOther : WritesDigits radix digits other) :
    number = other := by
  have readNumber :
      readDigits radix (max number other) .tooLarge 0 digits = .ok number :=
    (readDigits_zero_eq_ok_iff radixSmall writesNumber.1).mpr
      ⟨writesNumber, Nat.le_max_left number other⟩
  have readOther :
      readDigits radix (max number other) .tooLarge 0 digits = .ok other :=
    (readDigits_zero_eq_ok_iff radixSmall writesOther.1).mpr
      ⟨writesOther, Nat.le_max_right number other⟩
  exact Except.ok.inj (readNumber.symm.trans readOther)

/-! ## The first fault -/

/-- No place among digits that have been read is at fault. -/
theorem not_faultyAt_of_readDigits
    {radix bound reached place : Nat}
    (radixSmall : radix ≤ 16)
    {pastBound : NumeralFault}
    {before : List Char}
    (read : readDigits radix bound pastBound 0 before = .ok reached)
    (inside : place < before.length)
    (behind : List Char) :
    ¬ FaultyAt radix bound (before ++ behind) place := by
  rintro ⟨character, isThere, noDigit | ⟨number, written, past⟩⟩
  -- A character that has been read is a digit.
  · obtain ⟨worths, areDigits, _⟩ :=
      (readDigits_eq_ok_iff radixSmall (Nat.zero_le bound)).mp read
    have worthInside : place < worths.length :=
      areDigits.length_eq ▸ inside
    rw [List.getElem?_append_left inside, List.getElem?_eq_some_iff] at isThere
    obtain ⟨_, rfl⟩ := isThere
    exact noDigit _ (areDigits.get inside worthInside)
  -- The digits up to the place have been read as well, so their value is within the bound.
  · rw [List.take_append_of_le_length (Nat.succ_le_of_lt inside)] at written
    rw [← List.take_append_drop (place + 1) before] at read
    obtain ⟨value, readFront⟩ := exists_readDigits_of_append read
    obtain ⟨writtenValue, within⟩ :=
      (readDigits_zero_eq_ok_iff radixSmall written.1).mp readFront
    rw [written.unique radixSmall writtenValue] at past
    exact Nat.not_lt_of_le within past

/-- A digit behind digits that have been read counts last in their value. -/
theorem writesDigits_of_readDigits
    {radix bound reached worth : Nat}
    (radixSmall : radix ≤ 16)
    {pastBound : NumeralFault}
    {before : List Char}
    {character : Char}
    (read : readDigits radix bound pastBound 0 before = .ok reached)
    (digit : IsDigit radix character worth) :
    WritesDigits radix (before ++ [character]) (reached * radix + worth) := by
  cases before with
  | nil =>
      cases read
      exact ⟨List.cons_ne_nil _ _, [worth], .cons digit .nil, by simp⟩
  | cons head rest =>
      have written :=
        (readDigits_zero_eq_ok_iff radixSmall (List.cons_ne_nil head rest)).mp read
      exact written.1.append_digit digit

/-- Reading fails at the first place at fault, and for what is wrong there. -/
theorem exists_isLeast_faultyAt
    {radix bound : Nat}
    (radixSmall : radix ≤ 16)
    {pastBound fault : NumeralFault}
    {characters : List Char}
    (failed : readDigits radix bound pastBound 0 characters = .error fault) :
    ∃ place character,
      IsLeast {place | FaultyAt radix bound characters place} place ∧
        characters[place]? = some character ∧
        (((∀ worth, ¬ IsDigit radix character worth) ∧ fault = .invalidDigit) ∨
          ((∃ worth, IsDigit radix character worth) ∧ fault = pastBound)) := by
  obtain ⟨before, character, behind, reached, rfl, read, atFault⟩ :=
    exists_fault_of_readDigits failed
  have isThere :
      (before ++ character :: behind)[before.length]? = some character := by
    simp
  have upToHere :
      (before ++ character :: behind).take (before.length + 1) =
        before ++ [character] := by
    rw [List.take_length_add_append]
    rfl
  have noneEarlier :
      before.length ∈
        lowerBounds {place |
          FaultyAt radix bound (before ++ character :: behind) place} := by
    intro place faulty
    refine Nat.le_of_not_lt fun inside => ?_
    exact not_faultyAt_of_readDigits radixSmall read inside _ faulty
  rcases atFault with ⟨noValue, isInvalid⟩ | ⟨worth, value, past, isPast⟩
  · have noDigit := (digitValue?_eq_none_iff radixSmall).mp noValue
    exact ⟨before.length, character,
      ⟨⟨character, isThere, Or.inl noDigit⟩, noneEarlier⟩, isThere,
      Or.inl ⟨noDigit, isInvalid⟩⟩
  · have digit := (digitValue?_eq_some_iff radixSmall).mp value
    have written := writesDigits_of_readDigits radixSmall read digit
    rw [← upToHere] at written
    exact ⟨before.length, character,
      ⟨⟨character, isThere, Or.inr ⟨_, written, past⟩⟩, noneEarlier⟩, isThere,
      Or.inr ⟨⟨worth, digit⟩, isPast⟩⟩

/-! ## Reasons -/

/--
A reason explains why a text is no numeral within a bound: nothing is there, only
a plus sign is there, or else the first place at fault behind the sign has no
digit or one past the bound.
-/
structure Explains
    (radix bound : Nat)
    (text : List Char)
    (reason : String) :
    Prop where
  empty_iff :
    reason = "cannot parse integer from empty string" ↔ text = []
  loneSign :
    text = ['+'] → reason = "invalid digit found in string"
  firstFault :
    text ≠ [] →
      text ≠ ['+'] →
        ∃ place character,
          IsLeast {place | FaultyAt radix bound (withoutPlus text) place} place ∧
            (withoutPlus text)[place]? = some character ∧
            ((∀ worth, ¬ IsDigit radix character worth) →
              reason = "invalid digit found in string") ∧
            ((∃ worth, IsDigit radix character worth) →
              reason = "number too large to fit in target type")

/-- A text has at most one explanation. -/
theorem Explains.unique
    {radix bound : Nat}
    {text : List Char}
    {reason other : String}
    (explains : Explains radix bound text reason)
    (otherExplains : Explains radix bound text other) :
    reason = other := by
  by_cases empty : text = []
  · rw [explains.empty_iff.mpr empty, otherExplains.empty_iff.mpr empty]
  by_cases lone : text = ['+']
  · rw [explains.loneSign lone, otherExplains.loneSign lone]
  obtain ⟨place, character, least, isThere, ifNoDigit, ifDigit⟩ :=
    explains.firstFault empty lone
  obtain ⟨otherPlace, otherCharacter, otherLeast, isThereToo, otherIfNoDigit,
      otherIfDigit⟩ :=
    otherExplains.firstFault empty lone
  rw [otherLeast.unique least, isThere] at isThereToo
  cases isThereToo
  by_cases digit : ∃ worth, IsDigit radix character worth
  · rw [ifDigit digit, otherIfDigit digit]
  · have noDigit := not_exists.mp digit
    rw [ifNoDigit noDigit, otherIfNoDigit noDigit]

/-- Behind the sign a numeral is read as its digits are. -/
theorem readUnsigned_eq_readDigits
    (radix bound : Nat)
    {text : List Char}
    (notEmpty : text ≠ [])
    (notLone : text ≠ ['+']) :
    readUnsigned radix bound text =
      readDigits radix bound .tooLarge 0 (withoutPlus text) := by
  unfold readUnsigned withoutPlus
  split
  case h_1 =>
    exact (notEmpty rfl).elim
  case h_2 =>
    exact (notLone rfl).elim
  case h_3 =>
    rfl
  case h_4 _ _ notPlus =>
    split
    case h_1 rest _ _ =>
      exact (notPlus rest rfl).elim
    case h_2 =>
      rfl

/-- The message about a numeral that is not read explains why. -/
theorem explains_of_readUnsigned
    {radix bound : Nat}
    (radixSmall : radix ≤ 16)
    {fault : NumeralFault}
    {text : List Char}
    (failed : readUnsigned radix bound text = .error fault) :
    Explains radix bound text fault.message := by
  by_cases empty : text = []
  · subst empty
    cases failed
    constructor
    case empty_iff =>
      exact iff_of_true rfl rfl
    case loneSign =>
      nofun
    case firstFault =>
      exact fun notEmpty => (notEmpty rfl).elim
  by_cases lone : text = ['+']
  · subst lone
    cases failed
    constructor
    case empty_iff =>
      exact iff_of_false (by decide) (List.cons_ne_nil _ _)
    case loneSign =>
      exact fun _ => rfl
    case firstFault =>
      exact fun _ notLone => (notLone rfl).elim
  rw [readUnsigned_eq_readDigits radix bound empty lone] at failed
  obtain ⟨place, character, least, isThere, atFault⟩ :=
    exists_isLeast_faultyAt radixSmall failed
  constructor
  case empty_iff =>
    refine iff_of_false ?_ empty
    rcases atFault with ⟨_, rfl⟩ | ⟨_, rfl⟩ <;> decide
  case loneSign =>
    exact fun isLone => (lone isLone).elim
  case firstFault =>
    intro _ _
    refine ⟨place, character, least, isThere, ?_, ?_⟩
    · intro noDigit
      rcases atFault with ⟨_, rfl⟩ | ⟨⟨worth, digit⟩, _⟩
      · rfl
      · exact (noDigit worth digit).elim
    · rintro ⟨worth, digit⟩
      rcases atFault with ⟨noDigit, _⟩ | ⟨_, rfl⟩
      · exact (noDigit worth digit).elim
      · rfl

/-- A numeral that is read has no explanation for a failure. -/
theorem not_explains_of_readUnsigned
    {radix bound number : Nat}
    (radixSmall : radix ≤ 16)
    {text : List Char}
    (read : readUnsigned radix bound text = .ok number)
    (reason : String) :
    ¬ Explains radix bound text reason := by
  intro explains
  have notEmpty : text ≠ [] := by
    rintro rfl
    cases read
  have notLone : text ≠ ['+'] := by
    rintro rfl
    cases read
  obtain ⟨place, _, ⟨faulty, _⟩, isThere, _⟩ :=
    explains.firstFault notEmpty notLone
  obtain ⟨inside, _⟩ := List.getElem?_eq_some_iff.mp isThere
  rw [readUnsigned_eq_readDigits radix bound notEmpty notLone] at read
  apply not_faultyAt_of_readDigits radixSmall read inside []
  rw [List.append_nil]
  exact faulty

/-- A text is refused with a message exactly if the message explains why it is no numeral. -/
theorem readUnsigned_eq_error_iff
    {radix bound : Nat}
    (radixSmall : radix ≤ 16)
    {text : List Char}
    {reason : String} :
    (∃ fault,
        readUnsigned radix bound text = .error fault ∧
          fault.message = reason) ↔
      Explains radix bound text reason := by
  constructor
  · rintro ⟨fault, failed, rfl⟩
    exact explains_of_readUnsigned radixSmall failed
  · intro explains
    cases result : readUnsigned radix bound text with
    | ok number =>
        exact (not_explains_of_readUnsigned radixSmall result reason explains).elim
    | error fault =>
        have fits := explains_of_readUnsigned radixSmall result
        exact ⟨fault, rfl, fits.unique explains⟩

end ByteField.Text.Numeral
