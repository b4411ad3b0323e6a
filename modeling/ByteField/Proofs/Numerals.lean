import ByteField.Text.Numeral
import Mathlib.Data.List.Forall2
import Mathlib.Data.Nat.Digits.Defs

namespace ByteField.Text.Numeral

/-!
# What is a numeral

A numeral of a number is one or more digits with that number as value, the first
one counting most, and a plus sign may precede them.  Reading goes through the
digits with the value of those behind it; this value never falls, so a numeral
is read exactly if its number is within the bound, however many zeros it leads.
-/

/-- A character is the digit worth a number below the radix; a letter may be of either case. -/
def IsDigit
    (radix : Nat)
    (character : Char)
    (worth : Nat) :
    Prop :=
  worth < radix ∧
    (character = worth.digitChar ∨ character = worth.digitChar.toUpper)

/-- One or more digits with a number as their value. -/
def WritesDigits
    (radix : Nat)
    (digits : List Char)
    (number : Nat) :
    Prop :=
  digits ≠ [] ∧
    ∃ worths,
      List.Forall₂ (IsDigit radix) digits worths ∧
        Nat.ofDigits radix worths.reverse = number

/-- Digits with a number as their value, or these behind a single plus sign. -/
def Writes
    (radix : Nat)
    (text : List Char)
    (number : Nat) :
    Prop :=
  WritesDigits radix text number ∨
    ∃ digits, text = '+' :: digits ∧ WritesDigits radix digits number

/-! ## Digits -/

/-- Every number below sixteen is the value of its digit, in either case. -/
theorem symbolValue?_digitChar
    {worth : Nat}
    (small : worth < 16) :
    symbolValue? worth.digitChar = some worth ∧
      symbolValue? worth.digitChar.toUpper = some worth := by
  revert worth
  decide

/-- A character not before another one is counted from there. -/
theorem eq_ofNat_add
    {first character : Char}
    (notBefore : first ≤ character) :
    character =
      Char.ofNat (first.toNat + (character.toNat - first.toNat)) := by
  have codes : first.toNat ≤ character.toNat :=
    UInt32.le_iff_toNat_le.mp notBefore
  rw [Nat.add_sub_cancel' codes, Char.ofNat_toNat]

/-- A character with a value below sixteen is the digit of that value. -/
theorem eq_digitChar_of_symbolValue?
    {character : Char}
    {worth : Nat}
    (small : worth < 16)
    (found : symbolValue? character = some worth) :
    character = worth.digitChar ∨ character = worth.digitChar.toUpper := by
  have digits :
      ∀ place < 10, Char.ofNat ('0'.toNat + place) = place.digitChar := by
    decide
  have lower :
      ∀ place < 6, Char.ofNat ('a'.toNat + place) = (place + 10).digitChar := by
    decide
  have upper :
      ∀ place < 6,
        Char.ofNat ('A'.toNat + place) = (place + 10).digitChar.toUpper := by
    decide
  unfold symbolValue? at found
  split at found
  case isTrue range =>
    cases found
    have last : character.toNat ≤ 57 :=
      UInt32.le_iff_toNat_le.mp range.2
    have place : character.toNat - 48 < 10 := by
      omega
    exact Or.inl ((eq_ofNat_add range.1).trans (digits _ place))
  case isFalse =>
    split at found
    case isTrue range =>
      cases found
      exact Or.inl
        ((eq_ofNat_add range.1).trans (lower _ (Nat.lt_of_add_lt_add_right small)))
    case isFalse =>
      split at found
      case isTrue range =>
        cases found
        exact Or.inr
          ((eq_ofNat_add range.1).trans (upper _ (Nat.lt_of_add_lt_add_right small)))
      case isFalse =>
        cases found

/-- The digits of a radix up to sixteen are the characters that are read as such. -/
theorem digitValue?_eq_some_iff
    {radix : Nat}
    (radixSmall : radix ≤ 16)
    {character : Char}
    {worth : Nat} :
    digitValue? radix character = some worth ↔
      IsDigit radix character worth := by
  rw [digitValue?, Option.filter_eq_some_iff, IsDigit, decide_eq_true_iff]
  constructor
  · rintro ⟨found, below⟩
    exact ⟨below,
      eq_digitChar_of_symbolValue? (Nat.lt_of_lt_of_le below radixSmall) found⟩
  · rintro ⟨below, rfl | rfl⟩
    · exact ⟨(symbolValue?_digitChar (Nat.lt_of_lt_of_le below radixSmall)).1, below⟩
    · exact ⟨(symbolValue?_digitChar (Nat.lt_of_lt_of_le below radixSmall)).2, below⟩

/-! ## Values -/

/-- The value of further digits behind a value already read. -/
def valueFrom
    (radix value : Nat)
    (worths : List Nat) :
    Nat :=
  worths.foldl (fun value worth => value * radix + worth) value

theorem valueFrom_cons
    (radix value worth : Nat)
    (worths : List Nat) :
    valueFrom radix value (worth :: worths) =
      valueFrom radix (value * radix + worth) worths :=
  rfl

/-- Read from zero on, digits have their value by place. -/
theorem valueFrom_zero
    (radix : Nat)
    (worths : List Nat) :
    valueFrom radix 0 worths = Nat.ofDigits radix worths.reverse := by
  rw [valueFrom, Nat.ofDigits_eq_foldr, List.foldr_reverse]
  simp only [Nat.cast_id, Nat.add_comm, Nat.mul_comm]

/-- No digit makes a value smaller. -/
theorem le_valueFrom
    {radix : Nat}
    (positive : 0 < radix)
    (value : Nat)
    (worths : List Nat) :
    value ≤ valueFrom radix value worths := by
  induction worths generalizing value with
  | nil =>
      exact Nat.le_refl value
  | cons worth rest inductionHypothesis =>
      calc
        value ≤ value * radix :=
          Nat.le_mul_of_pos_right value positive
        _ ≤ value * radix + worth :=
          Nat.le_add_right _ _
        _ ≤ valueFrom radix value (worth :: rest) :=
          inductionHypothesis _

/-! ## Reading -/

/-- Behind a value within the bound, digits are read exactly if their value is within it. -/
theorem readDigits_eq_ok_iff
    {radix bound value result : Nat}
    (radixSmall : radix ≤ 16)
    {pastBound : NumeralFault}
    (within : value ≤ bound)
    {characters : List Char} :
    readDigits radix bound pastBound value characters = .ok result ↔
      ∃ worths,
        List.Forall₂ (IsDigit radix) characters worths ∧
          valueFrom radix value worths = result ∧
          result ≤ bound := by
  induction characters generalizing value with
  | nil =>
      constructor
      · intro read
        cases read
        exact ⟨[], .nil, rfl, within⟩
      · rintro ⟨_, _ | _, rfl, _⟩
        rfl
  | cons character rest inductionHypothesis =>
      rw [readDigits]
      constructor
      · intro read
        cases digit : digitValue? radix character with
        | none =>
            rw [digit] at read
            cases read
        | some worth =>
            simp only [digit] at read
            by_cases past : bound < value * radix + worth
            · rw [if_pos past] at read
              cases read
            · rw [if_neg past] at read
              obtain ⟨worths, digits, isResult, resultWithin⟩ :=
                (inductionHypothesis (Nat.le_of_not_lt past)).mp read
              exact ⟨worth :: worths,
                .cons ((digitValue?_eq_some_iff radixSmall).mp digit) digits,
                isResult, resultWithin⟩
      · rintro ⟨_, _ | ⟨digit, digits⟩, isResult, resultWithin⟩
        rename_i worth worths
        have reached :
            value * radix + worth ≤ valueFrom radix value (worth :: worths) :=
          le_valueFrom (Nat.zero_lt_of_lt digit.1) _ worths
        have notPast : ¬ bound < value * radix + worth := by
          omega
        rw [(digitValue?_eq_some_iff radixSmall).mpr digit]
        simp only [if_neg notPast]
        exact (inductionHypothesis (Nat.le_of_not_lt notPast)).mpr
          ⟨worths, digits, isResult, resultWithin⟩

/-- From zero on, one or more digits are read exactly if their number is within the bound. -/
theorem readDigits_zero_eq_ok_iff
    {radix bound number : Nat}
    (radixSmall : radix ≤ 16)
    {pastBound : NumeralFault}
    {digits : List Char}
    (nonempty : digits ≠ []) :
    readDigits radix bound pastBound 0 digits = .ok number ↔
      WritesDigits radix digits number ∧ number ≤ bound := by
  rw [readDigits_eq_ok_iff radixSmall (Nat.zero_le bound), WritesDigits]
  simp only [valueFrom_zero]
  constructor
  · rintro ⟨worths, areDigits, isNumber, within⟩
    exact ⟨⟨nonempty, worths, areDigits, isNumber⟩, within⟩
  · rintro ⟨⟨_, worths, areDigits, isNumber⟩, within⟩
    exact ⟨worths, areDigits, isNumber, within⟩

/-! ## Signs -/

theorem not_writesDigits_nil
    (radix number : Nat) :
    ¬ WritesDigits radix [] number := by
  rintro ⟨nonempty, _⟩
  exact nonempty rfl

/-- A plus sign is no digit. -/
theorem not_writesDigits_plus
    {radix : Nat}
    (radixSmall : radix ≤ 16)
    (digits : List Char)
    (number : Nat) :
    ¬ WritesDigits radix ('+' :: digits) number := by
  rintro ⟨_, _, areDigits, _⟩
  cases areDigits with
  | cons plus _ =>
      have found := (digitValue?_eq_some_iff radixSmall).mpr plus
      cases found

/-- Behind a plus sign there are digits only, no other sign. -/
theorem writes_plus_iff
    {radix : Nat}
    (radixSmall : radix ≤ 16)
    {digits : List Char}
    {number : Nat} :
    Writes radix ('+' :: digits) number ↔
      WritesDigits radix digits number := by
  constructor
  · rintro (withPlus | ⟨_, sameDigits, areDigits⟩)
    · exact (not_writesDigits_plus radixSmall digits number withPlus).elim
    · cases sameDigits
      exact areDigits
  · intro areDigits
    exact Or.inr ⟨digits, rfl, areDigits⟩

/-- A text without a plus sign in front has to be digits throughout. -/
theorem writes_iff_of_not_plus
    {radix : Nat}
    {text : List Char}
    (notPlus : ∀ digits, text ≠ '+' :: digits)
    {number : Nat} :
    Writes radix text number ↔ WritesDigits radix text number := by
  constructor
  · rintro (areDigits | ⟨digits, isPlus, _⟩)
    · exact areDigits
    · exact (notPlus digits isPlus).elim
  · exact Or.inl

/-- A text is read exactly if it is a numeral of a number within the bound. -/
theorem readUnsigned_eq_ok_iff
    {radix bound number : Nat}
    (radixSmall : radix ≤ 16)
    {text : List Char} :
    readUnsigned radix bound text = .ok number ↔
      Writes radix text number ∧ number ≤ bound := by
  unfold readUnsigned
  split
  case h_1 =>
    rw [writes_iff_of_not_plus (fun digits => (List.cons_ne_nil '+' digits).symm)]
    simp [not_writesDigits_nil]
  case h_2 =>
    rw [writes_plus_iff radixSmall]
    simp [not_writesDigits_nil]
  case h_3 digits notEmpty =>
    rw [writes_plus_iff radixSmall]
    exact readDigits_zero_eq_ok_iff radixSmall notEmpty
  case h_4 notEmpty _ notPlus =>
    rw [writes_iff_of_not_plus notPlus]
    exact readDigits_zero_eq_ok_iff radixSmall notEmpty

/-! ## Numerals of a given number -/

/-- One more digit behind others makes their number as many times larger as the radix says. -/
theorem WritesDigits.append_digit
    {radix number worth : Nat}
    {digits : List Char}
    {character : Char}
    (written : WritesDigits radix digits number)
    (digit : IsDigit radix character worth) :
    WritesDigits radix (digits ++ [character]) (number * radix + worth) := by
  obtain ⟨_, worths, areDigits, isNumber⟩ := written
  refine ⟨List.append_ne_nil_of_right_ne_nil _ (List.cons_ne_nil _ _),
    worths ++ [worth], List.rel_append areDigits (.cons digit .nil), ?_⟩
  rw [List.reverse_append, List.reverse_singleton, List.singleton_append,
    Nat.ofDigits_cons, isNumber]
  simp only [Nat.add_comm, Nat.mul_comm]

/-- Zeros in front of digits do not change their number. -/
theorem WritesDigits.replicate_zero
    {radix number : Nat}
    {digits : List Char}
    (written : WritesDigits radix digits number)
    (positive : 0 < radix)
    (count : Nat) :
    WritesDigits radix (List.replicate count '0' ++ digits) number := by
  induction count with
  | zero =>
      exact written
  | succ count inductionHypothesis =>
      obtain ⟨_, worths, areDigits, isNumber⟩ := inductionHypothesis
      refine ⟨List.cons_ne_nil _ _, 0 :: worths,
        .cons ⟨positive, Or.inl rfl⟩ areDigits, ?_⟩
      rw [← isNumber, ← valueFrom_zero, ← valueFrom_zero, valueFrom_cons,
        Nat.zero_mul]

/-- The digits of a number have it as their value. -/
theorem writesDigits_toDigits
    {radix : Nat}
    (radixLarge : 1 < radix)
    (number : Nat) :
    WritesDigits radix (Nat.toDigits radix number) number := by
  induction number using Nat.strongRecOn with
  | ind number inductionHypothesis =>
      by_cases single : number < radix
      · rw [Nat.toDigits_of_lt_base single]
        exact ⟨List.cons_ne_nil _ _, [number],
          .cons ⟨single, Or.inl rfl⟩ .nil, Nat.ofDigits_singleton⟩
      · have digit :
            IsDigit radix (number % radix).digitChar (number % radix) :=
          ⟨Nat.mod_lt _ (Nat.zero_lt_of_lt radixLarge), Or.inl rfl⟩
        have smaller : number / radix < number :=
          Nat.div_lt_self (by omega) radixLarge
        have written :=
          (inductionHypothesis (number / radix) smaller).append_digit digit
        rw [Nat.div_add_mod'] at written
        rw [Nat.toDigits_of_base_le radixLarge (Nat.le_of_not_lt single)]
        exact written

/-- The digits of a number with zeros in front up to a width. -/
def padded
    (radix width number : Nat) :
    List Char :=
  List.leftpad width '0' (Nat.toDigits radix number)

theorem writesDigits_padded
    {radix : Nat}
    (radixLarge : 1 < radix)
    (width number : Nat) :
    WritesDigits radix (padded radix width number) number :=
  (writesDigits_toDigits radixLarge number).replicate_zero
    (Nat.zero_lt_of_lt radixLarge) _

/-- A width that holds all digits of a number is exactly filled. -/
theorem length_padded
    {radix width number : Nat}
    (radixLarge : 1 < radix)
    (positive : 0 < width)
    (small : number < radix ^ width) :
    (padded radix width number).length = width := by
  have fits : (Nat.toDigits radix number).length ≤ width :=
    (Nat.length_toDigits_le_iff radixLarge positive).mpr small
  rw [padded, List.length_leftpad]
  exact Nat.max_eq_left fits

end ByteField.Text.Numeral
