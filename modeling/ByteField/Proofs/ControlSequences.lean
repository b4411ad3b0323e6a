import ByteField.Proofs.QuotedText
import ByteField.Text.ControlSequence

namespace ByteField.Text

/-!
# Text that gives no orders

A terminal shows blanks, visible characters and whatever lies beyond ASCII; it
may take anything else as an order.  Clearing a text of control sequences leaves
characters of the first kind only, and it leaves all of them where there are no
others.  Characters that are not hidden in quoted text are of this kind as well.
-/

namespace ControlSequence

/-- A character that a terminal shows, or a blank. -/
def IsShowable
    (character : Char) :
    Prop :=
  Kind.of character ∈ [.blank, .visible, .beyondAscii]

instance : DecidablePred IsShowable :=
  fun _ => inferInstanceAs (Decidable (_ ∈ _))

theorem isShowable_of_shows
    {mode : Mode}
    {character : Char}
    (shows : mode.shows character = true) :
    IsShowable character := by
  unfold Mode.shows at shows
  unfold IsShowable
  split at shows <;> simp_all

/-- What is shown of a text are showable characters. -/
theorem isShowable_of_mem_shown
    {mode : Mode}
    {characters : List Char}
    {character : Char}
    (member : character ∈ shown mode characters) :
    IsShowable character := by
  induction characters generalizing mode with
  | nil =>
      simp [shown] at member
  | cons head rest inductionHypothesis =>
      rw [shown] at member
      split at member
      case isTrue shows =>
        rcases List.mem_cons.mp member with isHead | inRest
        · rw [isHead]
          exact isShowable_of_shows shows
        · exact inductionHypothesis inRest
      case isFalse =>
        exact inductionHypothesis member

/-- Showable characters are all shown. -/
theorem shown_eq_self
    {characters : List Char}
    (showable : ∀ character ∈ characters, IsShowable character) :
    shown (.showing none) characters = characters := by
  induction characters with
  | nil =>
      rfl
  | cons head rest inductionHypothesis =>
      obtain ⟨headShowable, restShowable⟩ := List.forall_mem_cons.mp showable
      have restShown := inductionHypothesis restShowable
      have kinds :
          Kind.of head = .blank ∨ Kind.of head = .visible ∨
            Kind.of head = .beyondAscii := by
        simpa [IsShowable] using headShowable
      rcases kinds with kind | kind | kind <;>
        simp [shown, Mode.shows, Mode.after, kind, restShown]

end ControlSequence

/-- A text of which a terminal takes nothing as an order. -/
def IsShowable
    (text : String) :
    Prop :=
  ∀ character ∈ text.toList, ControlSequence.IsShowable character

instance : DecidablePred IsShowable :=
  fun text =>
    decidable_of_iff
      (text.toList.all fun character =>
        decide (ControlSequence.IsShowable character))
      (by simp [IsShowable])

@[simp] theorem isShowable_append
    {first second : String} :
    IsShowable (first ++ second) ↔ IsShowable first ∧ IsShowable second := by
  simp only [IsShowable, String.toList_append, List.forall_mem_append]

/-- A text cleared of control sequences can be shown. -/
@[simp] theorem isShowable_withoutControlSequences
    (text : String) :
    IsShowable (withoutControlSequences text) := by
  intro character member
  rw [withoutControlSequences, String.toList_ofList] at member
  exact ControlSequence.isShowable_of_mem_shown member

/-- Clearing changes nothing exactly if the text can be shown, so clearing it again never does. -/
theorem withoutControlSequences_eq_self_iff
    {text : String} :
    withoutControlSequences text = text ↔ IsShowable text := by
  constructor
  · intro same
    rw [← same]
    exact isShowable_withoutControlSequences text
  · intro showable
    rw [withoutControlSequences, ControlSequence.shown_eq_self showable,
      String.ofList_toList]

/-- A character that is not hidden in quotes can be shown. -/
theorem isShowable_of_visible
    {character : Char}
    (visible : Quoted.isHidden character = false) :
    ControlSequence.IsShowable character := by
  have noControl : ¬ IsControl character := by
    intro control
    rw [Quoted.isHidden_of_isControl control] at visible
    cases visible
  unfold ControlSequence.IsShowable ControlSequence.Kind.of
  split_ifs with isEscape isCancel isBlank isControl isVisible
  · rw [isEscape] at noControl
    exact (noControl (Or.inl (by decide))).elim
  · rcases isCancel with rfl | rfl
    · exact (noControl (Or.inl (by decide))).elim
    · exact (noControl (Or.inl (by decide))).elim
  · decide
  · rcases isControl with isLow | rfl
    · have below : character.toNat < 0x20 :=
        UInt32.lt_iff_toNat_lt.mp isLow
      exact (noControl (Or.inl (Nat.le_of_lt_succ below))).elim
    · exact (noControl (Or.inr (by decide))).elim
  · decide
  · decide

/-! ## Numerals and complaints about them -/

@[simp] theorem isShowable_decimal
    (number : Nat) :
    IsShowable (decimal number) := by
  intro character member
  rw [decimal, String.toList_ofList] at member
  have isDigit : character.isDigit = true :=
    Nat.isDigit_of_mem_toDigits (by decide) (by decide) member
  have basic : Quoted.IsBasic character := by
    simp only [Char.isDigit, Bool.and_eq_true, decide_eq_true_eq] at isDigit
    have notBelow : 0x30 ≤ character.toNat :=
      UInt32.le_iff_toNat_le.mp isDigit.1
    have notAbove : character.toNat ≤ 0x39 :=
      UInt32.le_iff_toNat_le.mp isDigit.2
    exact ⟨UInt32.le_iff_toNat_le.mpr (Nat.le_trans (by decide) notBelow),
      UInt32.le_iff_toNat_le.mpr (Nat.le_trans notAbove (by decide))⟩
  exact isShowable_of_visible basic.isHidden_eq_false

@[simp] theorem isShowable_message
    (fault : NumeralFault) :
    IsShowable fault.message := by
  cases fault <;> decide

@[simp] theorem isShowable_signedDecimal
    (number : Int) :
    IsShowable (signedDecimal number) := by
  have sign : IsShowable "-" := by
    decide
  unfold signedDecimal
  split <;> simp [sign]

end ByteField.Text
