import ByteField.Proofs.Numerals
import ByteField.Text.Quoted
import Mathlib.Data.List.Forall2

namespace ByteField.Text

/-!
# Quoted text can be read back

What stands for a character between the quotes tells which character it is and
where it ends, whatever follows.  The closing quote is none of these forms, so
the quoted text is found again in front of any further text.  None of its
characters is hidden, which leaves out every control character and every end of
a line.
-/

namespace Quoted

/-- The character that a letter behind a backslash stands for. -/
def letterOf? : Char → Option Char
  | '"' => some '"'
  | '\\' => some '\\'
  | 't' => some '\t'
  | 'r' => some '\r'
  | 'n' => some '\n'
  | '0' => some '\x00'
  | _ => none

/-- The form of a character between the quotes. -/
inductive Shows : Char → List Char → Prop where
  /-- A quote, a backslash and four blanks have a letter of their own behind a backslash. -/
  | letter
      {character letter : Char}
      (meaning : letterOf? letter = some character) :
      Shows character ['\\', letter]
  /-- A hidden character without a letter has its code point between braces. -/
  | code
      {character : Char}
      (noLetter : ∀ letter, letterOf? letter ≠ some character)
      (hidden : isHidden character = true) :
      Shows character (codePoint character)
  /-- Any other character stands for itself. -/
  | itself
      {character : Char}
      (noLetter : ∀ letter, letterOf? letter ≠ some character)
      (visible : isHidden character = false) :
      Shows character [character]

/-- A character with a letter of its own is written with it. -/
theorem escape_of_letterOf?
    {character letter : Char}
    (meaning : letterOf? letter = some character) :
    escape character = ['\\', letter] := by
  unfold letterOf? at meaning
  split at meaning <;> cases meaning <;> rfl

/-- Without a letter it depends on whether the character is hidden. -/
theorem escape_of_noLetter
    {character : Char}
    (noLetter : ∀ letter, letterOf? letter ≠ some character) :
    escape character =
      if isHidden character then codePoint character else [character] := by
  have differs
      (letter : Char)
      {lettered : Char}
      (meaning : letterOf? letter = some lettered) :
      character ≠ lettered := by
    rintro rfl
    exact noLetter letter meaning
  have notQuote : character ≠ '"' :=
    differs '"' rfl
  have notBackslash : character ≠ '\\' :=
    differs '\\' rfl
  have notTab : character ≠ '\t' :=
    differs 't' rfl
  have notReturn : character ≠ '\r' :=
    differs 'r' rfl
  have notNewline : character ≠ '\n' :=
    differs 'n' rfl
  have notNul : character ≠ '\x00' :=
    differs '0' rfl
  rw [escape, if_neg notQuote, if_neg notBackslash, if_neg notTab,
    if_neg notReturn, if_neg notNewline, if_neg notNul]

/-- What stands for a character between the quotes is its form, and nothing else is. -/
theorem escape_eq_iff_shows
    {character : Char}
    {form : List Char} :
    escape character = form ↔ Shows character form := by
  constructor
  · rintro rfl
    by_cases lettered : ∃ letter, letterOf? letter = some character
    · obtain ⟨letter, meaning⟩ := lettered
      rw [escape_of_letterOf? meaning]
      exact .letter meaning
    · have noLetter := not_exists.mp lettered
      rw [escape_of_noLetter noLetter]
      by_cases hidden : isHidden character = true
      · rw [if_pos hidden]
        exact .code noLetter hidden
      · rw [if_neg hidden]
        exact .itself noLetter (Bool.eq_false_of_not_eq_true hidden)
  · intro shows
    cases shows with
    | letter meaning =>
        exact escape_of_letterOf? meaning
    | code noLetter hidden =>
        rw [escape_of_noLetter noLetter, if_pos hidden]
    | itself noLetter visible =>
        rw [escape_of_noLetter noLetter, visible]
        rfl

theorem shows_escape
    (character : Char) :
    Shows character (escape character) :=
  escape_eq_iff_shows.mp rfl

/-! ## Reading a form -/

/-- The character whose code point stands before the next closing brace. -/
def readCodePoint?
    (text : List Char) :
    Option (Char × List Char) :=
  match Numeral.readDigits 16 0x10FFFF .tooLarge 0 (text.takeWhile (· ≠ '\x7d')) with
  | .ok number =>
      some (Char.ofNat number, (text.dropWhile (· ≠ '\x7d')).tail)
  | .error _ => none

/-- The character that a quoted text begins with and what follows it; none at the closing quote. -/
def unescape? : List Char → Option (Char × List Char)
  | '\\' :: 'u' :: '\x7b' :: rest => readCodePoint? rest
  | '\\' :: letter :: rest => (letterOf? letter).map (·, rest)
  | '"' :: _ => none
  | character :: rest => some (character, rest)
  | [] => none

/-- The digits of a code point are hexadecimal digits. -/
theorem exists_isDigit_of_mem_toDigits
    {number : Nat}
    {digit : Char}
    (member : digit ∈ Nat.toDigits 16 number) :
    ∃ worth, Numeral.IsDigit 16 digit worth := by
  have written : Numeral.WritesDigits 16 (Nat.toDigits 16 number) number :=
    Numeral.writesDigits_toDigits (by decide) number
  obtain ⟨_, worths, areDigits, _⟩ := written
  obtain ⟨place, inside, rfl⟩ := List.mem_iff_getElem.mp member
  have worthInside : place < worths.length :=
    areDigits.length_eq ▸ inside
  exact ⟨_, areDigits.get inside worthInside⟩

/-- A closing brace is no digit, so it ends the digits of a code point. -/
theorem ne_brace_of_mem_toDigits
    {number : Nat}
    {digit : Char}
    (member : digit ∈ Nat.toDigits 16 number) :
    digit ≠ '\x7d' := by
  rintro rfl
  obtain ⟨worth, isDigit⟩ := exists_isDigit_of_mem_toDigits member
  have found :=
    (Numeral.digitValue?_eq_some_iff (Nat.le_refl 16)).mpr isDigit
  cases found

theorem readCodePoint?_toDigits
    (character : Char)
    (rest : List Char) :
    readCodePoint? (Nat.toDigits 16 character.toNat ++ '\x7d' :: rest) =
      some (character, rest) := by
  have noBrace :
      ∀ digit ∈ Nat.toDigits 16 character.toNat, decide (digit ≠ '\x7d') :=
    fun digit member => decide_eq_true (ne_brace_of_mem_toDigits member)
  have within : character.toNat ≤ 0x10FFFF := by
    rcases character.valid with below | ⟨_, below⟩
    · exact Nat.le_trans (Nat.le_of_lt below) (by decide)
    · exact Nat.le_of_lt_succ below
  have read :
      Numeral.readDigits 16 0x10FFFF .tooLarge 0
          (Nat.toDigits 16 character.toNat) =
        .ok character.toNat :=
    (Numeral.readDigits_zero_eq_ok_iff (Nat.le_refl 16) Nat.toDigits_ne_nil).mpr
      ⟨Numeral.writesDigits_toDigits (by decide) _, within⟩
  rw [readCodePoint?, List.takeWhile_append_of_pos noBrace,
    List.dropWhile_append_of_pos noBrace]
  simp [read]

/-- A form is read as the character that it shows, and no further. -/
theorem unescape?_of_shows
    {character : Char}
    {form : List Char}
    (shows : Shows character form)
    (rest : List Char) :
    unescape? (form ++ rest) = some (character, rest) := by
  cases shows with
  | @letter letter meaning =>
      have notBrace : letter ≠ 'u' := by
        rintro rfl
        cases meaning
      simp [unescape?, meaning, notBrace]
  | code =>
      simp [unescape?, codePoint, readCodePoint?_toDigits]
  | itself noLetter =>
      have notQuote : character ≠ '"' := by
        rintro rfl
        exact noLetter '"' rfl
      have notBackslash : character ≠ '\\' := by
        rintro rfl
        exact noLetter '\\' rfl
      simp [unescape?, notBackslash]

/-- The characters between the quotes are found again in front of any further text. -/
theorem flatMap_escape_append_inj
    {left right behind after : List Char}
    (same :
      left.flatMap escape ++ '"' :: behind =
        right.flatMap escape ++ '"' :: after) :
    left = right ∧ behind = after := by
  have firstOf (character : Char) (rest further : List Char) :
      unescape? ((character :: rest).flatMap escape ++ '"' :: further) =
        some (character, rest.flatMap escape ++ '"' :: further) := by
    rw [List.flatMap_cons, List.append_assoc]
    exact unescape?_of_shows (shows_escape character) _
  -- Both texts are read one form at a time: the closing quotes come at the same
  -- time, and forms that are read alike leave equal texts behind them.
  induction left generalizing right with
  | nil =>
      cases right with
      | nil =>
          exact ⟨rfl, List.tail_eq_of_cons_eq same⟩
      | cons character rest =>
          have first := congrArg unescape? same
          rw [firstOf] at first
          cases first
  | cons leftCharacter leftRest inductionHypothesis =>
      cases right with
      | nil =>
          have first := congrArg unescape? same
          rw [firstOf] at first
          cases first
      | cons rightCharacter rightRest =>
          have first := congrArg unescape? same
          rw [firstOf, firstOf] at first
          obtain ⟨sameCharacter, sameRest⟩ :=
            Prod.mk.inj (Option.some.inj first)
          obtain ⟨sameLeft, sameBehind⟩ := inductionHypothesis sameRest
          exact ⟨List.cons_eq_cons.mpr ⟨sameCharacter, sameLeft⟩, sameBehind⟩

/-! ## Visible characters -/

/-- A blank, digit, letter or mark of the basic Latin alphabet. -/
def IsBasic
    (character : Char) :
    Prop :=
  ' ' ≤ character ∧ character ≤ '~'

instance (character : Char) : Decidable (IsBasic character) :=
  inferInstanceAs (Decidable (_ ∧ _))

/-- A basic character is in none of the ranges that lie apart from these characters. -/
theorem IsBasic.not_listed
    {character : Char}
    (basic : IsBasic character)
    {ranges : List (Nat × Nat)}
    (apart : ∀ range ∈ ranges, range.2 < 0x20 ∨ 0x7E < range.1) :
    (ranges.any fun (first, last) =>
      first ≤ character.toNat && character.toNat ≤ last) = false := by
  have first : 0x20 ≤ character.toNat :=
    UInt32.le_iff_toNat_le.mp basic.1
  have last : character.toNat ≤ 0x7E :=
    UInt32.le_iff_toNat_le.mp basic.2
  rw [List.any_eq_false]
  intro range listed inside
  have isApart := apart range listed
  simp only [Bool.and_eq_true, decide_eq_true_eq] at inside
  omega

/-- In a text of basic characters each of them is basic. -/
theorem isBasic_of_all
    {characters : List Char}
    {character : Char}
    (basic : characters.all (fun character => decide (IsBasic character)) = true)
    (member : character ∈ characters) :
    IsBasic character :=
  of_decide_eq_true (List.all_eq_true.mp basic character member)

/-- A basic character is visible. -/
theorem IsBasic.isHidden_eq_false
    {character : Char}
    (basic : IsBasic character) :
    isHidden character = false := by
  have printable : isUnprintable character = false :=
    basic.not_listed (by decide +kernel)
  have apart : isGraphemeExtender character = false :=
    basic.not_listed (by decide +kernel)
  have kept : isIgnorable character = false :=
    basic.not_listed (by decide +kernel)
  simp [isHidden, printable, apart, kept]

theorem isBasic_of_isDigit
    {digit : Char}
    {worth : Nat}
    (isDigit : Numeral.IsDigit 16 digit worth) :
    IsBasic digit := by
  have basic :
      ∀ worth < 16, IsBasic worth.digitChar ∧ IsBasic worth.digitChar.toUpper := by
    decide
  obtain ⟨small, rfl | rfl⟩ := isDigit
  · exact (basic worth small).1
  · exact (basic worth small).2

theorem isBasic_of_letterOf?
    {letter character : Char}
    (meaning : letterOf? letter = some character) :
    IsBasic letter := by
  unfold letterOf? at meaning
  split at meaning
  case h_7 =>
    cases meaning
  all_goals decide

/-- No form of a character has a hidden character in it. -/
theorem isHidden_of_mem_shows
    {shown character : Char}
    {form : List Char}
    (shows : Shows shown form)
    (member : character ∈ form) :
    isHidden character = false := by
  cases shows with
  | @letter letter meaning =>
      apply IsBasic.isHidden_eq_false
      rcases List.mem_pair.mp member with rfl | rfl
      · decide
      · exact isBasic_of_letterOf? meaning
  | code =>
      apply IsBasic.isHidden_eq_false
      simp only [codePoint, List.cons_append, List.mem_cons, List.mem_append,
        List.not_mem_nil, or_false] at member
      rcases member with rfl | rfl | rfl | isDigit | rfl
      case inr.inr.inr.inl =>
        obtain ⟨_, digit⟩ := exists_isDigit_of_mem_toDigits isDigit
        exact isBasic_of_isDigit digit
      all_goals decide
  | itself _ visible =>
      rw [List.mem_singleton.mp member]
      exact visible

end Quoted

/--
The quoted text is the forms of its characters, one behind the other and between
two quotes, and no other text is.
-/
theorem toList_quoted_eq_iff
    {text : String}
    {characters : List Char} :
    (quoted text).toList = characters ↔
      ∃ forms,
        List.Forall₂ Quoted.Shows text.toList forms ∧
          '"' :: forms.flatten ++ ['"'] = characters := by
  have rule :
      Quoted.Shows = fun character form => Quoted.escape character = form := by
    funext character form
    exact propext Quoted.escape_eq_iff_shows.symm
  have areForms
      (forms : List (List Char)) :
      List.Forall₂ Quoted.Shows text.toList forms ↔
        text.toList.map Quoted.escape = forms := by
    rw [rule, ← List.forall₂_map_left_iff, List.forall₂_eq_eq_eq]
  simp only [areForms, exists_eq_left', quoted, String.toList_ofList,
    List.flatMap_def]

/-- A quote, a backslash, a blank with a letter, a hidden character and a plain one. -/
example :
    quoted "\"\\\t\u200bx" = "\"\\\"\\\\\\t\\u\x7b200b\x7dx\"" := by
  decide +kernel

/-- Quoted texts in front of further texts are equal only if text and further text are. -/
theorem quoted_append_inj
    {left right behind after : String}
    (same : quoted left ++ behind = quoted right ++ after) :
    left = right ∧ behind = after := by
  have sameCharacters := congrArg String.toList same
  simp only [quoted, String.toList_append, String.toList_ofList, List.cons_append,
    List.append_assoc, List.nil_append, List.cons.injEq, true_and] at sameCharacters
  obtain ⟨sameText, sameBehind⟩ :=
    Quoted.flatMap_escape_append_inj sameCharacters
  exact ⟨String.toList_inj.mp sameText, String.toList_inj.mp sameBehind⟩

/-- Quoted text has no hidden character. -/
theorem isHidden_of_mem_quoted
    {text : String}
    {character : Char}
    (member : character ∈ (quoted text).toList) :
    Quoted.isHidden character = false := by
  simp only [quoted, String.toList_ofList, List.cons_append, List.mem_cons,
    List.mem_append, List.mem_flatMap, List.not_mem_nil, or_false] at member
  rcases member with isQuote | ⟨shown, _, inForm⟩ | isQuote
  · rw [isQuote]
    exact Quoted.IsBasic.isHidden_eq_false (by decide)
  · exact Quoted.isHidden_of_mem_shows (Quoted.shows_escape shown) inForm
  · rw [isQuote]
    exact Quoted.IsBasic.isHidden_eq_false (by decide)

/-! ## Control characters and ends of lines -/

/-- A control character. -/
def IsControl
    (character : Char) :
    Prop :=
  character.toNat ≤ 0x1F ∨ 0x7F ≤ character.toNat ∧ character.toNat ≤ 0x9F

/-- A character that ends a line, or a paragraph with it. -/
def EndsLine
    (character : Char) :
    Prop :=
  character ∈ ['\n', '\x0b', '\x0c', '\r', '\u0085', '\u2028', '\u2029']

theorem isUnprintable_of_mem_ranges
    {character : Char}
    {first last : Nat}
    (listed : (first, last) ∈ Unprintable.ranges)
    (notBefore : first ≤ character.toNat)
    (notBehind : character.toNat ≤ last) :
    isUnprintable character = true :=
  List.any_eq_true.mpr
    ⟨(first, last), listed, by simp [notBefore, notBehind]⟩

/-- A control character is hidden. -/
theorem Quoted.isHidden_of_isControl
    {character : Char}
    (control : IsControl character) :
    Quoted.isHidden character = true := by
  have lowListed : (0x0000, 0x001F) ∈ Unprintable.ranges := by
    decide +kernel
  have highListed : (0x007F, 0x00A0) ∈ Unprintable.ranges := by
    decide +kernel
  have unprintable : isUnprintable character = true := by
    rcases control with low | ⟨notBefore, high⟩
    · exact isUnprintable_of_mem_ranges lowListed (Nat.zero_le _) low
    · exact isUnprintable_of_mem_ranges highListed notBefore (Nat.le_succ_of_le high)
  simp [Quoted.isHidden, unprintable]

/-- A character that ends a line is hidden. -/
theorem Quoted.isHidden_of_endsLine
    {character : Char}
    (ends : EndsLine character) :
    Quoted.isHidden character = true := by
  have hidden :
      ['\n', '\x0b', '\x0c', '\r', '\u0085', '\u2028', '\u2029'].all
        Quoted.isHidden = true := by
    decide +kernel
  exact List.all_eq_true.mp hidden character ends

end ByteField.Text
