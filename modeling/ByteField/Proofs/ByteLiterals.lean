import ByteField.Proofs.Numerals
import ByteField.Text.ByteLiteral

namespace ByteField.Text.ByteLiteral

/-!
# What is a byte literal

A text is a literal of a byte exactly if its numeral, which is what stands behind
a mark of hexadecimals or else all of it, is one of that byte.  Leading zeros are
free, so there is a literal of every length from some length on, with the mark
and without.
-/

/-- A text begins with a mark of hexadecimals. -/
def IsMarked
    (text : String) :
    Prop :=
  ['0', 'x'] <+: text.toList ∨ ['0', 'X'] <+: text.toList

instance (text : String) : Decidable (IsMarked text) :=
  inferInstanceAs (Decidable (_ ∨ _))

/-- The radix that a text is written in. -/
def radix
    (text : String) :
    Nat :=
  if IsMarked text then 16 else 10

/-- A text without the two characters of its mark, if it has one. -/
def numeral
    (text : String) :
    List Char :=
  if IsMarked text then text.toList.drop 2 else text.toList

theorem radix_le
    (text : String) :
    radix text ≤ 16 := by
  unfold radix
  split <;> decide

/-- Radix and numeral are told apart by the mark. -/
theorem radixAndNumeral_eq
    (text : String) :
    radixAndNumeral text.toList = (radix text, numeral text) := by
  unfold radixAndNumeral radix numeral
  split
  case h_1 rest shape =>
    have marked : IsMarked text :=
      Or.inl ⟨rest, shape.symm⟩
    rw [if_pos marked, if_pos marked, shape]
    rfl
  case h_2 rest shape =>
    have marked : IsMarked text :=
      Or.inr ⟨rest, shape.symm⟩
    rw [if_pos marked, if_pos marked, shape]
    rfl
  case h_3 notLower notUpper =>
    have unmarked : ¬ IsMarked text := by
      rintro (⟨rest, shape⟩ | ⟨rest, shape⟩)
      · exact notLower rest shape.symm
      · exact notUpper rest shape.symm
    rw [if_neg unmarked, if_neg unmarked]

/-- A text is read as a byte exactly if its numeral is one of that byte. -/
theorem read_eq_ok_iff
    {text : String}
    {byte : UInt8} :
    read text = .ok byte ↔
      Numeral.Writes (radix text) (numeral text) byte.toNat := by
  have numberRead (number : Nat) :
      Numeral.readUnsigned (radix text) 255 (numeral text) = .ok number ↔
        Numeral.Writes (radix text) (numeral text) number ∧ number ≤ 255 :=
    Numeral.readUnsigned_eq_ok_iff (radix_le text)
  rw [read, radixAndNumeral_eq]
  constructor
  · intro isRead
    cases reached : Numeral.readUnsigned (radix text) 255 (numeral text) with
    | error fault =>
        simp only [reached] at isRead
        cases isRead
    | ok number =>
        simp only [reached] at isRead
        cases isRead
        obtain ⟨writes, within⟩ := (numberRead number).mp reached
        rw [UInt8.toNat_ofNat_of_lt' (Nat.lt_succ_of_le within)]
        exact writes
  · intro writes
    have reached :=
      (numberRead byte.toNat).mpr ⟨writes, Nat.le_of_lt_succ byte.toNat_lt⟩
    simp only [reached]
    exact congrArg Except.ok UInt8.ofNat_toNat

/-- A complaint takes the place of no byte. -/
theorem parse_eq_ok_iff
    {text : String}
    {byte : UInt8} :
    parse text = .ok byte ↔ read text = .ok byte := by
  unfold parse
  cases read text with
  | error fault =>
      constructor <;> rintro ⟨⟩
  | ok value =>
      constructor <;> rintro ⟨⟩ <;> rfl

/-! ## Literals with leading zeros -/

/-- The decimal literal of a byte with zeros in front up to a number of digits. -/
def decimalLiteral
    (width : Nat)
    (byte : UInt8) :
    String :=
  String.ofList (Numeral.padded 10 width byte.toNat)

/-- The hexadecimal literal of a byte with zeros in front up to a number of digits. -/
def hexadecimalLiteral
    (width : Nat)
    (byte : UInt8) :
    String :=
  String.ofList ('0' :: 'x' :: Numeral.padded 16 width byte.toNat)

theorem length_decimalLiteral
    {width : Nat}
    (large : 3 ≤ width)
    (byte : UInt8) :
    (decimalLiteral width byte).length = width := by
  have small : byte.toNat < 10 ^ width :=
    calc
      byte.toNat < 10 ^ 3 := Nat.lt_trans byte.toNat_lt (by decide)
      _ ≤ 10 ^ width := Nat.pow_le_pow_right (by decide) large
  rw [decimalLiteral, String.length_ofList]
  exact Numeral.length_padded (by decide) (Nat.zero_lt_of_lt large) small

theorem length_hexadecimalLiteral
    {width : Nat}
    (large : 2 ≤ width)
    (byte : UInt8) :
    (hexadecimalLiteral width byte).length = width + 2 := by
  have small : byte.toNat < 16 ^ width :=
    calc
      byte.toNat < 16 ^ 2 := byte.toNat_lt
      _ ≤ 16 ^ width := Nat.pow_le_pow_right (by decide) large
  rw [hexadecimalLiteral, String.length_ofList, List.length_cons,
    List.length_cons,
    Numeral.length_padded (by decide) (Nat.zero_lt_of_lt large) small]

/-- A decimal literal has no mark, as the mark has a letter. -/
theorem not_isMarked_decimalLiteral
    (width : Nat)
    (byte : UInt8) :
    ¬ IsMarked (decimalLiteral width byte) := by
  have digits :
      ∀ character ∈ (decimalLiteral width byte).toList, character.isDigit := by
    intro character member
    rw [decimalLiteral, String.toList_ofList, Numeral.padded, List.leftpad,
      List.mem_append] at member
    rcases member with isZero | isDigit
    · rw [List.eq_of_mem_replicate isZero]
      rfl
    · exact Nat.isDigit_of_mem_toDigits (by decide) (by decide) isDigit
  rintro (lower | upper)
  · have letter := digits 'x' (lower.subset (by simp))
    cases letter
  · have letter := digits 'X' (upper.subset (by simp))
    cases letter

theorem isMarked_hexadecimalLiteral
    (width : Nat)
    (byte : UInt8) :
    IsMarked (hexadecimalLiteral width byte) := by
  rw [IsMarked, hexadecimalLiteral, String.toList_ofList]
  exact Or.inl ⟨_, rfl⟩

/-- A decimal literal is read as its byte. -/
theorem parse_decimalLiteral
    (width : Nat)
    (byte : UInt8) :
    parse (decimalLiteral width byte) = .ok byte := by
  have unmarked := not_isMarked_decimalLiteral width byte
  rw [parse_eq_ok_iff, read_eq_ok_iff, radix, numeral, if_neg unmarked,
    if_neg unmarked, decimalLiteral, String.toList_ofList]
  exact Or.inl (Numeral.writesDigits_padded (by decide) _ _)

/-- A hexadecimal literal is read as its byte. -/
theorem parse_hexadecimalLiteral
    (width : Nat)
    (byte : UInt8) :
    parse (hexadecimalLiteral width byte) = .ok byte := by
  have marked := isMarked_hexadecimalLiteral width byte
  rw [parse_eq_ok_iff, read_eq_ok_iff, radix, numeral, if_pos marked,
    if_pos marked, hexadecimalLiteral, String.toList_ofList]
  exact Or.inl (Numeral.writesDigits_padded (by decide) _ _)

/--
A text is a literal of a number exactly if the number is at most 255 and the text,
without its mark if it has one, is a numeral of it in the radix that the mark
decides.  From four characters on, every byte has a decimal and a hexadecimal
literal of each length.
-/
theorem literal_iff_numeral :
    (∀ text number,
        (∃ byte : UInt8, parse text = .ok byte ∧ byte.toNat = number) ↔
          Numeral.Writes (radix text) (numeral text) number ∧
            number ≤ 255) ∧
      ∀ (byte : UInt8) (length : Nat), 4 ≤ length →
        (∃ text,
          text.length = length ∧ ¬ IsMarked text ∧ parse text = .ok byte) ∧
          ∃ text,
            text.length = length ∧ IsMarked text ∧ parse text = .ok byte := by
  constructor
  · intro text number
    constructor
    · rintro ⟨byte, isParsed, rfl⟩
      exact ⟨read_eq_ok_iff.mp (parse_eq_ok_iff.mp isParsed),
        Nat.le_of_lt_succ byte.toNat_lt⟩
    · rintro ⟨writes, within⟩
      have byte : (UInt8.ofNat number).toNat = number :=
        UInt8.toNat_ofNat_of_lt' (Nat.lt_succ_of_le within)
      rw [← byte] at writes
      exact ⟨UInt8.ofNat number,
        parse_eq_ok_iff.mpr (read_eq_ok_iff.mpr writes), byte⟩
  · intro byte length large
    constructor
    · exact ⟨decimalLiteral length byte,
        length_decimalLiteral (Nat.le_of_succ_le large) byte,
        not_isMarked_decimalLiteral length byte,
        parse_decimalLiteral length byte⟩
    · refine ⟨hexadecimalLiteral (length - 2) byte, ?_,
        isMarked_hexadecimalLiteral _ byte,
        parse_hexadecimalLiteral _ byte⟩
      rw [length_hexadecimalLiteral (Nat.le_sub_of_add_le large) byte]
      exact Nat.sub_add_cancel (Nat.le_trans (by decide) large)

/--
A plus sign may stand between the mark and digits of either case, but 256 has no
literal however it is written, and zero has one of a thousand characters.
-/
theorem literal_iff_numeral_signed :
    (∃ byte : UInt8, parse "0x+00Ff" = .ok byte ∧ byte.toNat = 255) ∧
      (∀ text,
        ¬ ∃ byte : UInt8, parse text = .ok byte ∧ byte.toNat = 256) ∧
      ∃ text,
        text.length = 1000 ∧ ¬ IsMarked text ∧ parse text = .ok 0 := by
  refine ⟨(literal_iff_numeral.1 _ _).mpr ⟨?_, by decide⟩, ?_,
    (literal_iff_numeral.2 0 1000 (by decide)).1⟩
  · have digits :
        List.Forall₂ (Numeral.IsDigit 16) ['0', '0', 'F', 'f'] [0, 0, 15, 15] :=
      .cons ⟨by decide, Or.inl rfl⟩
        (.cons ⟨by decide, Or.inl rfl⟩
          (.cons ⟨by decide, Or.inr rfl⟩
            (.cons ⟨by decide, Or.inl rfl⟩ .nil)))
    exact Or.inr ⟨_, rfl, List.cons_ne_nil _ _, _, digits, rfl⟩
  · intro text exists256
    have tooLarge := ((literal_iff_numeral.1 _ _).mp exists256).2
    omega

end ByteField.Text.ByteLiteral
