import ByteField.Proofs.ByteLiterals
import ByteField.Proofs.NumeralFaults
import ByteField.Proofs.QuotedText

namespace ByteField.Text.ByteLiteral

/-!
# Complaints about byte literals

A text that is no byte literal is quoted whole, and the reason behind it is fixed
by the first place at which the numeral goes wrong.  As quoted text ends where
its quote does, the complaint tells which text it is about; and it is one line
without control characters, whatever the text holds.
-/

/-- A text is refused exactly if its numeral is, and the complaint has the message of that fault. -/
theorem parse_eq_error_iff_readUnsigned
    {text message : String} :
    parse text = .error message ↔
      ∃ fault,
        Numeral.readUnsigned (radix text) 255 (numeral text) = .error fault ∧
          complaint text fault = message := by
  unfold parse read
  rw [radixAndNumeral_eq]
  cases result : Numeral.readUnsigned (radix text) 255 (numeral text) with
  | ok number =>
      simp only [result]
      constructor
      · rintro ⟨⟩
      · rintro ⟨_, ⟨⟩, _⟩
  | error fault =>
      simp only [result]
      constructor
      · rintro ⟨⟩
        exact ⟨fault, rfl, rfl⟩
      · rintro ⟨_, ⟨⟩, rfl⟩
        rfl

/--
A text is refused with a complaint exactly if this quotes the whole text, mark
included, and gives the reason that explains why its numeral is none of a byte.
-/
theorem complaint_iff_explains
    (text message : String) :
    parse text = .error message ↔
      ∃ reason,
        message = quoted text ++ " is not a byte value: " ++ reason ∧
          Numeral.Explains (radix text) 255 (numeral text) reason := by
  rw [parse_eq_error_iff_readUnsigned]
  constructor
  · rintro ⟨fault, failed, rfl⟩
    exact ⟨fault.message, rfl,
      Numeral.explains_of_readUnsigned (radix_le text) failed⟩
  · rintro ⟨reason, rfl, explains⟩
    obtain ⟨fault, failed, rfl⟩ :=
      (Numeral.readUnsigned_eq_error_iff (radix_le text)).mpr explains
    exact ⟨fault, failed, rfl⟩

/-- A value past the bound is met before the letter behind it, but a digit is judged by itself first. -/
example :
    parse "256x" =
        .error "\"256x\" is not a byte value: number too large to fit in target type" ∧
      parse "25x" =
        .error "\"25x\" is not a byte value: invalid digit found in string" := by
  decide +kernel

/-- No character of a complaint is hidden. -/
theorem isHidden_of_mem_complaint
    {text : String}
    {fault : NumeralFault}
    {character : Char}
    (member : character ∈ (complaint text fault).toList) :
    Quoted.isHidden character = false := by
  rw [complaint, String.toList_append, String.toList_append, List.mem_append,
    List.mem_append] at member
  rcases member with (inQuoted | inMiddle) | inReason
  · exact isHidden_of_mem_quoted inQuoted
  · exact (Quoted.isBasic_of_all (by decide) inMiddle).isHidden_eq_false
  · refine (Quoted.isBasic_of_all ?_ inReason).isHidden_eq_false
    cases fault <;> decide

/-- A complaint is about one text only. -/
theorem complaint_inj
    {left right : String}
    {leftFault rightFault : NumeralFault}
    (same : complaint left leftFault = complaint right rightFault) :
    left = right := by
  rw [complaint, complaint, String.append_assoc, String.append_assoc] at same
  exact (quoted_append_inj same).1

/--
Two texts that are refused have different complaints, and no complaint has a
control character or the end of a line in it.
-/
theorem complaints_distinct_and_single_line :
    (∀ left right leftMessage rightMessage,
        parse left = .error leftMessage →
          parse right = .error rightMessage →
            left ≠ right →
              leftMessage ≠ rightMessage) ∧
      ∀ text message,
        parse text = .error message →
          ∀ character ∈ message.toList,
            ¬ IsControl character ∧ ¬ EndsLine character := by
  constructor
  · intro left right leftMessage rightMessage leftRefused rightRefused different same
    obtain ⟨_, _, rfl⟩ := parse_eq_error_iff_readUnsigned.mp leftRefused
    obtain ⟨_, _, rfl⟩ := parse_eq_error_iff_readUnsigned.mp rightRefused
    exact different (complaint_inj same)
  · intro text message refused character member
    obtain ⟨_, _, rfl⟩ := parse_eq_error_iff_readUnsigned.mp refused
    have visible := isHidden_of_mem_complaint member
    constructor
    · intro control
      cases (Quoted.isHidden_of_isControl control).symm.trans visible
    · intro ends
      cases (Quoted.isHidden_of_endsLine ends).symm.trans visible

/--
A line break and the two characters that are written for it in quotes are
refused with different complaints, the first of them without the line break.
-/
theorem complaints_distinct_and_single_line_escapes :
    (parse "\n" =
          .error "\"\\n\" is not a byte value: invalid digit found in string" ∧
        parse "\\n" =
          .error "\"\\\\n\" is not a byte value: invalid digit found in string") ∧
      "\"\\n\" is not a byte value: invalid digit found in string" ≠
          "\"\\\\n\" is not a byte value: invalid digit found in string" ∧
        ∀ character ∈
            "\"\\n\" is not a byte value: invalid digit found in string".toList,
          ¬ IsControl character ∧ ¬ EndsLine character := by
  have lineBreak :
      parse "\n" =
        .error "\"\\n\" is not a byte value: invalid digit found in string" := by
    decide +kernel
  have lineBreakEscaped :
      parse "\\n" =
        .error "\"\\\\n\" is not a byte value: invalid digit found in string" := by
    decide +kernel
  exact ⟨⟨lineBreak, lineBreakEscaped⟩,
    complaints_distinct_and_single_line.1 _ _ _ _ lineBreak lineBreakEscaped
      (by decide),
    complaints_distinct_and_single_line.2 _ _ lineBreak⟩

end ByteField.Text.ByteLiteral
