import ByteField.Command.Invocation
import ByteField.Proofs.Numerals

namespace ByteField.Text

/-!
# Decimal numerals are read back

The digits of a number are one of its numerals, so they are read as that number
as long as the bound lets it through.  The first of them is no sign; a signed
numeral that begins with a digit is therefore read as its digits are, and the
numeral of an exponent as that exponent.
-/

namespace Numeral

/-- The digits of a number within the bound are read as that number. -/
theorem readDigits_toDigits
    {bound number : Nat}
    (pastBound : NumeralFault)
    (within : number ≤ bound) :
    readDigits 10 bound pastBound 0 (Nat.toDigits 10 number) =
      .ok number :=
  (readDigits_zero_eq_ok_iff (by decide) Nat.toDigits_ne_nil).mpr
    ⟨writesDigits_toDigits (by decide) number, within⟩

/-- The numeral of a number begins with a digit. -/
theorem exists_toDigits_eq_cons
    (number : Nat) :
    ∃ first rest,
      Nat.toDigits 10 number = first :: rest ∧ first.isDigit := by
  cases digits : Nat.toDigits 10 number with
  | nil =>
      exact (Nat.toDigits_ne_nil digits).elim
  | cons first rest =>
      refine ⟨first, rest, rfl, ?_⟩
      apply Nat.isDigit_of_mem_toDigits (b := 10) (n := number)
        (by decide) (by decide)
      rw [digits]
      exact List.mem_cons_self

/-- A signed numeral that begins with a digit is read as its digits are. -/
theorem readSigned_of_isDigit
    (radix lowest highest : Nat)
    {first : Char}
    (rest : List Char)
    (digit : first.isDigit) :
    readSigned radix lowest highest (first :: rest) =
      (readDigits radix highest .tooLarge 0 (first :: rest)).map
        Int.ofNat := by
  have notPlus : first ≠ '+' := by
    rintro rfl
    revert digit
    decide
  have notMinus : first ≠ '-' := by
    rintro rfl
    revert digit
    decide
  unfold readSigned
  split <;> simp_all

end Numeral

/-- Different numbers have different numerals. -/
theorem decimal_injective :
    Function.Injective decimal := by
  intro first second same
  have sameDigits :
      Nat.toDigits 10 first = Nat.toDigits 10 second :=
    String.ofList_injective same
  have readFirst :=
    Numeral.readDigits_toDigits .tooLarge (Nat.le_max_left first second)
  have readSecond :=
    Numeral.readDigits_toDigits .tooLarge (Nat.le_max_right first second)
  rw [sameDigits, readSecond] at readFirst
  exact (Except.ok.inj readFirst).symm

end ByteField.Text

namespace ByteField.Command

open Text.Numeral in
/-- The decimal numeral of an exponent is read as that exponent. -/
theorem readExponent_decimal
    (exponent : UInt32) :
    readExponent (Text.decimal exponent.toNat) = .ok exponent := by
  have below := exponent.toNat_lt
  obtain ⟨first, rest, digits, isDigit⟩ :=
    exists_toDigits_eq_cons exponent.toNat
  have read :
      readSigned 10 0x8000000000000000 0x7FFFFFFFFFFFFFFF
          (Text.decimal exponent.toNat).toList =
        .ok (Int.ofNat exponent.toNat) := by
    rw [Text.decimal, String.toList_ofList, digits,
      readSigned_of_isDigit _ _ _ rest isDigit, ← digits,
      readDigits_toDigits _ (by omega)]
    rfl
  have inRange :
      0 ≤ Int.ofNat exponent.toNat ∧
        Int.ofNat exponent.toNat ≤ largestExponent := by
    unfold largestExponent
    constructor
    · exact Int.natCast_nonneg exponent.toNat
    · exact Int.ofNat_le.mpr (Nat.le_of_lt_succ below)
  unfold readExponent
  rw [read]
  simp only [inRange, and_self, if_true]
  exact congrArg Except.ok UInt32.ofNat_toNat

end ByteField.Command
