namespace ByteField.Text

/-!
# Numerals within bounds

A numeral is an optional sign and one or more digits, leading zeros allowed.
It is read from left to right, and the first position at which it goes wrong
decides the complaint: a character that is no digit of the radix, or a digit
with which the value leaves its bounds.
-/

/-- Why a text is no numeral within its bounds. -/
inductive NumeralFault where
  | empty
  | invalidDigit
  | tooLarge
  | tooSmall
  deriving Repr, DecidableEq

/-- The complaint shown to the user. -/
def NumeralFault.message : NumeralFault → String
  | .empty => "cannot parse integer from empty string"
  | .invalidDigit => "invalid digit found in string"
  | .tooLarge => "number too large to fit in target type"
  | .tooSmall => "number too small to fit in target type"

namespace Numeral

/-- The value of a digit or letter of the basic Latin alphabet, counting letters from ten. -/
def symbolValue?
    (character : Char) :
    Option Nat :=
  if '0' ≤ character ∧ character ≤ '9' then
    some (character.toNat - '0'.toNat)
  else if 'a' ≤ character ∧ character ≤ 'z' then
    some (character.toNat - 'a'.toNat + 10)
  else if 'A' ≤ character ∧ character ≤ 'Z' then
    some (character.toNat - 'A'.toNat + 10)
  else
    none

/-- The value of a digit of the given radix. -/
def digitValue?
    (radix : Nat)
    (character : Char) :
    Option Nat :=
  (symbolValue? character).filter (· < radix)

/--
Read further digits behind a value already read.

At each position the digit is judged before the bound, and a value past the
bound is met with the given complaint.
-/
def readDigits
    (radix bound : Nat)
    (pastBound : NumeralFault) :
    Nat → List Char → Except NumeralFault Nat
  | value, [] => .ok value
  | value, character :: rest =>
      match digitValue? radix character with
      | none => .error .invalidDigit
      | some digit =>
          if bound < value * radix + digit then
            .error pastBound
          else
            readDigits radix bound pastBound (value * radix + digit) rest

/-- Read a numeral without a minus sign and at most `bound`; one plus sign may precede it. -/
def readUnsigned
    (radix bound : Nat) :
    List Char → Except NumeralFault Nat
  | [] => .error .empty
  | ['+'] => .error .invalidDigit
  | '+' :: digits => readDigits radix bound .tooLarge 0 digits
  | digits => readDigits radix bound .tooLarge 0 digits

/-- Read a numeral from `-lowest` to `highest`; one sign may precede it. -/
def readSigned
    (radix lowest highest : Nat) :
    List Char → Except NumeralFault Int
  | [] => .error .empty
  | ['+'] => .error .invalidDigit
  | ['-'] => .error .invalidDigit
  | '+' :: digits =>
      (readDigits radix highest .tooLarge 0 digits).map Int.ofNat
  | '-' :: digits =>
      (readDigits radix lowest .tooSmall 0 digits).map fun value => -Int.ofNat value
  | digits =>
      (readDigits radix highest .tooLarge 0 digits).map Int.ofNat

end Numeral

/-- The decimal numeral of a number, without leading zeros. -/
def decimal
    (number : Nat) :
    String :=
  String.ofList (Nat.toDigits 10 number)

/-- The decimal numeral of an integer, with a minus sign if it is negative. -/
def signedDecimal
    (number : Int) :
    String :=
  if number < 0 then "-" ++ decimal number.natAbs else decimal number.natAbs

end ByteField.Text
