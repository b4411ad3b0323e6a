import ByteField.Element
import ByteField.Text.Record
import ByteField.Text.Quoted
import ByteField.Text.Numeral

namespace ByteField

/-!
# What can go wrong in the field

An operation is refused for an argument it has no answer for, and a
polynomial is refused when the powers of the element two repeat too early.
Each error has a sentence for the user and a one-line structural form.
-/

/-- Why an operation or a polynomial is refused. -/
inductive FieldError where
  /-- An operand for which the operation has no result. -/
  | invalidArgument
      (reason : String)
  /-- The power number `log` of two is `element`, which an earlier power was already. -/
  | duplicateLogarithm
      (polynomial element log : Element)
  deriving Repr, DecidableEq

namespace FieldError

/-- Refusal to divide by zero. -/
def zeroDivisor : FieldError :=
  .invalidArgument "divisor is zero"

/-- Refusal to invert zero. -/
def zeroInverse : FieldError :=
  .invalidArgument "zero has no multiplicative inverse"

/-- Refusal to invert an element that no left factor takes to one. -/
def noInverse : FieldError :=
  .invalidArgument "element has no multiplicative inverse under this polynomial"

/-- The sentence shown to the user. -/
def message : FieldError → String
  | .invalidArgument reason =>
      "invalid argument: " ++ reason
  | .duplicateLogarithm polynomial element log =>
      "duplicate logarithm " ++ Text.decimal log.toNat ++
        " for element " ++ Text.decimal element.toNat ++
        " (bad polynomial " ++ Text.decimal polynomial.toNat ++ "?)"

/-- The structural form, with every part of the error under its own name. -/
def describe : FieldError → String
  | .invalidArgument reason =>
      Text.tuple "InvalidArgument" [Text.quoted reason]
  | .duplicateLogarithm polynomial element log =>
      Text.record "DuplicateLogarithm"
        [("polynomial", Text.decimal polynomial.toNat),
          ("element", Text.decimal element.toNat),
          ("log", Text.decimal log.toNat)]

end FieldError

end ByteField
