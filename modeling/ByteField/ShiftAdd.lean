import ByteField.Arithmetic

namespace ByteField

/-!
# Multiplication by shifting and adding

The product of two polynomials is the sum of the shifted copies of the left
one that the coefficients of the right one select.  Each shift is reduced at
once, so no intermediate value leaves the byte.
-/

namespace ShiftAdd

/-- The product with `X`: a term pushed out at the top is replaced by the polynomial. -/
def double
    (polynomial element : Element) :
    Element :=
  let shifted := element <<< 1
  if element &&& 0x80 = 0 then shifted else shifted ^^^ polynomial

/-- Add the shifted left factor if the lowest coefficient of the right one is set. -/
def select
    (accumulated left right : Element) :
    Element :=
  if right &&& 1 = 0 then accumulated else accumulated ^^^ left

/--
The given number of shift-and-add rounds, started from an accumulated sum.

Rounds end early when no coefficient of the right factor is left, since the
remaining ones would add nothing.
-/
def rounds
    (polynomial : Element) :
    Nat → Element → Element → Element → Element
  | 0, accumulated, _, _ => accumulated
  | count + 1, accumulated, left, right =>
      let added := select accumulated left right
      let remaining := right >>> 1
      if remaining = 0 then
        added
      else
        rounds polynomial count added (double polynomial left) remaining

/-- Where no coefficient of the right factor is left, any number of rounds adds nothing. -/
theorem rounds_zero_right
    (polynomial : Element)
    (count : Nat)
    (accumulated left : Element) :
    rounds polynomial count accumulated left 0 = accumulated := by
  cases count with
  | zero =>
      rfl
  | succ count =>
      simp [rounds, select]

/-- A round that ends early leaves the sum that going on would have left. -/
theorem rounds_succ
    (polynomial : Element)
    (count : Nat)
    (accumulated left right : Element) :
    rounds polynomial (count + 1) accumulated left right =
      rounds polynomial count (select accumulated left right)
        (double polynomial left) (right >>> 1) := by
  by_cases exhausted : right >>> 1 = 0
  · simp [rounds, exhausted, rounds_zero_right]
  · simp [rounds, exhausted]

/-- The product modulo `X ^ 8 + polynomial`. -/
def multiply
    (polynomial left right : Element) :
    Element :=
  rounds polynomial 8 0 left right

end ShiftAdd

/-- A residue ring computed without tables; every polynomial is admitted, reducible ones too. -/
structure ShiftAddField where
  polynomial : Element
  deriving Repr, DecidableEq

namespace ShiftAddField

/-- The residue ring of the default polynomial. -/
def standard : ShiftAddField :=
  ⟨defaultPolynomial⟩

/-- The operations of the residue ring, all derived from its multiplication. -/
def arithmetic
    (field : ShiftAddField) :
    Arithmetic :=
  .ofMultiplication (ShiftAdd.multiply field.polynomial)

@[simp] theorem arithmetic_zero
    (field : ShiftAddField) :
    field.arithmetic.zero = 0 :=
  rfl

@[simp] theorem arithmetic_one
    (field : ShiftAddField) :
    field.arithmetic.one = 1 :=
  rfl

@[simp] theorem arithmetic_multiply
    (field : ShiftAddField) :
    field.arithmetic.multiply = ShiftAdd.multiply field.polynomial :=
  rfl

/-- The structural one-line form. -/
def describe
    (field : ShiftAddField) :
    String :=
  Text.record "DirectField" [("polynomial", Text.decimal field.polynomial.toNat)]

end ShiftAddField

end ByteField
