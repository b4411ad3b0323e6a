import ByteField.Element
import ByteField.FieldError

namespace ByteField

/-!
# Arithmetics and what a multiplication alone determines

An `Arithmetic` is a choice of all field operations on bytes.  Given only a
multiplication, of which nothing is assumed, the remaining operations are
derived from it: an inverse is searched for among the left factors, a quotient
is a product with an inverse, and a power is a repeated product whose
exponent is first reduced modulo the order of the multiplicative group.
-/

/-- A choice of the operations of a field on bytes. -/
@[ext]
structure Arithmetic where
  zero : Element
  one : Element
  add : Element → Element → Element
  subtract : Element → Element → Element
  negate : Element → Element
  multiply : Element → Element → Element
  divide : Element → Element → Except FieldError Element
  power : Element → UInt32 → Element
  inverse : Element → Except FieldError Element

namespace Arithmetic

/-- The product of a number of copies of one element, each new copy standing on the right. -/
def productOfCopies
    (multiply : Element → Element → Element)
    (element : Element) :
    Nat → Element
  | 0 => 1
  | count + 1 =>
      multiply (productOfCopies multiply element count) element

@[simp] theorem productOfCopies_zero
    (multiply : Element → Element → Element)
    (element : Element) :
    productOfCopies multiply element 0 = 1 :=
  rfl

theorem productOfCopies_succ
    (multiply : Element → Element → Element)
    (element : Element)
    (count : Nat) :
    productOfCopies multiply element (count + 1) =
      multiply (productOfCopies multiply element count) element :=
  rfl

/-- The least left factor that takes a nonzero element to one. -/
def leastLeftInverse
    (multiply : Element → Element → Element)
    (element : Element) :
    Except FieldError Element :=
  if element = 0 then
    .error .zeroInverse
  else
    match nonzeroElements.find? fun candidate => multiply candidate element == 1 with
    | some inverse => .ok inverse
    | none => .error .noInverse

/-- The product of the dividend, on the left, with the inverse of the divisor. -/
def quotientByInverse
    (multiply : Element → Element → Element)
    (dividend divisor : Element) :
    Except FieldError Element :=
  if divisor = 0 then
    .error .zeroDivisor
  else
    match leastLeftInverse multiply divisor with
    | .ok inverse => .ok (multiply dividend inverse)
    | .error refusal => .error refusal

/--
A power by repeated multiplication.

The exponent counts modulo the order of the group of nonzero elements, so a
positive multiple of that order gives one for every nonzero base.
-/
def reducedPower
    (multiply : Element → Element → Element)
    (base : Element)
    (exponent : UInt32) :
    Element :=
  if exponent = 0 then
    1
  else if base = 0 then
    0
  else
    productOfCopies multiply base (exponent.toNat % multiplicativeOrder)

/-- The arithmetic in which everything is derived from a multiplication. -/
def ofMultiplication
    (multiply : Element → Element → Element) :
    Arithmetic where
  zero := 0
  one := 1
  add := sum
  subtract := sum
  negate := id
  multiply := multiply
  divide := quotientByInverse multiply
  power := reducedPower multiply
  inverse := leastLeftInverse multiply

@[simp] theorem ofMultiplication_multiply
    (multiply : Element → Element → Element) :
    (ofMultiplication multiply).multiply = multiply :=
  rfl

@[simp] theorem ofMultiplication_divide
    (multiply : Element → Element → Element) :
    (ofMultiplication multiply).divide = quotientByInverse multiply :=
  rfl

@[simp] theorem ofMultiplication_power
    (multiply : Element → Element → Element) :
    (ofMultiplication multiply).power = reducedPower multiply :=
  rfl

@[simp] theorem ofMultiplication_inverse
    (multiply : Element → Element → Element) :
    (ofMultiplication multiply).inverse = leastLeftInverse multiply :=
  rfl

end Arithmetic

end ByteField
