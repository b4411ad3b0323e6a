import ByteField.TabledField

namespace ByteField.Standard

/-!
# The standard field

The field of the default polynomial is at hand everywhere, and its operations
can be used without naming it.
-/

/-- Two generates the field under the default polynomial. -/
theorem isSome_generate_defaultPolynomial :
    (TabledField.generate defaultPolynomial).toOption.isSome = true := by
  decide +kernel

/-- The tables of the default polynomial. -/
def field : TabledField :=
  (TabledField.generate defaultPolynomial).toOption.get
    isSome_generate_defaultPolynomial

/-- The standard field is what the default polynomial generates. -/
theorem generate_defaultPolynomial :
    TabledField.generate defaultPolynomial = .ok field := by
  unfold field
  generalize isSome_generate_defaultPolynomial = isSome
  revert isSome
  cases TabledField.generate defaultPolynomial with
  | ok generated =>
      intro isSome
      rfl
  | error refusal =>
      intro isSome
      cases isSome

/-- The sum of two elements. -/
def add
    (left right : Element) :
    Element :=
  field.arithmetic.add left right

/-- The difference of two elements. -/
def subtract
    (left right : Element) :
    Element :=
  field.arithmetic.subtract left right

/-- The product of two elements. -/
def multiply
    (left right : Element) :
    Element :=
  field.multiply left right

/-- The quotient of two elements. -/
def divide
    (dividend divisor : Element) :
    Except FieldError Element :=
  field.divide dividend divisor

/-- A power of an element. -/
def power
    (base : Element)
    (exponent : UInt32) :
    Element :=
  field.power base exponent

/-- The free operations; what is not offered as one of them is taken from the field. -/
def arithmetic : Arithmetic :=
  { field.arithmetic with
    add := add
    subtract := subtract
    multiply := multiply
    divide := divide
    power := power }

end ByteField.Standard
