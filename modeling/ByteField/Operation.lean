import ByteField.Arithmetic

namespace ByteField

/-!
# Single operations

An operation of an arithmetic together with its operands.  The operands may
be elements, and then the operation has a result; or they may be places where
elements are found, and then the operation can be moved from there to the
elements.
-/

/-- One operation with its operands; an exponent is a number or taken from an operand. -/
inductive Operation (Operand : Type) where
  | zero
  | one
  | constant (value : Element)
  | negate (operand : Operand)
  | inverse (operand : Operand)
  | add (left right : Operand)
  | subtract (left right : Operand)
  | multiply (left right : Operand)
  | divide (dividend divisor : Operand)
  | power (base : Operand) (exponent : UInt32)
  | powerOf (base exponent : Operand)
  deriving Repr, DecidableEq

namespace Operation

/-- The same operation on operands looked up elsewhere. -/
def map
    {First Second : Type}
    (lookup : First → Second) :
    Operation First → Operation Second
  | .zero => .zero
  | .one => .one
  | .constant value => .constant value
  | .negate operand => .negate (lookup operand)
  | .inverse operand => .inverse (lookup operand)
  | .add left right => .add (lookup left) (lookup right)
  | .subtract left right => .subtract (lookup left) (lookup right)
  | .multiply left right => .multiply (lookup left) (lookup right)
  | .divide dividend divisor => .divide (lookup dividend) (lookup divisor)
  | .power base exponent => .power (lookup base) exponent
  | .powerOf base exponent => .powerOf (lookup base) (lookup exponent)

/-- The result of an operation on elements. -/
def evaluate
    (arithmetic : Arithmetic) :
    Operation Element → Except FieldError Element
  | .zero => .ok arithmetic.zero
  | .one => .ok arithmetic.one
  | .constant value => .ok value
  | .negate operand => .ok (arithmetic.negate operand)
  | .inverse operand => arithmetic.inverse operand
  | .add left right => .ok (arithmetic.add left right)
  | .subtract left right => .ok (arithmetic.subtract left right)
  | .multiply left right => .ok (arithmetic.multiply left right)
  | .divide dividend divisor => arithmetic.divide dividend divisor
  | .power base exponent => .ok (arithmetic.power base exponent)
  | .powerOf base exponent => .ok (arithmetic.power base exponent.toUInt32)

end Operation

end ByteField
