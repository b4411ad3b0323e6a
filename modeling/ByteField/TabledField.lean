import ByteField.Arithmetic
import ByteField.PowerTable

namespace ByteField

/-!
# Arithmetic by table lookup

With the logarithms at hand, a product is a power of two at a sum of
logarithms, a quotient at a difference, an inverse at a complement and a power
at a multiple.  For each operation the position is a definition of its own,
and zero, which has no logarithm, is dealt with before.
-/

/-- A polynomial under which two generates the field, with the tables it gives rise to. -/
structure TabledField where
  polynomial : Element
  logarithms : LogarithmTable
  powers : PowerTable
  deriving Repr, DecidableEq

namespace TabledField

/-- The tables of a polynomial, if two generates the field under it. -/
def generate
    (polynomial : Element) :
    Except FieldError TabledField :=
  match LogarithmTable.generate polynomial with
  | .ok logarithms =>
      .ok {
        polynomial := polynomial
        logarithms := logarithms
        powers := PowerTable.ofLogarithms logarithms
      }
  | .error refusal => .error refusal

/-- The parts of a generated field. -/
theorem generate_eq_ok_iff
    {polynomial : Element}
    {field : TabledField} :
    generate polynomial = .ok field ↔
      field.polynomial = polynomial ∧
        LogarithmTable.generate polynomial = .ok field.logarithms ∧
        field.powers = PowerTable.ofLogarithms field.logarithms := by
  unfold generate
  cases LogarithmTable.generate polynomial with
  | error refusal =>
      simp
  | ok logarithms =>
      constructor
      · rintro generated
        cases generated
        exact ⟨rfl, rfl, rfl⟩
      · rintro ⟨rfl, same, powers⟩
        cases same
        dsimp only
        rw [← powers]

/-- A polynomial is refused for the reason that it has no table of logarithms for. -/
theorem generate_eq_error_iff
    {polynomial : Element}
    {refusal : FieldError} :
    generate polynomial = .error refusal ↔
      LogarithmTable.generate polynomial = .error refusal := by
  unfold generate
  cases LogarithmTable.generate polynomial <;> simp

/-- A polynomial has a field exactly if it has a table of logarithms. -/
theorem exists_generate_iff
    (polynomial : Element) :
    (∃ field, generate polynomial = .ok field) ↔
      ∃ logarithms, LogarithmTable.generate polynomial = .ok logarithms := by
  constructor
  · rintro ⟨field, generated⟩
    exact ⟨_, (generate_eq_ok_iff.mp generated).2.1⟩
  · rintro ⟨logarithms, generated⟩
    exact ⟨⟨polynomial, logarithms, PowerTable.ofLogarithms logarithms⟩,
      generate_eq_ok_iff.mpr ⟨rfl, generated, rfl⟩⟩

/-- The position of the product of two nonzero elements. -/
def productIndex
    (field : TabledField)
    (left right : Element) :
    Nat :=
  field.logarithms.slot left + field.logarithms.slot right

/-- The difference of two logarithms, moved up by the group order if it is negative. -/
def quotientIndex
    (field : TabledField)
    (dividend divisor : Element) :
    Int :=
  let difference : Int :=
    field.logarithms.slot dividend - field.logarithms.slot divisor
  if difference < 0 then
    difference + multiplicativeOrder
  else
    difference

/-- The position of a power of a nonzero element, counted in 64-bit words. -/
def powerIndex
    (field : TabledField)
    (base : Element)
    (exponent : UInt32) :
    UInt64 :=
  UInt64.ofNat (field.logarithms.slot base) * exponent.toUInt64 %
    UInt64.ofNat multiplicativeOrder

/-- The position of the inverse of a nonzero element. -/
def inverseIndex
    (field : TabledField)
    (element : Element) :
    Nat :=
  multiplicativeOrder - field.logarithms.slot element

/-- The product of two elements. -/
def multiply
    (field : TabledField)
    (left right : Element) :
    Element :=
  if left = 0 ∨ right = 0 then
    0
  else
    field.powers.power (field.productIndex left right)

/-- The quotient of two elements; the divisor is judged before the dividend. -/
def divide
    (field : TabledField)
    (dividend divisor : Element) :
    Except FieldError Element :=
  if divisor = 0 then
    .error .zeroDivisor
  else if dividend = 0 then
    .ok 0
  else
    .ok (field.powers.power (field.quotientIndex dividend divisor).toNat)

/-- A power of an element; the empty product is one, also for the base zero. -/
def power
    (field : TabledField)
    (base : Element)
    (exponent : UInt32) :
    Element :=
  if exponent = 0 then
    1
  else if base = 0 then
    0
  else
    field.powers.power (field.powerIndex base exponent).toNat

/-- The inverse of an element. -/
def inverse
    (field : TabledField)
    (element : Element) :
    Except FieldError Element :=
  if element = 0 then
    .error .zeroInverse
  else
    .ok (field.powers.power (field.inverseIndex element))

/-- The operations by table lookup. -/
def arithmetic
    (field : TabledField) :
    Arithmetic where
  zero := 0
  one := 1
  add := sum
  subtract := sum
  negate := id
  multiply := field.multiply
  divide := field.divide
  power := field.power
  inverse := field.inverse

/-- The structural one-line form, with every slot of both tables. -/
def describe
    (field : TabledField) :
    String :=
  let byte (value : UInt8) : String :=
    Text.decimal value.toNat
  Text.record "ExpLogField"
    [("polynomial", byte field.polynomial),
      ("log",
        Text.record "LogTable"
          [("logs", Text.sequence (field.logarithms.slots.toList.map byte))]),
      ("exp",
        Text.record "ExpTable"
          [("exps", Text.sequence (field.powers.powers.map byte))])]

end TabledField

end ByteField
