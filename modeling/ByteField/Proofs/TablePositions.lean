import ByteField.Proofs.GuardedLookup

namespace ByteField

/-!
# The range of every position

A walk that is not yet over stands on an element and has counted to 254 at most,
whether it will be completed or refused.  All logarithms it notes are therefore
at most 254, and each operation stays in the table of powers by a reason of its
own: a sum of two logarithms is at most 508, a difference is corrected once, a
complement is at least one, and a multiple, which a 64-bit word holds, is
reduced.  What stands at these positions is a power of two and so never zero.
-/

namespace Walk

/-- What a walk works with at a step fits its place, as a position, a byte and a word. -/
structure InRange
    (polynomial : Element)
    (walk : Walk) :
    Prop where
  element_lt :
    walk.element < 256
  doublings_lt :
    walk.doublings < 255
  toNat_ofNat_element :
    (UInt8.ofNat walk.element).toNat = walk.element
  toNat_ofNat_doublings :
    (UInt8.ofNat walk.doublings).toNat = walk.doublings
  shifted_lt :
    walk.element <<< 1 < 512
  double_lt :
    double polynomial walk.element < 256
  /-- No mark is looked up or set, and no number noted, at a position that the tables lack. -/
  advance_eq :
    Guarded.advance polynomial walk = .ok (walk.advance polynomial)

/-- Doubling stays among the elements. -/
theorem double_lt
    (polynomial : Element)
    {element : Nat}
    (byte : element < 256) :
    double polynomial element < 256 := by
  rw [← UInt8.toNat_ofNat_of_lt' byte, double_toNat]
  exact UInt8.toNat_lt _

/-- At each of its first 255 steps a walk works within range, refused or not. -/
theorem inRange_of_after
    {polynomial : Element}
    {count : Nat}
    {walk : Walk}
    (below : count < 255)
    (reached : after polynomial count = .ok walk) :
    walk.InRange polynomial := by
  have byte : walk.element < 256 :=
    Guarded.element_lt_of_after reached
  have counted : walk.doublings = count :=
    doublings_of_after reached
  constructor
  case element_lt =>
    exact byte
  case doublings_lt =>
    rw [counted]
    exact below
  case toNat_ofNat_element =>
    exact UInt8.toNat_ofNat_of_lt' byte
  case toNat_ofNat_doublings =>
    rw [counted]
    exact toNat_ofNat_of_lt_order below
  case shifted_lt =>
    rw [Nat.shiftLeft_eq]
    omega
  case double_lt =>
    exact double_lt polynomial byte
  case advance_eq =>
    exact Guarded.advance_eq polynomial byte

end Walk

namespace TabledField

/-- An element stands at a position of the table of powers, and it is not zero. -/
def Finds
    (field : TabledField)
    (position : Nat)
    (element : Element) :
    Prop :=
  field.powers.powerAt position = .ok element ∧ element ≠ 0

/-- What the operations of a field work with fits its place, as a position and as a word. -/
structure InRange
    (field : TabledField) :
    Prop where
  slot_le :
    ∀ element, element ≠ 0 → field.logarithms.slot element ≤ 254
  /-- The positions at which the powers were entered. -/
  position_le :
    ∀ entry ∈ PowerTable.entries field.logarithms, entry.1 ≤ 509
  product :
    ∀ left right, left ≠ 0 → right ≠ 0 →
      field.productIndex left right ≤ 508 ∧
        field.Finds (field.productIndex left right)
          (field.multiply left right)
  quotient :
    ∀ dividend divisor, dividend ≠ 0 → divisor ≠ 0 →
      0 ≤ field.quotientIndex dividend divisor ∧
        field.quotientIndex dividend divisor ≤ 254 ∧
        ∃ quotient,
          field.divide dividend divisor = .ok quotient ∧
            field.Finds (field.quotientIndex dividend divisor).toNat quotient
  power :
    ∀ base (exponent : UInt32), base ≠ 0 →
      field.logarithms.slot base * exponent.toNat < 2 ^ 64 ∧
        (field.powerIndex base exponent).toNat =
          field.logarithms.slot base * exponent.toNat % 255 ∧
        (field.powerIndex base exponent).toNat ≤ 254 ∧
        field.Finds (field.powerIndex base exponent).toNat
          (field.power base exponent)
  inverse :
    ∀ element, element ≠ 0 →
      field.inverseIndex element + field.logarithms.slot element = 255 ∧
        1 ≤ field.inverseIndex element ∧
        field.inverseIndex element ≤ 255 ∧
        ∃ inverse,
          field.inverse element = .ok inverse ∧
            field.Finds (field.inverseIndex element) inverse
  /-- With any operands, zero included, the operations under guard never stop. -/
  multiply_eq :
    ∀ left right,
      Guarded.multiply field left right = .ok (field.multiply left right)
  divide_eq :
    ∀ dividend divisor,
      Guarded.divide field dividend divisor =
        .ok (field.divide dividend divisor)
  power_eq :
    ∀ base exponent,
      Guarded.power field base exponent = .ok (field.power base exponent)
  inverse_eq :
    ∀ element,
      Guarded.inverse field element = .ok (field.inverse element)

namespace Tabulates

variable {field : TabledField} {polynomial : Element}

theorem slot_le
    (tabulates : field.Tabulates polynomial)
    {element : Element}
    (nonzero : element ≠ 0) :
    field.logarithms.slot element ≤ 254 :=
  Nat.le_of_lt_succ (tabulates.inverts.faithful.slot_lt nonzero)

/-- At every position of the table of powers stands a power of two, which is not zero. -/
theorem finds
    (tabulates : field.Tabulates polynomial)
    {position : Nat}
    (inside : position < powerTableSize) :
    field.Finds position (field.powers.power position) := by
  refine ⟨PowerTable.powerAt_of_lt _ inside, ?_⟩
  rw [tabulates.power_eq inside]
  exact tabulates.inverts.generates.powerOfTwo_ne_zero position

theorem finds_product
    (tabulates : field.Tabulates polynomial)
    {left right : Element}
    (leftNonzero : left ≠ 0)
    (rightNonzero : right ≠ 0) :
    field.productIndex left right ≤ 508 ∧
      field.Finds (field.productIndex left right)
        (field.multiply left right) := by
  have small := Guarded.productIndex_le tabulates leftNonzero rightNonzero
  have inside : field.productIndex left right < powerTableSize :=
    Nat.lt_of_le_of_lt small (by decide)
  refine ⟨small, ?_⟩
  rw [multiply, if_neg (not_or.mpr ⟨leftNonzero, rightNonzero⟩)]
  exact tabulates.finds inside

theorem finds_quotient
    (tabulates : field.Tabulates polynomial)
    {dividend divisor : Element}
    (dividendNonzero : dividend ≠ 0)
    (divisorNonzero : divisor ≠ 0) :
    0 ≤ field.quotientIndex dividend divisor ∧
      field.quotientIndex dividend divisor ≤ 254 ∧
      ∃ quotient,
        field.divide dividend divisor = .ok quotient ∧
          field.Finds (field.quotientIndex dividend divisor).toNat
            quotient := by
  obtain ⟨nonnegative, below⟩ :=
    Guarded.quotientIndex_bounds tabulates dividendNonzero divisorNonzero
  have inside :
      (field.quotientIndex dividend divisor).toNat < powerTableSize :=
    (Int.toNat_lt nonnegative).mpr (Int.lt_trans below (by decide))
  refine ⟨nonnegative, Int.le_of_lt_add_one below, _, ?_, tabulates.finds inside⟩
  rw [divide, if_neg divisorNonzero, if_neg dividendNonzero]

theorem finds_power
    (tabulates : field.Tabulates polynomial)
    {base : Element}
    (nonzero : base ≠ 0)
    (exponent : UInt32) :
    (field.powerIndex base exponent).toNat ≤ 254 ∧
      field.Finds (field.powerIndex base exponent).toNat
        (field.power base exponent) := by
  have position := tabulates.toNat_powerIndex nonzero exponent
  have small : (field.powerIndex base exponent).toNat ≤ 254 := by
    rw [position]
    exact Nat.le_of_lt_succ (Nat.mod_lt _ (by decide))
  have inside : (field.powerIndex base exponent).toNat < powerTableSize :=
    Nat.lt_of_le_of_lt small (by decide)
  refine ⟨small, ?_⟩
  by_cases exponentZero : exponent = 0
  · -- Nothing is looked up for the exponent zero, yet its position holds the result, too.
    have isOne :
        field.powers.power (field.powerIndex base exponent).toNat =
          field.power base exponent := by
      rw [power, if_pos exponentZero, tabulates.power_eq inside, position,
        exponentZero]
      simp [powerOfTwo]
    rw [← isOne]
    exact tabulates.finds inside
  · rw [power, if_neg exponentZero, if_neg nonzero]
    exact tabulates.finds inside

theorem finds_inverse
    (tabulates : field.Tabulates polynomial)
    {element : Element}
    (nonzero : element ≠ 0) :
    field.inverseIndex element + field.logarithms.slot element = 255 ∧
      1 ≤ field.inverseIndex element ∧
      field.inverseIndex element ≤ 255 ∧
      ∃ inverse,
        field.inverse element = .ok inverse ∧
          field.Finds (field.inverseIndex element) inverse := by
  have small := tabulates.slot_le nonzero
  have complement :
      field.inverseIndex element + field.logarithms.slot element = 255 := by
    unfold inverseIndex multiplicativeOrder
    omega
  have inside : field.inverseIndex element < powerTableSize := by
    unfold powerTableSize
    omega
  refine ⟨complement, by omega, by omega, _, ?_, tabulates.finds inside⟩
  rw [inverse, if_neg nonzero]

theorem position_le
    (tabulates : field.Tabulates polynomial)
    {entry : Nat × Element}
    (entered : entry ∈ PowerTable.entries field.logarithms) :
    entry.1 ≤ 509 :=
  Nat.le_of_lt_succ
    (PowerTable.position_lt_of_mem_entries tabulates.inverts.faithful entered)

/-- A field with tables of its own works within range. -/
theorem inRange
    (tabulates : field.Tabulates polynomial) :
    field.InRange where
  slot_le _ nonzero :=
    tabulates.slot_le nonzero
  position_le _ entered :=
    tabulates.position_le entered
  product _ _ leftNonzero rightNonzero :=
    tabulates.finds_product leftNonzero rightNonzero
  quotient _ _ dividendNonzero divisorNonzero :=
    tabulates.finds_quotient dividendNonzero divisorNonzero
  power _ exponent nonzero :=
    ⟨tabulates.slot_mul_lt nonzero exponent,
      tabulates.toNat_powerIndex nonzero exponent,
      tabulates.finds_power nonzero exponent⟩
  inverse _ nonzero :=
    tabulates.finds_inverse nonzero
  multiply_eq :=
    Guarded.multiply_eq tabulates
  divide_eq :=
    Guarded.divide_eq tabulates
  power_eq :=
    Guarded.power_eq tabulates
  inverse_eq :=
    Guarded.inverse_eq tabulates

end Tabulates

end TabledField

/--
Under every polynomial each step of the walk works within range, also before a
refusal, and building the tables under guard never stops.  If there are tables,
every operation works within range: the positions it computes lie in the table
of powers, and no operand but zero is answered from a position that holds zero.
-/
theorem positions_inRange
    (polynomial : Element) :
    (∀ count < 255, ∀ walk,
        Walk.after polynomial count = .ok walk → walk.InRange polynomial) ∧
      Guarded.field polynomial = .ok (TabledField.generate polynomial) ∧
      ∀ field,
        TabledField.generate polynomial = .ok field → field.InRange := by
  refine ⟨?_, Guarded.field_eq polynomial, ?_⟩
  · intro count below walk reached
    exact Walk.inRange_of_after below reached
  · intro field generated
    exact (TabledField.tabulates_of_generate generated).inRange

/--
Under the default polynomial the inverse 142 of two has the largest logarithm, so
its square stands at position 508.
-/
theorem positions_inRange_standard :
    Walk.start.InRange defaultPolynomial ∧
      Standard.field.InRange ∧
      Standard.field.productIndex 142 142 = 508 ∧
      Standard.field.Finds 508 (Standard.multiply 142 142) := by
  have range := positions_inRange defaultPolynomial
  have start := range.1 0 (by decide) _ rfl
  have field := range.2.2 _ Standard.generate_defaultPolynomial
  have tabulates :=
    TabledField.tabulates_of_generate Standard.generate_defaultPolynomial
  have isPower : (142 : Element) = powerOfTwo defaultPolynomial 254 := by
    decide +kernel
  have slot : Standard.field.logarithms.slot 142 = 254 := by
    rw [isPower]
    exact tabulates.inverts.slot_powerOfTwo (by decide)
  have largest : Standard.field.productIndex 142 142 = 508 := by
    rw [TabledField.productIndex, slot]
  have found := (field.product 142 142 (by decide) (by decide)).2
  rw [largest] at found
  exact ⟨start, field, largest, found⟩

end ByteField
