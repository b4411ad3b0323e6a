import ByteField.Proofs.Inverses
import ByteField.Proofs.Residue

namespace ByteField

/-!
# Laws of the residue ring

Elements are added and multiplied as their residues are, and different
elements have different residues.  So under every polynomial the elements obey
the laws of a commutative ring in which twice anything is zero.
-/

theorem sum_comm
    (left right : Element) :
    sum left right = sum right left :=
  UInt8.xor_comm left right

theorem sum_assoc
    (first second third : Element) :
    sum (sum first second) third = sum first (sum second third) :=
  UInt8.xor_assoc first second third

theorem sum_zero
    (element : Element) :
    sum element 0 = element :=
  UInt8.xor_zero

theorem sum_self
    (element : Element) :
    sum element element = 0 :=
  UInt8.xor_self

namespace ShiftAdd

theorem multiply_comm
    (polynomial left right : Element) :
    multiply polynomial left right = multiply polynomial right left := by
  apply residue_injective polynomial
  rw [residue_multiply, residue_multiply, mul_comm]

theorem multiply_assoc
    (polynomial first second third : Element) :
    multiply polynomial (multiply polynomial first second) third =
      multiply polynomial first (multiply polynomial second third) := by
  apply residue_injective polynomial
  simp only [residue_multiply, mul_assoc]

/-- Multiplication distributes over sums. -/
theorem multiply_sum
    (polynomial factor left right : Element) :
    multiply polynomial factor (sum left right) =
      sum (multiply polynomial factor left)
        (multiply polynomial factor right) := by
  apply residue_injective polynomial
  simp only [residue_multiply, residue_sum, mul_add]

theorem multiply_one
    (polynomial element : Element) :
    multiply polynomial element 1 = element := by
  apply residue_injective polynomial
  rw [residue_multiply, residue_one, mul_one]

theorem multiply_zero
    (polynomial element : Element) :
    multiply polynomial element 0 = 0 := by
  apply residue_injective polynomial
  rw [residue_multiply, residue_zero, mul_zero]

theorem zero_multiply
    (polynomial element : Element) :
    multiply polynomial 0 element = 0 := by
  rw [multiply_comm, multiply_zero]

/-- Residues are multiplied by the laws of a multiplication with one and zero. -/
theorem monoidWithZeroLaws
    (polynomial : Element) :
    MonoidWithZeroLaws (multiply polynomial) where
  multiply_assoc := multiply_assoc polynomial
  one_multiply := by
    intro element
    rw [multiply_comm, multiply_one]
  multiply_one := multiply_one polynomial
  zero_multiply := zero_multiply polynomial
  multiply_zero := multiply_zero polynomial

end ShiftAdd

/-- The laws of a commutative ring of characteristic two, as statements about an arithmetic. -/
structure RingLaws
    (arithmetic : Arithmetic) :
    Prop where
  add_assoc :
    ∀ first second third,
      arithmetic.add (arithmetic.add first second) third =
        arithmetic.add first (arithmetic.add second third)
  add_comm :
    ∀ left right, arithmetic.add left right = arithmetic.add right left
  add_zero :
    ∀ element, arithmetic.add element arithmetic.zero = element
  add_negate :
    ∀ element,
      arithmetic.add element (arithmetic.negate element) = arithmetic.zero
  subtract_eq :
    ∀ left right,
      arithmetic.subtract left right =
        arithmetic.add left (arithmetic.negate right)
  multiply_assoc :
    ∀ first second third,
      arithmetic.multiply (arithmetic.multiply first second) third =
        arithmetic.multiply first (arithmetic.multiply second third)
  multiply_comm :
    ∀ left right,
      arithmetic.multiply left right = arithmetic.multiply right left
  multiply_add :
    ∀ factor left right,
      arithmetic.multiply factor (arithmetic.add left right) =
        arithmetic.add (arithmetic.multiply factor left)
          (arithmetic.multiply factor right)
  multiply_one :
    ∀ element, arithmetic.multiply element arithmetic.one = element
  multiply_zero :
    ∀ element,
      arithmetic.multiply element arithmetic.zero = arithmetic.zero
  /-- The sum of a number of ones is zero exactly if the number is even. -/
  characteristic_two :
    ∀ count : Nat,
      (arithmetic.add arithmetic.one)^[count] arithmetic.zero =
          arithmetic.zero ↔
        2 ∣ count

/-- Adding one again and again alternates between zero and one. -/
theorem iterate_sum_one
    (count : Nat) :
    (sum 1)^[count] 0 = if 2 ∣ count then 0 else 1 := by
  induction count with
  | zero =>
      rfl
  | succ count inductionHypothesis =>
      rw [Function.iterate_succ_apply', inductionHypothesis]
      by_cases even : 2 ∣ count
      · have odd : ¬ 2 ∣ count + 1 := by
          omega
        rw [if_pos even, if_neg odd, sum_zero]
      · have nextEven : 2 ∣ count + 1 := by
          omega
        rw [if_neg even, if_pos nextEven, sum_self]

/-- Elements obey the laws of a ring as their residues do. -/
theorem ShiftAddField.ringLaws
    (polynomial : Element) :
    RingLaws (ShiftAddField.arithmetic ⟨polynomial⟩) where
  add_assoc := sum_assoc
  add_comm := sum_comm
  add_zero := sum_zero
  add_negate := sum_self
  subtract_eq := fun _ _ => rfl
  multiply_assoc := ShiftAdd.multiply_assoc polynomial
  multiply_comm := ShiftAdd.multiply_comm polynomial
  multiply_add := ShiftAdd.multiply_sum polynomial
  multiply_one := by
    intro element
    simp only [ShiftAddField.arithmetic_multiply,
      ShiftAddField.arithmetic_one, ShiftAdd.multiply_one]
  multiply_zero := by
    intro element
    simp only [ShiftAddField.arithmetic_multiply,
      ShiftAddField.arithmetic_zero, ShiftAdd.multiply_zero]
  characteristic_two := by
    intro count
    change (sum 1)^[count] 0 = 0 ↔ 2 ∣ count
    rw [iterate_sum_one]
    by_cases even : 2 ∣ count
    · simp [even]
    · simp [even]

/-- Under every polynomial, reducible or not, the elements are a ring of characteristic two. -/
theorem ringLaws_of_every_polynomial
    (polynomial : Element) :
    RingLaws (ShiftAddField.arithmetic ⟨polynomial⟩) :=
  ShiftAddField.ringLaws polynomial

end ByteField
