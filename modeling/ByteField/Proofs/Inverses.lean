import ByteField.Arithmetic
import Mathlib.Data.FinEnum
import Mathlib.Data.Fintype.EquivFin

namespace ByteField

/-!
# Inverses under an arbitrary multiplication

The search for an inverse tries left factors only, and a quotient is a product
with the inverse on the right.  Nothing is known of the multiplication but
that it is associative and has one as its identity; it need not commute.  As
there are only finitely many elements, an inverse that is found is an inverse
on both sides, and equations with the inverted element on either side have one
solution.
-/

/-- A multiplication that is associative and has one as its identity on either side. -/
structure MonoidLaws
    (multiply : Element → Element → Element) :
    Prop where
  multiply_assoc :
    ∀ first second third,
      multiply (multiply first second) third =
        multiply first (multiply second third)
  one_multiply :
    ∀ element, multiply 1 element = element
  multiply_one :
    ∀ element, multiply element 1 = element

/-- The laws of a multiplication with one, together with those of a factor zero. -/
structure MonoidWithZeroLaws
    (multiply : Element → Element → Element) :
    Prop
    extends MonoidLaws multiply where
  zero_multiply :
    ∀ element, multiply 0 element = 0
  multiply_zero :
    ∀ element, multiply element 0 = 0

namespace Arithmetic

variable {multiply : Element → Element → Element}

/-- What the search finds is a nonzero left factor that takes a nonzero element to one. -/
theorem leastLeftInverse_sound
    {element inverse : Element}
    (found : leastLeftInverse multiply element = .ok inverse) :
    element ≠ 0 ∧ inverse ≠ 0 ∧ multiply inverse element = 1 := by
  unfold leastLeftInverse at found
  by_cases zero : element = 0
  · rw [if_pos zero] at found
    cases found
  rw [if_neg zero] at found
  cases search :
      nonzeroElements.find? fun candidate => multiply candidate element == 1 with
  | none =>
      rw [search] at found
      cases found
  | some candidate =>
      rw [search] at found
      cases found
      have accepted := List.find?_some search
      rw [beq_iff_eq] at accepted
      exact ⟨zero, mem_nonzeroElements.mp (List.mem_of_find?_eq_some search),
        accepted⟩

/-- The search finds an inverse wherever there is a nonzero left factor to find. -/
theorem exists_leastLeftInverse_iff
    {element : Element} :
    (∃ inverse, leastLeftInverse multiply element = .ok inverse) ↔
      element ≠ 0 ∧
        ∃ candidate, candidate ≠ 0 ∧ multiply candidate element = 1 := by
  constructor
  · rintro ⟨inverse, found⟩
    have sound := leastLeftInverse_sound found
    exact ⟨sound.1, inverse, sound.2⟩
  · rintro ⟨nonzero, candidate, candidateNonzero, takesToOne⟩
    unfold leastLeftInverse
    rw [if_neg nonzero]
    cases search :
        nonzeroElements.find? fun candidate => multiply candidate element == 1 with
    | none =>
        have rejected :=
          List.find?_eq_none.mp search candidate
            (mem_nonzeroElements.mpr candidateNonzero)
        simp [takesToOne] at rejected
    | some inverse =>
        exact ⟨inverse, rfl⟩

/-- A nonzero element that no left factor takes to one is refused for just that. -/
theorem leastLeftInverse_eq_error
    {element : Element}
    (nonzero : element ≠ 0)
    (missing :
      ∀ candidate, candidate ≠ 0 → multiply candidate element ≠ 1) :
    leastLeftInverse multiply element = .error .noInverse := by
  have search :
      (nonzeroElements.find? fun candidate => multiply candidate element == 1) =
        none := by
    rw [List.find?_eq_none]
    intro candidate listed
    simpa using missing candidate (mem_nonzeroElements.mp listed)
  rw [leastLeftInverse, if_neg nonzero, search]

/-- Where an inverse is found, the quotient is the product with it. -/
theorem quotientByInverse_of_inverse
    {divisor inverse : Element}
    (found : leastLeftInverse multiply divisor = .ok inverse)
    (dividend : Element) :
    quotientByInverse multiply dividend divisor =
      .ok (multiply dividend inverse) := by
  have nonzero := (leastLeftInverse_sound found).1
  rw [quotientByInverse, if_neg nonzero, found]

/-- A nonzero divisor without an inverse is refused for that reason, whatever the dividend is. -/
theorem quotientByInverse_of_error
    {divisor : Element}
    (nonzero : divisor ≠ 0)
    {refusal : FieldError}
    (refused : leastLeftInverse multiply divisor = .error refusal)
    (dividend : Element) :
    quotientByInverse multiply dividend divisor = .error refusal := by
  rw [quotientByInverse, if_neg nonzero, refused]

end Arithmetic

namespace MonoidLaws

variable {multiply : Element → Element → Element} {element inverse : Element}

/-- A left inverse can be cancelled. -/
theorem multiply_cancel_left
    (laws : MonoidLaws multiply)
    (takesToOne : multiply inverse element = 1)
    (other : Element) :
    multiply inverse (multiply element other) = other := by
  rw [← laws.multiply_assoc, takesToOne, laws.one_multiply]

/-- An element with a left inverse is a factor that tells all elements apart. -/
theorem injective_of_left_inverse
    (laws : MonoidLaws multiply)
    (takesToOne : multiply inverse element = 1) :
    Function.Injective (multiply element) :=
  Function.LeftInverse.injective
    (laws.multiply_cancel_left takesToOne)

/-- A left inverse is a right inverse, since a factor that tells all elements apart reaches one. -/
theorem right_inverse_of_left_inverse
    (laws : MonoidLaws multiply)
    (takesToOne : multiply inverse element = 1) :
    multiply element inverse = 1 := by
  obtain ⟨other, reachesOne⟩ :=
    Finite.surjective_of_injective
      (laws.injective_of_left_inverse takesToOne) 1
  -- A left and a right inverse of one element are the same.
  have same : inverse = other := by
    calc
      inverse = multiply inverse (multiply element other) := by
        rw [reachesOne, laws.multiply_one]
      _ = other := laws.multiply_cancel_left takesToOne other
  rw [same]
  exact reachesOne

/-- An equation with an invertible right factor is solved by multiplying with the inverse. -/
theorem multiply_eq_iff_left
    (laws : MonoidLaws multiply)
    (takesToOne : multiply inverse element = 1)
    {unknown target : Element} :
    multiply unknown element = target ↔ unknown = multiply target inverse := by
  constructor
  · rintro rfl
    rw [laws.multiply_assoc, laws.right_inverse_of_left_inverse takesToOne,
      laws.multiply_one]
  · rintro rfl
    rw [laws.multiply_assoc, takesToOne, laws.multiply_one]

/-- An equation with an invertible left factor is solved by multiplying with the inverse. -/
theorem multiply_eq_iff_right
    (laws : MonoidLaws multiply)
    (takesToOne : multiply inverse element = 1)
    {unknown target : Element} :
    multiply element unknown = target ↔ unknown = multiply inverse target := by
  constructor
  · rintro rfl
    rw [laws.multiply_cancel_left takesToOne]
  · rintro rfl
    exact laws.multiply_cancel_left
      (laws.right_inverse_of_left_inverse takesToOne) target

/-- A nonzero inverse is found if there is one, since it is the only one. -/
theorem leastLeftInverse_eq_ok
    (laws : MonoidLaws multiply)
    (nonzero : element ≠ 0)
    (inverseNonzero : inverse ≠ 0)
    (takesToOne : multiply inverse element = 1) :
    Arithmetic.leastLeftInverse multiply element = .ok inverse := by
  obtain ⟨found, search⟩ :=
    Arithmetic.exists_leastLeftInverse_iff.mpr
      ⟨nonzero, inverse, inverseNonzero, takesToOne⟩
  have foundTakesToOne := (Arithmetic.leastLeftInverse_sound search).2.2
  have same : found = inverse := by
    rw [(laws.multiply_eq_iff_left takesToOne).mp foundTakesToOne,
      laws.one_multiply]
  rw [search, same]

/-- Where an inverse is found, a quotient is the only solution of its equation. -/
theorem exists_quotient
    (laws : MonoidLaws multiply)
    {divisor : Element}
    (found : Arithmetic.leastLeftInverse multiply divisor = .ok inverse)
    (dividend : Element) :
    ∃ quotient,
      Arithmetic.quotientByInverse multiply dividend divisor = .ok quotient ∧
        ∀ unknown,
          multiply unknown divisor = dividend ↔ unknown = quotient := by
  have takesToOne := (Arithmetic.leastLeftInverse_sound found).2.2
  refine ⟨_, Arithmetic.quotientByInverse_of_inverse found dividend, ?_⟩
  intro unknown
  exact laws.multiply_eq_iff_left takesToOne

end MonoidLaws

/-- An element with a left inverse takes only zero to zero. -/
theorem MonoidWithZeroLaws.eq_zero_of_multiply_eq_zero
    {multiply : Element → Element → Element}
    (laws : MonoidWithZeroLaws multiply)
    {element inverse other : Element}
    (takesToOne : multiply inverse element = 1)
    (vanishes : multiply element other = 0) :
    other = 0 := by
  have cancelled := laws.multiply_cancel_left takesToOne other
  rw [vanishes, laws.multiply_zero] at cancelled
  exact cancelled.symm

/--
An inverse that is found, by a search among left factors, is the only left
inverse and the only right inverse.  Dividing by the inverted element undoes
multiplying by it on the right, and a quotient is the only element of which
the dividend is such a multiple.
-/
theorem inverse_two_sided
    {multiply : Element → Element → Element}
    (laws : MonoidLaws multiply)
    {element inverse : Element}
    (found :
      (Arithmetic.ofMultiplication multiply).inverse element = .ok inverse) :
    multiply inverse element = 1 ∧
      multiply element inverse = 1 ∧
      (∀ candidate,
        multiply candidate element = 1 ↔ candidate = inverse) ∧
      (∀ candidate,
        multiply element candidate = 1 ↔ candidate = inverse) ∧
      (∀ factor,
        (Arithmetic.ofMultiplication multiply).divide
            (multiply factor element) element =
          .ok factor) ∧
      ∀ dividend,
        ∃ quotient,
          (Arithmetic.ofMultiplication multiply).divide dividend element =
              .ok quotient ∧
            ∀ unknown,
              multiply unknown element = dividend ↔ unknown = quotient := by
  rw [Arithmetic.ofMultiplication_inverse] at found
  rw [Arithmetic.ofMultiplication_divide]
  have takesToOne := (Arithmetic.leastLeftInverse_sound found).2.2
  have quotient (dividend : Element) :
      Arithmetic.quotientByInverse multiply dividend element =
        .ok (multiply dividend inverse) :=
    Arithmetic.quotientByInverse_of_inverse found dividend
  refine ⟨takesToOne, laws.right_inverse_of_left_inverse takesToOne,
    ?_, ?_, ?_, ?_⟩
  · intro candidate
    rw [laws.multiply_eq_iff_left takesToOne, laws.one_multiply]
  · intro candidate
    rw [laws.multiply_eq_iff_right takesToOne, laws.multiply_one]
  · intro factor
    have solved : factor = multiply (multiply factor element) inverse :=
      (laws.multiply_eq_iff_left takesToOne).mp rfl
    rw [quotient, ← solved]
  · intro dividend
    refine ⟨_, quotient dividend, ?_⟩
    intro unknown
    exact laws.multiply_eq_iff_left takesToOne

/-- The sense of a symmetry: an odd byte is a rotation and keeps it, an even one reflects. -/
def orientation
    (element : Element) :
    Element :=
  if element.toNat % 2 = 0 then -1 else 1

/--
The product of two symmetries of a polygon with 128 corners.

One is the rotation that moves nothing.  What stands behind a reflection is
turned the other way, so the product does not commute.
-/
def symmetryProduct
    (left right : Element) :
    Element :=
  left + orientation left * (right - 1)

/-- A product reverses what is behind it if exactly one of its factors does. -/
theorem orientation_symmetryProduct
    (left right : Element) :
    orientation (symmetryProduct left right) =
      orientation left * orientation right := by
  have parity :
      (symmetryProduct left right).toNat % 2 =
        (left.toNat + right.toNat + 1) % 2 := by
    unfold symmetryProduct orientation
    split
    · simp only [UInt8.toNat_add, UInt8.toNat_mul, UInt8.toNat_sub,
        UInt8.toNat_neg, UInt8.toNat_one, UInt8.size]
      omega
    · simp only [UInt8.toNat_add, UInt8.toNat_mul, UInt8.toNat_sub,
        UInt8.toNat_one]
      omega
  have twice : (-1 : Element) * -1 = 1 := by
    decide
  rw [orientation, parity]
  unfold orientation
  rcases Nat.mod_two_eq_zero_or_one left.toNat with leftEven | leftOdd <;>
    rcases Nat.mod_two_eq_zero_or_one right.toNat with rightEven | rightOdd <;>
    simp [Nat.add_mod, *]

/-- The symmetries are a monoid in which the order of the factors matters. -/
theorem monoidLaws_symmetryProduct :
    MonoidLaws symmetryProduct where
  multiply_assoc := by
    intro first second third
    have oriented := orientation_symmetryProduct first second
    -- With the sense of the product known, both sides are one sum modulo 256.
    rw [symmetryProduct, oriented]
    unfold symmetryProduct
    grind
  one_multiply := by
    intro element
    have oriented : orientation 1 = 1 := by
      decide
    rw [symmetryProduct, oriented]
    grind
  multiply_one := by
    intro element
    simp [symmetryProduct]

/-- A reflection times a rotation, divided by the rotation, is the reflection again. -/
theorem inverse_two_sided_symmetries :
    MonoidLaws symmetryProduct ∧
      symmetryProduct 2 255 ≠ symmetryProduct 255 2 ∧
      (Arithmetic.ofMultiplication symmetryProduct).inverse 255 = .ok 3 ∧
      (Arithmetic.ofMultiplication symmetryProduct).divide
          (symmetryProduct 2 255) 255 =
        .ok 2 := by
  have found :
      (Arithmetic.ofMultiplication symmetryProduct).inverse 255 = .ok 3 := by
    decide
  have twoSided := inverse_two_sided monoidLaws_symmetryProduct found
  exact ⟨monoidLaws_symmetryProduct, by decide, found,
    twoSided.2.2.2.2.1 2⟩

end ByteField
