import ByteField.ProductTable
import ByteField.Proofs.Irreducibility
import Mathlib.RingTheory.EuclideanDomain

namespace ByteField

open Polynomial

/-!
# Elements with an inverse and zero divisors

Under a reducible polynomial some nonzero elements have no inverse.  Which ones
is decided by the greatest common divisor with the modulus.  If it is one, it is
a combination of the two polynomials, of which the factor of the element is an
inverse, and multiplying by the element permutes all elements.  If it is not,
the modulus divided by it is a nonzero element that the element takes to zero.
-/

/-- The greatest common divisor of the polynomial of an element and the modulus. -/
noncomputable def commonDivisor
    (polynomial element : Element) :
    (ZMod 2)[X] :=
  EuclideanDomain.gcd (polynomialOf element) (modulus polynomial)

/-- The only nonzero constant is one. -/
theorem eq_one_of_natDegree_eq_zero
    {target : (ZMod 2)[X]}
    (nonzero : target ≠ 0)
    (isConstant : target.natDegree = 0) :
    target = 1 := by
  obtain ⟨constant, rfl⟩ := natDegree_eq_zero.mp isConstant
  have constantNonzero : constant ≠ 0 := by
    rintro rfl
    exact nonzero C_0
  have onlyOne : ∀ value : ZMod 2, value ≠ 0 → value = 1 := by
    decide
  rw [onlyOne constant constantNonzero, C_1]

theorem modulus_ne_zero
    (polynomial : Element) :
    modulus polynomial ≠ 0 :=
  (monic_modulus polynomial).ne_zero

theorem commonDivisor_ne_zero
    (polynomial element : Element) :
    commonDivisor polynomial element ≠ 0 := by
  intro isZero
  exact modulus_ne_zero polynomial
    (EuclideanDomain.gcd_eq_zero_iff.mp isZero).2

/-- A residue is a unit exactly if the element is coprime to the modulus. -/
theorem isUnit_residue_iff
    (polynomial element : Element) :
    IsUnit (residue polynomial element) ↔
      IsCoprime (polynomialOf element) (modulus polynomial) := by
  constructor
  · intro isUnit
    obtain ⟨inverse, takesToOne⟩ := isUnit.exists_left_inv
    obtain ⟨representative, rfl⟩ := AdjoinRoot.mk_surjective inverse
    rw [residue, ← map_mul, ← map_one (AdjoinRoot.mk _)] at takesToOne
    obtain ⟨multiple, difference⟩ := AdjoinRoot.mk_eq_mk.mp takesToOne
    refine ⟨representative, -multiple, ?_⟩
    linear_combination difference
  · rintro ⟨inverse, multiple, identity⟩
    apply IsUnit.of_mul_eq_one_right (AdjoinRoot.mk (modulus polynomial) inverse)
    rw [residue, ← map_mul, ← map_one (AdjoinRoot.mk (modulus polynomial))]
    apply AdjoinRoot.mk_eq_mk.mpr
    exact ⟨-multiple, by linear_combination identity⟩

/-- Coprime is what has greatest common divisor one. -/
theorem commonDivisor_eq_one_iff
    (polynomial element : Element) :
    commonDivisor polynomial element = 1 ↔
      IsUnit (residue polynomial element) := by
  rw [isUnit_residue_iff, ← EuclideanDomain.gcd_isUnit_iff]
  constructor
  · intro isOne
    change IsUnit (commonDivisor polynomial element)
    rw [isOne]
    exact isUnit_one
  · intro isUnit
    exact eq_one_of_natDegree_eq_zero
      (commonDivisor_ne_zero polynomial element)
      (natDegree_eq_zero_of_isUnit isUnit)

/-- Any other greatest common divisor has positive degree. -/
theorem natDegree_commonDivisor_pos_iff
    (polynomial element : Element) :
    1 ≤ (commonDivisor polynomial element).natDegree ↔
      ¬ IsUnit (residue polynomial element) := by
  rw [← commonDivisor_eq_one_iff]
  constructor
  · intro positive isOne
    rw [isOne, natDegree_one] at positive
    omega
  · intro notOne
    by_contra small
    exact notOne
      (eq_one_of_natDegree_eq_zero
        (commonDivisor_ne_zero polynomial element) (by omega))

/-- The cofactor of a divisor of positive degree is nonzero and of degree at most seven. -/
theorem natDegree_cofactor_le
    {polynomial : Element}
    {divisor cofactor : (ZMod 2)[X]}
    (product : modulus polynomial = divisor * cofactor)
    (positive : 1 ≤ divisor.natDegree) :
    cofactor ≠ 0 ∧ cofactor.natDegree ≤ 7 := by
  have nonzero : divisor * cofactor ≠ 0 := by
    rw [← product]
    exact modulus_ne_zero polynomial
  have degrees : divisor.natDegree + cofactor.natDegree = 8 := by
    rw [← natDegree_mul (left_ne_zero_of_mul nonzero) (right_ne_zero_of_mul nonzero),
      ← product, natDegree_modulus]
  exact ⟨right_ne_zero_of_mul nonzero, by omega⟩

/-- An element whose residue is no unit takes a nonzero element to zero. -/
theorem exists_multiply_eq_zero
    {polynomial element : Element}
    (noUnit : ¬ IsUnit (residue polynomial element)) :
    ∃ other, other ≠ 0 ∧ ShiftAdd.multiply polynomial element other = 0 := by
  have positive :=
    (natDegree_commonDivisor_pos_iff polynomial element).mpr noUnit
  obtain ⟨factor, elementShape⟩ :
      commonDivisor polynomial element ∣ polynomialOf element :=
    EuclideanDomain.gcd_dvd_left _ _
  obtain ⟨cofactor, modulusShape⟩ :
      commonDivisor polynomial element ∣ modulus polynomial :=
    EuclideanDomain.gcd_dvd_right _ _
  obtain ⟨cofactorNonzero, small⟩ :=
    natDegree_cofactor_le modulusShape positive
  obtain ⟨other, rfl⟩ := exists_polynomialOf_eq_of_natDegree_le small
  refine ⟨other, ?_, ?_⟩
  · rintro rfl
    exact cofactorNonzero polynomialOf_zero
  · -- The element times the cofactor is a multiple of the modulus.
    have multiple :
        polynomialOf element * polynomialOf other =
          modulus polynomial * factor := by
      rw [elementShape, modulusShape]
      ring
    rw [← residue_eq_zero_iff polynomial, ShiftAdd.residue_multiply,
      residue, residue, ← map_mul, multiple, map_mul, AdjoinRoot.mk_self,
      zero_mul]

/-! ## Rows of a table of products -/

/-- A row lists the products of its element with all elements. -/
theorem toList_row_generate
    (multiply : Element → Element → Element)
    (element : Element) :
    ((ProductTable.generate multiply).row element).toList =
      allElements.map (multiply element) := by
  apply List.ext_getElem
  · simp [allElements]
  · intro index _ _
    simp [ProductTable.row, ProductTable.generate, allElements]

/-- The row of an element is a permutation if multiplying by the element is one. -/
theorem row_perm_allElements
    {multiply : Element → Element → Element}
    {element : Element}
    (bijective : Function.Bijective (multiply element)) :
    ((ProductTable.generate multiply).row element).toList.Perm allElements := by
  have listed : allElements.Nodup :=
    allElements_ascending.imp UInt8.ne_of_lt
  rw [toList_row_generate,
    List.perm_ext_iff_of_nodup (listed.map bijective.injective) listed]
  intro product
  obtain ⟨factor, rfl⟩ := bijective.surjective product
  exact ⟨fun _ => mem_allElements _,
    fun _ => List.mem_map_of_mem (mem_allElements factor)⟩

/-! ## The two kinds of nonzero elements -/

/-- What it comes to under a polynomial that an element has an inverse. -/
structure HasInverse
    (polynomial element inverse : Element) :
    Prop where
  inverse_eq :
    (ShiftAddField.arithmetic ⟨polynomial⟩).inverse element = .ok inverse
  commonDivisor_eq_one :
    commonDivisor polynomial element = 1
  multiply_eq_one_iff :
    ∀ candidate,
      (ShiftAddField.arithmetic ⟨polynomial⟩).multiply candidate element = 1 ↔
        candidate = inverse
  inverse_inverse :
    (ShiftAddField.arithmetic ⟨polynomial⟩).inverse inverse = .ok element
  multiply_bijective :
    Function.Bijective
      ((ShiftAddField.arithmetic ⟨polynomial⟩).multiply element)
  row_perm :
    ((ProductTable.generate
      (ShiftAddField.arithmetic ⟨polynomial⟩).multiply).row
        element).toList.Perm allElements
  /-- A quotient is the only element of which the dividend is such a multiple. -/
  divide_eq :
    ∀ dividend,
      ∃ quotient,
        (ShiftAddField.arithmetic ⟨polynomial⟩).divide dividend element =
            .ok quotient ∧
          ∀ unknown,
            (ShiftAddField.arithmetic ⟨polynomial⟩).multiply unknown element =
                dividend ↔
              unknown = quotient

/-- What it comes to under a polynomial that an element takes another one to zero. -/
structure DividesZero
    (polynomial element : Element) :
    Prop where
  inverse_eq :
    (ShiftAddField.arithmetic ⟨polynomial⟩).inverse element =
      .error
        (.invalidArgument
          "element has no multiplicative inverse under this polynomial")
  natDegree_commonDivisor_pos :
    1 ≤ (commonDivisor polynomial element).natDegree
  exists_multiply_eq_zero :
    ∃ other,
      other ≠ 0 ∧
        (ShiftAddField.arithmetic ⟨polynomial⟩).multiply element other = 0
  /-- Every quotient is refused as the inverse is, even with dividend zero. -/
  divide_eq :
    ∀ dividend,
      (ShiftAddField.arithmetic ⟨polynomial⟩).divide dividend element =
        .error
          (.invalidArgument
            "element has no multiplicative inverse under this polynomial")

/-- An element whose residue is a unit has an inverse. -/
theorem exists_hasInverse
    {polynomial element : Element}
    (isUnit : IsUnit (residue polynomial element)) :
    ∃ inverse, HasInverse polynomial element inverse := by
  have laws := ShiftAdd.monoidWithZeroLaws polynomial
  obtain ⟨inverse, found⟩ :=
    (exists_inverse_iff_isUnit polynomial element).mpr isUnit
  obtain ⟨nonzero, inverseNonzero, takesToOne⟩ :=
    Arithmetic.leastLeftInverse_sound found
  -- The search tests left factors only; that the inverse has this inverse takes the other side.
  have fromTheRight := laws.right_inverse_of_left_inverse takesToOne
  have bijective : Function.Bijective (ShiftAdd.multiply polynomial element) :=
    Finite.injective_iff_bijective.mp
      (laws.injective_of_left_inverse takesToOne)
  refine ⟨inverse, ?_⟩
  constructor
  case inverse_eq =>
    exact found
  case commonDivisor_eq_one =>
    exact (commonDivisor_eq_one_iff polynomial element).mpr isUnit
  case multiply_eq_one_iff =>
    intro candidate
    rw [ShiftAddField.arithmetic_multiply,
      laws.multiply_eq_iff_left takesToOne, laws.one_multiply]
  case inverse_inverse =>
    exact laws.leastLeftInverse_eq_ok inverseNonzero nonzero fromTheRight
  case multiply_bijective =>
    exact bijective
  case row_perm =>
    exact row_perm_allElements bijective
  case divide_eq =>
    exact laws.exists_quotient found

/-- A nonzero element whose residue is no unit divides zero. -/
theorem dividesZero
    {polynomial element : Element}
    (nonzero : element ≠ 0)
    (noUnit : ¬ IsUnit (residue polynomial element)) :
    DividesZero polynomial element := by
  have refused :
      Arithmetic.leastLeftInverse (ShiftAdd.multiply polynomial) element =
        .error .noInverse := by
    apply Arithmetic.leastLeftInverse_eq_error nonzero
    intro candidate candidateNonzero takesToOne
    exact noUnit
      ((exists_inverse_iff_isUnit polynomial element).mp
        (Arithmetic.exists_leastLeftInverse_iff.mpr
          ⟨nonzero, candidate, candidateNonzero, takesToOne⟩))
  constructor
  case inverse_eq =>
    exact refused
  case natDegree_commonDivisor_pos =>
    exact (natDegree_commonDivisor_pos_iff polynomial element).mpr noUnit
  case exists_multiply_eq_zero =>
    exact exists_multiply_eq_zero noUnit
  case divide_eq =>
    exact Arithmetic.quotientByInverse_of_error nonzero refused

/-- No element has an inverse and divides zero. -/
theorem HasInverse.not_dividesZero
    {polynomial element inverse : Element}
    (invertible : HasInverse polynomial element inverse) :
    ¬ DividesZero polynomial element := by
  intro dividing
  have contradictory := invertible.inverse_eq.symm.trans dividing.inverse_eq
  cases contradictory

/--
Under every polynomial, each nonzero element is of exactly one of two kinds.
Either it is coprime to the modulus and has an inverse, which is the only one
and has the element as its own inverse, multiplying by the element permutes all
elements, and every quotient by it is the only solution of its equation; or its
greatest common divisor with the modulus is of positive degree, it takes a
nonzero element to zero, and inverse and quotients are refused for having no
inverse.
-/
theorem inverse_or_zero_divisor
    (polynomial : Element)
    {element : Element}
    (nonzero : element ≠ 0) :
    Xor
      (∃ inverse, HasInverse polynomial element inverse)
      (DividesZero polynomial element) := by
  by_cases isUnit : IsUnit (residue polynomial element)
  · obtain ⟨inverse, invertible⟩ := exists_hasInverse isUnit
    exact Or.inl ⟨⟨inverse, invertible⟩, invertible.not_dividesZero⟩
  · have dividing := dividesZero nonzero isUnit
    refine Or.inr ⟨dividing, ?_⟩
    rintro ⟨inverse, invertible⟩
    exact invertible.not_dividesZero dividing

/-- Modulo `X ^ 8` the element three has an inverse and the element two has none. -/
theorem inverse_or_zero_divisor_both_kinds :
    (∃ inverse, HasInverse 0 3 inverse) ∧ DividesZero 0 2 := by
  have three := inverse_or_zero_divisor 0 (show (3 : Element) ≠ 0 by decide)
  have two := inverse_or_zero_divisor 0 (show (2 : Element) ≠ 0 by decide)
  have found :
      (ShiftAddField.arithmetic ⟨0⟩).inverse 3 = .ok 255 := by
    decide +kernel
  have refused :
      (ShiftAddField.arithmetic ⟨0⟩).inverse 2 = .error .noInverse := by
    decide +kernel
  constructor
  · refine three.or.resolve_right ?_
    intro dividing
    have contradictory := found.symm.trans dividing.inverse_eq
    cases contradictory
  · refine two.or.resolve_left ?_
    rintro ⟨inverse, invertible⟩
    have contradictory := refused.symm.trans invertible.inverse_eq
    cases contradictory

end ByteField
