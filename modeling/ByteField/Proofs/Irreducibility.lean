import ByteField.Proofs.ReducedPowers
import ByteField.Proofs.Remainder
import Mathlib.Tactic.TFAE

namespace ByteField

open Polynomial

/-!
# Irreducible polynomials

The residue ring of a polynomial is a field exactly if the polynomial is
irreducible: a factorisation into smaller polynomials makes two nonzero
elements with product zero, and neither can have an inverse.  The powers with
reduced exponents notice the difference as well, so they are right under the
irreducible polynomials and under no other ones.
-/

/-- The modulus that a byte names is the product of two polynomials of degree one to seven. -/
def HasFactors
    (polynomial : Element) :
    Prop :=
  ∃ first second : (ZMod 2)[X],
    (1 ≤ first.natDegree ∧ first.natDegree ≤ 7) ∧
      (1 ≤ second.natDegree ∧ second.natDegree ≤ 7) ∧
      first * second = modulus polynomial

theorem natDegree_modulus
    (polynomial : Element) :
    (modulus polynomial).natDegree = 8 :=
  natDegree_eq_of_degree_eq_some (degree_modulus polynomial)

/-- A modulus is irreducible exactly if it does not factor. -/
theorem irreducible_modulus_iff
    (polynomial : Element) :
    Irreducible (modulus polynomial) ↔ ¬ HasFactors polynomial := by
  constructor
  · rintro irreducible ⟨first, second, firstDegree, secondDegree, product⟩
    rcases irreducible.isUnit_or_isUnit product.symm with firstUnit | secondUnit
    · have constant := natDegree_eq_zero_of_isUnit firstUnit
      omega
    · have constant := natDegree_eq_zero_of_isUnit secondUnit
      omega
  · intro prime
    rw [(monic_modulus polynomial).irreducible_iff_natDegree]
    constructor
    · intro isOne
      have degree := natDegree_modulus polynomial
      rw [isOne, natDegree_one] at degree
      omega
    · intro first second firstMonic secondMonic product
      by_contra proper
      have degrees : first.natDegree + second.natDegree = 8 := by
        rw [← firstMonic.natDegree_mul secondMonic, product,
          natDegree_modulus]
      exact prime ⟨first, second, by omega, by omega, product⟩

/-- A polynomial of degree at most seven is the polynomial of an element. -/
theorem exists_polynomialOf_eq_of_natDegree_le
    {target : (ZMod 2)[X]}
    (small : target.natDegree ≤ 7) :
    ∃ element, polynomialOf element = target := by
  apply exists_polynomialOf_eq
  rw [← degree_modulus 0]
  exact (natDegree_le_seven_iff 0 target).mp small

/-- The factors of a modulus are nonzero elements with product zero. -/
theorem HasFactors.exists_zero_divisors
    {polynomial : Element}
    (factors : HasFactors polynomial) :
    ∃ left right,
      left ≠ 0 ∧ right ≠ 0 ∧
        ShiftAdd.multiply polynomial left right = 0 := by
  obtain ⟨first, second, firstDegree, secondDegree, product⟩ := factors
  obtain ⟨left, rfl⟩ :=
    exists_polynomialOf_eq_of_natDegree_le firstDegree.2
  obtain ⟨right, rfl⟩ :=
    exists_polynomialOf_eq_of_natDegree_le secondDegree.2
  refine ⟨left, right, ?_, ?_, ?_⟩
  · rintro rfl
    simp at firstDegree
  · rintro rfl
    simp at secondDegree
  · -- The residue of the modulus itself is zero.
    rw [← residue_eq_zero_iff polynomial, ShiftAdd.residue_multiply,
      residue, residue, ← map_mul, product, AdjoinRoot.mk_self]

/-- An element has an inverse exactly if its residue is a unit. -/
theorem exists_inverse_iff_isUnit
    (polynomial element : Element) :
    (∃ inverse,
        (ShiftAddField.arithmetic ⟨polynomial⟩).inverse element =
          .ok inverse) ↔
      IsUnit (residue polynomial element) := by
  constructor
  · rintro ⟨inverse, found⟩
    have takesToOne := (Arithmetic.leastLeftInverse_sound found).2.2
    apply IsUnit.of_mul_eq_one_right (residue polynomial inverse)
    rw [← ShiftAdd.residue_multiply, takesToOne, residue_one]
  · intro isUnit
    obtain ⟨inverseResidue, takesToOne⟩ := isUnit.exists_left_inv
    obtain ⟨inverse, rfl⟩ := residue_surjective polynomial inverseResidue
    refine Arithmetic.exists_leastLeftInverse_iff.mpr
      ⟨?_, inverse, ?_, ?_⟩
    · rintro rfl
      simp at takesToOne
    · rintro rfl
      simp at takesToOne
    · rw [← residue_eq_one_iff polynomial, ShiftAdd.residue_multiply,
        takesToOne]

/-- Under an irreducible polynomial all nonzero elements have inverses, and under no other. -/
theorem irreducible_iff_invertsNonzero
    (polynomial : Element) :
    Irreducible (modulus polynomial) ↔
      (ShiftAddField.arithmetic ⟨polynomial⟩).InvertsNonzero := by
  constructor
  · intro irreducible element nonzero
    have : Fact (Irreducible (modulus polynomial)) := ⟨irreducible⟩
    have residueNonzero : residue polynomial element ≠ 0 :=
      (residue_eq_zero_iff polynomial).not.mpr nonzero
    exact (exists_inverse_iff_isUnit polynomial element).mpr
      residueNonzero.isUnit
  · intro inverts
    rw [irreducible_modulus_iff]
    intro factors
    obtain ⟨left, right, leftNonzero, rightNonzero, vanishes⟩ :=
      factors.exists_zero_divisors
    obtain ⟨inverse, found⟩ := inverts left leftNonzero
    have takesToOne := (Arithmetic.leastLeftInverse_sound found).2.2
    exact rightNonzero
      ((ShiftAdd.monoidWithZeroLaws polynomial).eq_zero_of_multiply_eq_zero
        takesToOne vanishes)

/--
Under every polynomial these say the same: it is irreducible; it is not the
product of two polynomials of degree one to seven; all nonzero elements have
inverses; all powers, which take as many products as the remainder of the
exponent modulo 255, are products of as many copies as the exponent says.  An
accepted polynomial has all of these properties.
-/
theorem irreducible_tfae_inverses_powers
    (polynomial : Element) :
    List.TFAE [
        Irreducible (modulus polynomial),
        ¬ HasFactors polynomial,
        (ShiftAddField.arithmetic ⟨polynomial⟩).InvertsNonzero,
        (ShiftAddField.arithmetic ⟨polynomial⟩).PowersAreProducts] ∧
      (∀ base exponent,
        Arithmetic.PowerTakes
          (ShiftAddField.arithmetic ⟨polynomial⟩).multiply
          base exponent (exponent.toNat % 255)) ∧
      ∀ field, TabledField.generate polynomial = .ok field →
        Irreducible (modulus polynomial) ∧
          ¬ HasFactors polynomial ∧
          (ShiftAddField.arithmetic ⟨polynomial⟩).InvertsNonzero ∧
          (ShiftAddField.arithmetic ⟨polynomial⟩).PowersAreProducts := by
  have laws := ShiftAdd.monoidWithZeroLaws polynomial
  have equivalent :
      List.TFAE [
        Irreducible (modulus polynomial),
        ¬ HasFactors polynomial,
        (ShiftAddField.arithmetic ⟨polynomial⟩).InvertsNonzero,
        (ShiftAddField.arithmetic ⟨polynomial⟩).PowersAreProducts] := by
    tfae_have 1 ↔ 2 := irreducible_modulus_iff polynomial
    tfae_have 1 ↔ 3 := irreducible_iff_invertsNonzero polynomial
    tfae_have 3 → 4 := laws.powersAreProducts
    tfae_have 4 → 3 := laws.invertsNonzero
    tfae_finish
  refine ⟨equivalent, ?_, ?_⟩
  · intro base exponent
    exact Arithmetic.powerTakes_mod _ base exponent
  · intro field generated
    have inverts :=
      (TabledField.tabulates_of_generate
        generated).inverts.generates.invertsNonzero
    exact ⟨(equivalent.out 0 2).mpr inverts,
      (equivalent.out 1 2).mpr inverts,
      inverts,
      (equivalent.out 2 3).mp inverts⟩

/-- The default polynomial is irreducible, and zero, which stands for `X ^ 8`, is not. -/
theorem irreducible_tfae_inverses_powers_standard :
    TabledField.generate defaultPolynomial = .ok Standard.field ∧
      Irreducible (modulus defaultPolynomial) ∧
      ¬ Irreducible (modulus 0) := by
  have generated := Standard.generate_defaultPolynomial
  refine ⟨generated,
    ((irreducible_tfae_inverses_powers defaultPolynomial).2.2 _ generated).1,
    ?_⟩
  intro irreducible
  have inverts :=
    ((irreducible_tfae_inverses_powers 0).1.out 0 2).mp irreducible
  obtain ⟨inverse, found⟩ := inverts 2 (by decide)
  have refused :
      (ShiftAddField.arithmetic ⟨0⟩).inverse 2 = .error .noInverse := by
    decide +kernel
  rw [refused] at found
  cases found

end ByteField
