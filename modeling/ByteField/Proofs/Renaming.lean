import ByteField.Proofs.Irreducibility
import Mathlib.FieldTheory.Finite.GaloisField

namespace ByteField

open Polynomial

/-!
# Renaming the elements

The residue rings of two irreducible polynomials are fields of the same size,
so they are isomorphic, and an isomorphism renames the elements of one into
those of the other.  Everything that is derived from a multiplication follows
the renaming: the search for an inverse finds the renamed inverse because
there is only one, and where there is none it fails in the same way.
-/

/-- A renaming of the elements that carries each operation of one arithmetic into another's. -/
structure Renames
    (rename : Element → Element)
    (first second : Arithmetic) :
    Prop where
  bijective :
    Function.Bijective rename
  rename_zero :
    rename first.zero = second.zero
  rename_one :
    rename first.one = second.one
  rename_add :
    ∀ left right,
      rename (first.add left right) =
        second.add (rename left) (rename right)
  rename_subtract :
    ∀ left right,
      rename (first.subtract left right) =
        second.subtract (rename left) (rename right)
  rename_negate :
    ∀ element,
      rename (first.negate element) = second.negate (rename element)
  rename_multiply :
    ∀ left right,
      rename (first.multiply left right) =
        second.multiply (rename left) (rename right)
  rename_power :
    ∀ base exponent,
      rename (first.power base exponent) =
        second.power (rename base) exponent
  /-- Results are renamed, and a refusal stays the same refusal. -/
  rename_divide :
    ∀ dividend divisor,
      (first.divide dividend divisor).map rename =
        second.divide (rename dividend) (rename divisor)
  rename_inverse :
    ∀ element,
      (first.inverse element).map rename = second.inverse (rename element)

/-- A renaming that respects what a multiplication with one and zero consists of. -/
structure RenamesProducts
    (rename : Element → Element)
    (first second : Element → Element → Element) :
    Prop where
  bijective :
    Function.Bijective rename
  rename_zero :
    rename 0 = 0
  rename_one :
    rename 1 = 1
  rename_multiply :
    ∀ left right,
      rename (first left right) = second (rename left) (rename right)

namespace RenamesProducts

variable {rename : Element → Element} {first second : Element → Element → Element}

theorem rename_eq_zero_iff
    (renames : RenamesProducts rename first second)
    {element : Element} :
    rename element = 0 ↔ element = 0 := by
  rw [← renames.rename_zero, renames.bijective.injective.eq_iff,
    renames.rename_zero]

/-- A product is one exactly if the renamed factors have product one. -/
theorem multiply_rename_eq_one_iff
    (renames : RenamesProducts rename first second)
    {left right : Element} :
    second (rename left) (rename right) = 1 ↔ first left right = 1 := by
  rw [← renames.rename_multiply, ← renames.rename_one,
    renames.bijective.injective.eq_iff, renames.rename_one]

theorem rename_productOfCopies
    (renames : RenamesProducts rename first second)
    (element : Element)
    (count : Nat) :
    rename (Arithmetic.productOfCopies first element count) =
      Arithmetic.productOfCopies second (rename element) count := by
  induction count with
  | zero =>
      exact renames.rename_one
  | succ count inductionHypothesis =>
      rw [Arithmetic.productOfCopies_succ, Arithmetic.productOfCopies_succ,
        renames.rename_multiply, inductionHypothesis]

theorem rename_reducedPower
    (renames : RenamesProducts rename first second)
    (base : Element)
    (exponent : UInt32) :
    rename (Arithmetic.reducedPower first base exponent) =
      Arithmetic.reducedPower second (rename base) exponent := by
  unfold Arithmetic.reducedPower
  simp only [renames.rename_eq_zero_iff]
  by_cases exponentZero : exponent = 0
  · rw [if_pos exponentZero, if_pos exponentZero, renames.rename_one]
  rw [if_neg exponentZero, if_neg exponentZero]
  by_cases baseZero : base = 0
  · rw [if_pos baseZero, if_pos baseZero, renames.rename_zero]
  rw [if_neg baseZero, if_neg baseZero]
  exact renames.rename_productOfCopies base _

/-- The search finds the renamed inverse, or fails as the search before the renaming did. -/
theorem rename_leastLeftInverse
    (renames : RenamesProducts rename first second)
    (secondLaws : MonoidLaws second)
    (element : Element) :
    (Arithmetic.leastLeftInverse first element).map rename =
      Arithmetic.leastLeftInverse second (rename element) := by
  by_cases zero : element = 0
  · rw [Arithmetic.leastLeftInverse, Arithmetic.leastLeftInverse,
      if_pos zero, if_pos (renames.rename_eq_zero_iff.mpr zero)]
    rfl
  have renamedNonzero : rename element ≠ 0 :=
    renames.rename_eq_zero_iff.not.mpr zero
  by_cases invertible :
      ∃ candidate, candidate ≠ 0 ∧ first candidate element = 1
  · obtain ⟨inverse, found⟩ :=
      Arithmetic.exists_leastLeftInverse_iff.mpr ⟨zero, invertible⟩
    obtain ⟨_, inverseNonzero, takesToOne⟩ :=
      Arithmetic.leastLeftInverse_sound found
    -- The search after the renaming might stop earlier, were the inverse not unique.
    have renamedFound :
        Arithmetic.leastLeftInverse second (rename element) =
          .ok (rename inverse) :=
      secondLaws.leastLeftInverse_eq_ok renamedNonzero
        (renames.rename_eq_zero_iff.not.mpr inverseNonzero)
        (renames.multiply_rename_eq_one_iff.mpr takesToOne)
    rw [found, renamedFound]
    rfl
  · have missing :
        ∀ candidate, candidate ≠ 0 → first candidate element ≠ 1 := by
      intro candidate nonzero takesToOne
      exact invertible ⟨candidate, nonzero, takesToOne⟩
    have renamedMissing :
        ∀ candidate, candidate ≠ 0 → second candidate (rename element) ≠ 1 := by
      intro candidate nonzero takesToOne
      obtain ⟨original, rfl⟩ := renames.bijective.surjective candidate
      exact missing original (renames.rename_eq_zero_iff.not.mp nonzero)
        (renames.multiply_rename_eq_one_iff.mp takesToOne)
    rw [Arithmetic.leastLeftInverse_eq_error zero missing,
      Arithmetic.leastLeftInverse_eq_error renamedNonzero renamedMissing]
    rfl

theorem rename_quotientByInverse
    (renames : RenamesProducts rename first second)
    (secondLaws : MonoidLaws second)
    (dividend divisor : Element) :
    (Arithmetic.quotientByInverse first dividend divisor).map rename =
      Arithmetic.quotientByInverse second (rename dividend) (rename divisor) := by
  unfold Arithmetic.quotientByInverse
  simp only [renames.rename_eq_zero_iff]
  by_cases zero : divisor = 0
  · rw [if_pos zero, if_pos zero]
    rfl
  rw [if_neg zero, if_neg zero,
    ← renames.rename_leastLeftInverse secondLaws]
  cases Arithmetic.leastLeftInverse first divisor with
  | error refusal =>
      rfl
  | ok inverse =>
      exact congrArg Except.ok (renames.rename_multiply dividend inverse)

/-- A renaming of sums and products carries over all that is derived from the multiplication. -/
theorem renames
    (renames : RenamesProducts rename first second)
    (secondLaws : MonoidLaws second)
    (rename_sum :
      ∀ left right,
        rename (sum left right) = sum (rename left) (rename right)) :
    Renames rename (.ofMultiplication first) (.ofMultiplication second) where
  bijective := renames.bijective
  rename_zero := renames.rename_zero
  rename_one := renames.rename_one
  rename_add := rename_sum
  rename_subtract := rename_sum
  rename_negate := fun _ => rfl
  rename_multiply := renames.rename_multiply
  rename_power := renames.rename_reducedPower
  rename_divide := renames.rename_quotientByInverse secondLaws
  rename_inverse := renames.rename_leastLeftInverse secondLaws

end RenamesProducts

/-- Elements and residues, one for one. -/
noncomputable def residueEquiv
    (polynomial : Element) :
    Element ≃ AdjoinRoot (modulus polynomial) :=
  Equiv.ofBijective (residue polynomial)
    ⟨residue_injective polynomial, residue_surjective polynomial⟩

section RingIsomorphism

variable {first second : Element}

/-- The element whose residue is the image of an element's residue. -/
noncomputable def renameAlong
    (isomorphism :
      AdjoinRoot (modulus first) ≃+* AdjoinRoot (modulus second)) :
    Element ≃ Element :=
  ((residueEquiv first).trans isomorphism.toEquiv).trans
    (residueEquiv second).symm

@[simp] theorem residue_renameAlong
    (isomorphism :
      AdjoinRoot (modulus first) ≃+* AdjoinRoot (modulus second))
    (element : Element) :
    residue second (renameAlong isomorphism element) =
      isomorphism (residue first element) :=
  (residueEquiv second).apply_symm_apply _

/-- An isomorphism of residue rings renames the elements. -/
theorem renames_renameAlong
    (isomorphism :
      AdjoinRoot (modulus first) ≃+* AdjoinRoot (modulus second)) :
    Renames (renameAlong isomorphism)
      (ShiftAddField.arithmetic ⟨first⟩)
      (ShiftAddField.arithmetic ⟨second⟩) := by
  have products :
      RenamesProducts (renameAlong isomorphism)
        (ShiftAdd.multiply first) (ShiftAdd.multiply second) := by
    constructor
    case bijective =>
      exact (renameAlong isomorphism).bijective
    case rename_zero =>
      apply residue_injective second
      simp
    case rename_one =>
      apply residue_injective second
      simp
    case rename_multiply =>
      intro left right
      apply residue_injective second
      simp
  apply products.renames (ShiftAdd.monoidWithZeroLaws second).toMonoidLaws
  intro left right
  apply residue_injective second
  simp

/-- Any two irreducible polynomials have isomorphic residue rings: fields of 256 elements. -/
theorem nonempty_ringEquiv_of_irreducible
    (firstIrreducible : Irreducible (modulus first))
    (secondIrreducible : Irreducible (modulus second)) :
    Nonempty
      (AdjoinRoot (modulus first) ≃+* AdjoinRoot (modulus second)) := by
  have : Fact (Irreducible (modulus first)) := ⟨firstIrreducible⟩
  have : Fact (Irreducible (modulus second)) := ⟨secondIrreducible⟩
  let := Fintype.ofFinite (AdjoinRoot (modulus first))
  let := Fintype.ofFinite (AdjoinRoot (modulus second))
  have sameSize :
      Fintype.card (AdjoinRoot (modulus first)) =
        Fintype.card (AdjoinRoot (modulus second)) := by
    rw [← Nat.card_eq_fintype_card, ← Nat.card_eq_fintype_card,
      card_residues, card_residues]
  exact ⟨FiniteField.ringEquivOfCardEq sameSize⟩

/-- Between residue rings in which all nonzero elements have inverses there is a renaming. -/
theorem exists_renames
    (firstInverts : (ShiftAddField.arithmetic ⟨first⟩).InvertsNonzero)
    (secondInverts : (ShiftAddField.arithmetic ⟨second⟩).InvertsNonzero) :
    ∃ rename,
      Renames rename
        (ShiftAddField.arithmetic ⟨first⟩)
        (ShiftAddField.arithmetic ⟨second⟩) := by
  obtain ⟨isomorphism⟩ :=
    nonempty_ringEquiv_of_irreducible
      ((irreducible_iff_invertsNonzero first).mpr firstInverts)
      ((irreducible_iff_invertsNonzero second).mpr secondInverts)
  exact ⟨_, renames_renameAlong isomorphism⟩

end RingIsomorphism

/-! ## Elements of full order -/

/-- All nonzero elements are powers of an element of order 255, so they have inverses. -/
theorem invertsNonzero_of_orderOf
    {polynomial generator : Element}
    (order : orderOf (residue polynomial generator) = multiplicativeOrder) :
    (ShiftAddField.arithmetic ⟨polynomial⟩).InvertsNonzero := by
  have generatorUnit : IsUnit (residue polynomial generator) := by
    have finite : IsOfFinOrder (residue polynomial generator) := by
      rw [← orderOf_pos_iff, order]
      decide
    exact finite.isUnit
  have powersNonzero :
      (residue polynomial generator ^ ·) '' Set.Iio multiplicativeOrder ⊆
        {0}ᶜ := by
    rintro _ ⟨count, _, rfl⟩
    exact (generatorUnit.pow count).ne_zero
  have enough :
      ({0}ᶜ : Set (AdjoinRoot (modulus polynomial))).ncard ≤
        ((residue polynomial generator ^ ·) ''
          Set.Iio multiplicativeOrder).ncard := by
    rw [← order, pow_injOn_Iio_orderOf.ncard_image, order,
      Set.ncard_compl, card_residues, Set.ncard_singleton]
    simp [fieldSize, multiplicativeOrder, Set.ncard_eq_toFinset_card']
  have allPowers := Set.eq_of_subset_of_ncard_le powersNonzero enough
  intro element nonzero
  have listed :
      residue polynomial element ∈
        (residue polynomial generator ^ ·) '' Set.Iio multiplicativeOrder := by
    rw [allPowers]
    exact (residue_eq_zero_iff polynomial).not.mpr nonzero
  obtain ⟨count, _, isPower⟩ := listed
  rw [exists_inverse_iff_isUnit, ← isPower]
  exact generatorUnit.pow count

/--
An element has order 255 if its power with this exponent is one and those with
the largest proper divisors of it are not.
-/
theorem orderOf_residue_eq
    {polynomial generator : Element}
    (full :
      Arithmetic.productOfCopies (ShiftAdd.multiply polynomial)
        generator 255 = 1)
    (proper :
      ∀ divisor ∈ [85, 51, 15],
        Arithmetic.productOfCopies (ShiftAdd.multiply polynomial)
          generator divisor ≠ 1) :
    orderOf (residue polynomial generator) = multiplicativeOrder := by
  have power_eq_one_iff
      (count : Nat) :
      residue polynomial generator ^ count = 1 ↔
        Arithmetic.productOfCopies (ShiftAdd.multiply polynomial)
          generator count = 1 := by
    rw [← ShiftAdd.residue_productOfCopies, residue_eq_one_iff]
  apply orderOf_eq_of_pow_and_pow_div_prime (by decide)
  · exact (power_eq_one_iff 255).mpr full
  · intro prime isPrime divides
    have factor : prime = 3 ∨ prime = 5 ∨ prime = 17 := by
      have product : prime ∣ 3 * (5 * 17) := divides
      rw [isPrime.dvd_mul, isPrime.dvd_mul,
        Nat.prime_dvd_prime_iff_eq isPrime Nat.prime_three,
        Nat.prime_dvd_prime_iff_eq isPrime Nat.prime_five,
        Nat.prime_dvd_prime_iff_eq isPrime (by decide : Nat.Prime 17)] at product
      exact product
    rw [Ne, power_eq_one_iff]
    rcases factor with rfl | rfl | rfl
    · exact proper 85 (by decide)
    · exact proper 51 (by decide)
    · exact proper 15 (by decide)

/--
Any two residue rings in which all nonzero elements have inverses differ by a
renaming of the elements only, which carries sums, products, quotients, powers
and inverses along.  This holds of any two accepted polynomials, and then of
the operations by lookup as well.
-/
theorem renaming_of_inverses :
    (∀ {first second : Element},
        (ShiftAddField.arithmetic ⟨first⟩).InvertsNonzero →
          (ShiftAddField.arithmetic ⟨second⟩).InvertsNonzero →
            ∃ rename,
              Renames rename
                (ShiftAddField.arithmetic ⟨first⟩)
                (ShiftAddField.arithmetic ⟨second⟩)) ∧
      ∀ {first second : Element} {firstField secondField : TabledField},
        TabledField.generate first = .ok firstField →
          TabledField.generate second = .ok secondField →
            ∃ rename,
              Renames rename
                  (ShiftAddField.arithmetic ⟨first⟩)
                  (ShiftAddField.arithmetic ⟨second⟩) ∧
                Renames rename firstField.arithmetic
                  secondField.arithmetic := by
  refine ⟨exists_renames, ?_⟩
  intro first second firstField secondField firstGenerated secondGenerated
  have firstTabulates := TabledField.tabulates_of_generate firstGenerated
  have secondTabulates := TabledField.tabulates_of_generate secondGenerated
  obtain ⟨rename, renames⟩ :=
    exists_renames
      firstTabulates.inverts.generates.invertsNonzero
      secondTabulates.inverts.generates.invertsNonzero
  refine ⟨rename, renames, ?_⟩
  rw [firstTabulates.arithmetic_eq, secondTabulates.arithmetic_eq]
  exact renames

/--
The residue ring of 27, which two does not generate but three does, and the
field of 45 are the standard field with the elements renamed.
-/
theorem renaming_of_inverses_standard :
    (TabledField.generate 27 = .error (.duplicateLogarithm 27 1 51) ∧
        (ShiftAddField.arithmetic ⟨27⟩).InvertsNonzero ∧
        ∃ rename,
          Renames rename (ShiftAddField.arithmetic ⟨27⟩)
            (ShiftAddField.arithmetic ⟨defaultPolynomial⟩)) ∧
      ∃ field rename,
        TabledField.generate 45 = .ok field ∧
          Renames rename field.arithmetic Standard.field.arithmetic := by
  have generated := Standard.generate_defaultPolynomial
  constructor
  · have inverts : (ShiftAddField.arithmetic ⟨27⟩).InvertsNonzero := by
      have order : orderOf (residue 27 3) = multiplicativeOrder :=
        orderOf_residue_eq (by decide +kernel) (by decide +kernel)
      exact invertsNonzero_of_orderOf order
    have standardInverts :=
      (TabledField.tabulates_of_generate
        generated).inverts.generates.invertsNonzero
    exact ⟨by decide +kernel, inverts,
      renaming_of_inverses.1 inverts standardInverts⟩
  · have generates : TwoGenerates 45 := by
      have order : orderOf (residue 45 2) = multiplicativeOrder :=
        orderOf_residue_eq (by decide +kernel) (by decide +kernel)
      rw [residue_two] at order
      exact order
    obtain ⟨field, otherGenerated⟩ :=
      (TabledField.exists_generate_iff 45).mpr
        (LogarithmTable.exists_generate_of_twoGenerates generates)
    obtain ⟨rename, _, renames⟩ :=
      renaming_of_inverses.2 otherGenerated generated
    exact ⟨field, rename, otherGenerated, renames⟩

end ByteField
