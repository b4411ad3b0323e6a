import ByteField.Proofs.Coefficients
import ByteField.ShiftAdd
import Mathlib.RingTheory.AdjoinRoot
import Mathlib.Tactic.LinearCombination
import Mathlib.Tactic.Ring

namespace ByteField

open Polynomial

/-!
# Elements as residues

A byte `p` names the modulus `X ^ 8 + p`, and every residue modulo it is the
residue of exactly one element.  Adding, doubling and multiplying elements by
shifting and adding is adding, multiplying by the root and multiplying in the
residue ring, whether or not the modulus is irreducible.  A law of the residue
ring is thereby a law of the elements.
-/

/-- The polynomial of degree eight that a byte names. -/
noncomputable def modulus
    (polynomial : Element) :
    (ZMod 2)[X] :=
  X ^ 8 + polynomialOf polynomial

/-- The residue of an element modulo the polynomial that a byte names. -/
noncomputable def residue
    (polynomial element : Element) :
    AdjoinRoot (modulus polynomial) :=
  AdjoinRoot.mk (modulus polynomial) (polynomialOf element)

theorem monic_modulus
    (polynomial : Element) :
    (modulus polynomial).Monic :=
  monic_X_pow_add (degree_polynomialOf_lt polynomial)

theorem degree_modulus
    (polynomial : Element) :
    (modulus polynomial).degree = 8 := by
  have lower :
      (polynomialOf polynomial).degree < (X ^ 8 : (ZMod 2)[X]).degree := by
    rw [degree_X_pow]
    exact degree_polynomialOf_lt polynomial
  rw [modulus, degree_add_eq_left_of_degree_lt lower, degree_X_pow]
  rfl

/-- Division by the modulus leaves the polynomial of an element as it is. -/
theorem polynomialOf_modByMonic
    (polynomial element : Element) :
    polynomialOf element %ₘ modulus polynomial = polynomialOf element := by
  rw [modByMonic_eq_self_iff (monic_modulus polynomial),
    degree_modulus]
  exact degree_polynomialOf_lt element

theorem residue_injective
    (polynomial : Element) :
    Function.Injective (residue polynomial) := by
  intro left right same
  apply polynomialOf_injective
  have sameRemainder :=
    congrArg (AdjoinRoot.modByMonicHom (monic_modulus polynomial)) same
  simpa only [residue, AdjoinRoot.modByMonicHom_mk,
    polynomialOf_modByMonic] using sameRemainder

/-- Every residue is the residue of an element. -/
theorem residue_surjective
    (polynomial : Element) :
    Function.Surjective (residue polynomial) := by
  intro target
  obtain ⟨representative, rfl⟩ :=
    AdjoinRoot.mk_surjective target
  have small :
      (representative %ₘ modulus polynomial).degree < 8 := by
    rw [← degree_modulus polynomial]
    exact degree_modByMonic_lt representative (monic_modulus polynomial)
  obtain ⟨element, remainder⟩ :=
    exists_polynomialOf_eq small
  refine ⟨element, ?_⟩
  rw [residue, remainder]
  apply AdjoinRoot.mk_eq_mk.mpr
  refine ⟨-(representative /ₘ modulus polynomial), ?_⟩
  rw [modByMonic_eq_sub_mul_div]
  ring

@[simp] theorem residue_inj
    (polynomial : Element)
    {left right : Element} :
    residue polynomial left = residue polynomial right ↔ left = right :=
  (residue_injective polynomial).eq_iff

@[simp] theorem residue_zero
    (polynomial : Element) :
    residue polynomial 0 = 0 := by
  simp [residue]

@[simp] theorem residue_one
    (polynomial : Element) :
    residue polynomial 1 = 1 := by
  simp [residue]

/-- Two is a root of the modulus. -/
@[simp] theorem residue_two
    (polynomial : Element) :
    residue polynomial 2 = AdjoinRoot.root (modulus polynomial) := by
  simp [residue]

@[simp] theorem residue_sum
    (polynomial left right : Element) :
    residue polynomial (sum left right) =
      residue polynomial left + residue polynomial right := by
  simp [residue, polynomialOf_sum]

theorem residue_eq_zero_iff
    (polynomial : Element)
    {element : Element} :
    residue polynomial element = 0 ↔ element = 0 := by
  rw [← residue_zero polynomial, residue_inj]

theorem residue_eq_one_iff
    (polynomial : Element)
    {element : Element} :
    residue polynomial element = 1 ↔ element = 1 := by
  rw [← residue_one polynomial, residue_inj]

/-- There are as many residues as elements. -/
theorem card_residues
    (polynomial : Element) :
    Nat.card (AdjoinRoot (modulus polynomial)) = fieldSize := by
  have bijective :
      Function.Bijective
        (fun byte : Fin fieldSize => residue polynomial (UInt8.ofFin byte)) := by
    constructor
    · intro first second same
      exact congrArg UInt8.toFin (residue_injective polynomial same)
    · intro target
      obtain ⟨element, rfl⟩ := residue_surjective polynomial target
      exact ⟨element.toFin, rfl⟩
  rw [← Nat.card_eq_of_bijective _ bijective, Nat.card_fin]

instance finite_residues
    (polynomial : Element) :
    Finite (AdjoinRoot (modulus polynomial)) :=
  Nat.finite_of_card_ne_zero (by
    rw [card_residues]
    decide)

instance nontrivial_residues
    (polynomial : Element) :
    Nontrivial (AdjoinRoot (modulus polynomial)) :=
  ⟨residue polynomial 0, residue polynomial 1, by
    rw [Ne, residue_inj]
    decide⟩

/-- The modulus vanishes at its root. -/
theorem root_pow_add_residue
    (polynomial : Element) :
    AdjoinRoot.root (modulus polynomial) ^ 8 +
      residue polynomial polynomial = 0 := by
  have self : AdjoinRoot.mk (modulus polynomial) (modulus polynomial) = 0 :=
    AdjoinRoot.mk_self
  rw [modulus, map_add, map_pow, AdjoinRoot.mk_X] at self
  exact self

/-- A residue is its lowest coefficient and the root times its right shift. -/
theorem residue_eq_add_shiftRight
    (polynomial element : Element) :
    residue polynomial element =
      AdjoinRoot.of (modulus polynomial) (coefficient element 0) +
        AdjoinRoot.root (modulus polynomial) *
          residue polynomial (element >>> 1) := by
  rw [residue, polynomialOf_eq_add_shiftRight, map_add, map_mul,
    AdjoinRoot.mk_C, AdjoinRoot.mk_X]
  rfl

namespace ShiftAdd

/-- The left factor is added as many times as the lowest coefficient says. -/
theorem residue_select
    (polynomial accumulated left right : Element) :
    residue polynomial (select accumulated left right) =
      residue polynomial accumulated +
        AdjoinRoot.of (modulus polynomial) (coefficient right 0) *
          residue polynomial left := by
  unfold select
  rcases coefficient_eq_zero_or_one right 0 with unset | set
  · have masked : right &&& 1 = 0 :=
      (and_one_eq_zero_iff right).mpr unset
    simp [masked, unset]
  · have masked : right &&& 1 ≠ 0 := by
      rw [Ne, and_one_eq_zero_iff, set]
      decide
    simp only [masked, ↓reduceIte, set, map_one, one_mul]
    exact residue_sum polynomial accumulated left

/-- Doubling multiplies by `X` and takes the modulus away if it has been reached. -/
theorem polynomialOf_double
    (polynomial element : Element) :
    polynomialOf (double polynomial element) =
      X * polynomialOf element +
        C (coefficient element 7) * modulus polynomial := by
  rw [X_mul_polynomialOf, modulus]
  unfold double
  have cancelled :
      (X ^ 8 : (ZMod 2)[X]) + X ^ 8 = 0 :=
    CharTwo.add_self_eq_zero _
  rcases coefficient_eq_zero_or_one element 7 with unset | set
  · have masked : element &&& 0x80 = 0 :=
      (and_highest_eq_zero_iff element).mpr unset
    simp [masked, unset]
  · have masked : element &&& 0x80 ≠ 0 := by
      rw [Ne, and_highest_eq_zero_iff, set]
      decide
    simp only [masked, ↓reduceIte, set, map_one, one_mul]
    change polynomialOf (sum (element <<< 1) polynomial) = _
    rw [polynomialOf_sum]
    linear_combination -cancelled

/-- Doubling multiplies the residue by the root. -/
theorem residue_double
    (polynomial element : Element) :
    residue polynomial (double polynomial element) =
      AdjoinRoot.root (modulus polynomial) *
        residue polynomial element := by
  rw [residue, polynomialOf_double, map_add, map_mul, map_mul,
    AdjoinRoot.mk_self, AdjoinRoot.mk_X, mul_zero, add_zero]
  rfl

/--
Enough rounds add the product of the factors to the accumulated sum.

What every round keeps is the accumulated sum and the product of the shifted
factors, taken together.
-/
theorem residue_rounds
    (polynomial : Element)
    {count : Nat}
    (accumulated left : Element)
    {right : Element}
    (enough : right.toNat < 2 ^ count) :
    residue polynomial (rounds polynomial count accumulated left right) =
      residue polynomial accumulated +
        residue polynomial left * residue polynomial right := by
  induction count generalizing accumulated left right with
  | zero =>
      have exhausted : right = 0 := by
        apply UInt8.toNat_inj.mp
        simpa using enough
      simp [rounds, exhausted]
  | succ count inductionHypothesis =>
      have enoughLeft : (right >>> 1).toNat < 2 ^ count := by
        have shifted : (right >>> 1).toNat = right.toNat / 2 := by
          simp [Nat.shiftRight_succ]
        rw [shifted]
        omega
      rw [rounds_succ, inductionHypothesis _ _ enoughLeft,
        residue_select, residue_double,
        residue_eq_add_shiftRight polynomial right]
      ring

/-- The product of elements has the product of the residues. -/
@[simp] theorem residue_multiply
    (polynomial left right : Element) :
    residue polynomial (multiply polynomial left right) =
      residue polynomial left * residue polynomial right := by
  rw [multiply, residue_rounds polynomial 0 left right.toNat_lt,
    residue_zero, zero_add]

/-- The product of copies of an element has a power of the residue. -/
@[simp] theorem residue_productOfCopies
    (polynomial element : Element)
    (count : Nat) :
    residue polynomial
        (Arithmetic.productOfCopies (multiply polynomial) element count) =
      residue polynomial element ^ count := by
  induction count with
  | zero =>
      simp
  | succ count inductionHypothesis =>
      rw [Arithmetic.productOfCopies_succ, residue_multiply,
        inductionHypothesis, pow_succ]

end ShiftAdd

end ByteField
