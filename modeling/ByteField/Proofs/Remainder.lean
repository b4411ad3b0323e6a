import ByteField.Proofs.Residue

namespace ByteField

open Polynomial

/-!
# The product as a remainder

Multiplication by shifting and adding is multiplication of polynomials over
the two-element field, followed by division by the modulus.  Its rounds may be
carried out to the end without any decision, with masks in place of the tests.
-/

namespace ShiftAdd

/--
The given number of rounds, each of them carried out in full.

A mask has every bit set if the bit it is made from is set, and none otherwise;
it lets through what is to be added.
-/
def maskedRounds
    (polynomial : Element) :
    Nat → Element → Element → Element → Element
  | 0, accumulated, _, _ => accumulated
  | count + 1, accumulated, left, right =>
      maskedRounds polynomial count
        (accumulated ^^^ (-(right &&& 1) &&& left))
        ((left <<< 1) ^^^ (-((left &&& 0x80) >>> 7) &&& polynomial))
        (right >>> 1)

/-- A mask made from the lowest bit lets the left factor through if it is selected. -/
theorem select_eq_masked
    (accumulated left right : Element) :
    select accumulated left right =
      accumulated ^^^ (-(right &&& 1) &&& left) := by
  unfold select
  by_cases unset : right &&& 1 = 0
  · simp [unset]
  · have set : right &&& 1 = 1 := by
      rw [← UInt8.toNat_inj] at unset ⊢
      simp [Nat.and_one_is_mod] at unset ⊢
      exact unset
    rw [set, UInt8.neg_one_and]
    simp

/-- A mask made from the highest bit lets the polynomial through if a term is pushed out. -/
theorem double_eq_masked
    (polynomial element : Element) :
    double polynomial element =
      (element <<< 1) ^^^
        (-((element &&& 0x80) >>> 7) &&& polynomial) := by
  unfold double
  by_cases unset : element &&& 0x80 = 0
  · simp [unset]
  · have set : element &&& 0x80 = 0x80 := by
      rw [← UInt8.toNat_inj, toNat_and_highest] at unset ⊢
      cases highest : element.toNat.testBit 7 with
      | false =>
          simp [highest] at unset
      | true =>
          rfl
    have moved : (0x80 : Element) >>> 7 = 1 := by
      decide
    rw [set, moved, UInt8.neg_one_and]
    simp

/-- Ending early makes no difference, wherever the rounds begin. -/
theorem rounds_eq_maskedRounds
    (polynomial : Element)
    (count : Nat)
    (accumulated left right : Element) :
    rounds polynomial count accumulated left right =
      maskedRounds polynomial count accumulated left right := by
  induction count generalizing accumulated left right with
  | zero =>
      rfl
  | succ count inductionHypothesis =>
      rw [rounds_succ, maskedRounds, inductionHypothesis,
        select_eq_masked, double_eq_masked]

/-- The product and the product of the polynomials differ by a multiple of the modulus. -/
theorem modulus_dvd_sub_multiply
    (polynomial left right : Element) :
    modulus polynomial ∣
      polynomialOf left * polynomialOf right -
        polynomialOf (multiply polynomial left right) := by
  apply AdjoinRoot.mk_eq_mk.mp
  rw [map_mul]
  exact (residue_multiply polynomial left right).symm

end ShiftAdd

/-- A polynomial has degree at most seven exactly if its degree is below that of the modulus. -/
theorem natDegree_le_seven_iff
    (polynomial : Element)
    (candidate : (ZMod 2)[X]) :
    candidate.natDegree ≤ 7 ↔
      candidate.degree < (modulus polynomial).degree := by
  rw [degree_modulus, natDegree_le_iff_coeff_eq_zero]
  exact (degree_lt_iff_coeff_zero candidate 8).symm

/-- A remainder is what is small enough and differs by a multiple of the modulus. -/
theorem eq_modByMonic_iff
    (polynomial : Element)
    (dividend remainder : (ZMod 2)[X]) :
    remainder = dividend %ₘ modulus polynomial ↔
      remainder.natDegree ≤ 7 ∧
        modulus polynomial ∣ dividend - remainder := by
  rw [natDegree_le_seven_iff polynomial]
  have monic := monic_modulus polynomial
  constructor
  · rintro rfl
    refine ⟨degree_modByMonic_lt dividend monic, dividend /ₘ modulus polynomial, ?_⟩
    rw [modByMonic_eq_sub_mul_div]
    ring
  · rintro ⟨small, quotient, difference⟩
    have division :
        remainder + modulus polynomial * quotient = dividend := by
      rw [← difference]
      ring
    exact (div_modByMonic_unique quotient remainder monic
      ⟨division, small⟩).2.symm

/--
Under every byte, reducible or not, the product of two elements is the
remainder of the product of their polynomials, that is, the only polynomial of
degree at most seven that differs from it by a multiple of the modulus; and all
eight rounds, carried out in full, come to the same product.
-/
theorem polynomialOf_multiply_eq_remainder
    (polynomial left right : Element) :
    polynomialOf ((ShiftAddField.arithmetic ⟨polynomial⟩).multiply left right) =
        (polynomialOf left * polynomialOf right) %ₘ modulus polynomial ∧
      (∀ remainder : (ZMod 2)[X],
        remainder =
            polynomialOf ((ShiftAddField.arithmetic ⟨polynomial⟩).multiply left right) ↔
          remainder.natDegree ≤ 7 ∧
            modulus polynomial ∣
              polynomialOf left * polynomialOf right - remainder) ∧
      (ShiftAddField.arithmetic ⟨polynomial⟩).multiply left right =
        ShiftAdd.maskedRounds polynomial 8 0 left right := by
  have remainderShape :
      polynomialOf (ShiftAdd.multiply polynomial left right) =
        (polynomialOf left * polynomialOf right) %ₘ modulus polynomial := by
    refine (eq_modByMonic_iff polynomial _ _).mpr ⟨?_, ?_⟩
    · rw [natDegree_le_seven_iff polynomial, degree_modulus]
      exact degree_polynomialOf_lt _
    · exact ShiftAdd.modulus_dvd_sub_multiply polynomial left right
  refine ⟨remainderShape, ?_, ?_⟩
  · intro remainder
    change remainder = polynomialOf (ShiftAdd.multiply polynomial left right) ↔ _
    rw [remainderShape]
    exact eq_modByMonic_iff polynomial _ remainder
  · exact ShiftAdd.rounds_eq_maskedRounds polynomial 8 0 left right

end ByteField
