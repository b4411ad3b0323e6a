import ByteField.Element
import Mathlib.Algebra.CharP.Two
import Mathlib.Algebra.Field.ZMod
import Mathlib.Algebra.Polynomial.Degree.Operations
import Mathlib.Algebra.Polynomial.Monic
import Mathlib.Data.Nat.Bitwise

namespace ByteField

open Polynomial

/-!
# Elements as polynomials

The coefficients of an element are read off the bits of its byte.  They make
up a polynomial over the two-element field, of degree at most seven, and each
such polynomial belongs to exactly one element.  Sums and the two shifts of
bytes are operations on these polynomials.
-/

/-- The coefficient of `X ^ index` in the polynomial that an element stands for. -/
def coefficient
    (element : Element)
    (index : Nat) :
    ZMod 2 :=
  (element.toNat.testBit index).toNat

/-- The polynomial that an element stands for. -/
noncomputable def polynomialOf
    (element : Element) :
    (ZMod 2)[X] :=
  ∑ index ∈ Finset.range 8, monomial index (coefficient element index)

/-- A byte has no bits from number eight on. -/
theorem coefficient_of_le
    (element : Element)
    {index : Nat}
    (outside : 8 ≤ index) :
    coefficient element index = 0 := by
  have small : element.toNat < 2 ^ index :=
    Nat.lt_of_lt_of_le element.toNat_lt
      (Nat.pow_le_pow_right (by decide) outside)
  simp [coefficient, Nat.testBit_lt_two_pow small]

theorem coefficient_eq_zero_or_one
    (element : Element)
    (index : Nat) :
    coefficient element index = 0 ∨ coefficient element index = 1 := by
  unfold coefficient
  cases element.toNat.testBit index <;> simp

theorem coefficient_eq_iff
    (left right : Element)
    (index : Nat) :
    coefficient left index = coefficient right index ↔
      left.toNat.testBit index = right.toNat.testBit index := by
  unfold coefficient
  cases left.toNat.testBit index <;>
    cases right.toNat.testBit index <;> simp

/-- The sum of elements is taken coefficient by coefficient. -/
theorem coefficient_sum
    (left right : Element)
    (index : Nat) :
    coefficient (sum left right) index =
      coefficient left index + coefficient right index := by
  unfold coefficient sum
  rw [UInt8.toNat_xor, Nat.testBit_xor]
  cases left.toNat.testBit index <;>
    cases right.toNat.testBit index <;> decide

/-- The right shift lowers every coefficient by one place. -/
theorem coefficient_shiftRight
    (element : Element)
    (index : Nat) :
    coefficient (element >>> 1) index =
      coefficient element (index + 1) := by
  simp [coefficient, Nat.testBit_shiftRight, Nat.add_comm]

/-- The left shift raises every coefficient but the topmost, which is lost. -/
theorem coefficient_shiftLeft_succ
    (element : Element)
    (index : Nat) :
    coefficient (element <<< 1) (index + 1) =
      if index < 7 then coefficient element index else 0 := by
  unfold coefficient
  rw [UInt8.toNat_shiftLeft, Nat.testBit_mod_two_pow,
    Nat.testBit_shiftLeft]
  by_cases inside : index < 7
  · simp [inside, show index + 1 < 8 by omega]
  · simp [inside, show ¬ index + 1 < 8 by omega]

/-- The lowest bit of a byte is its remainder modulo two. -/
theorem coefficient_zero_eq_zero_iff
    (element : Element) :
    coefficient element 0 = 0 ↔ element.toNat % 2 = 0 := by
  rw [coefficient, Nat.testBit_zero]
  rcases Nat.mod_two_eq_zero_or_one element.toNat with even | odd
  · simp [even]
  · simp [odd]

/-- Masking out all but the lowest bit tests the lowest coefficient. -/
theorem and_one_eq_zero_iff
    (element : Element) :
    element &&& 1 = 0 ↔ coefficient element 0 = 0 := by
  rw [coefficient_zero_eq_zero_iff, ← UInt8.toNat_inj]
  simp [Nat.and_one_is_mod]

theorem toNat_and_highest
    (element : Element) :
    (element &&& 0x80).toNat =
      (element.toNat.testBit 7).toNat * 2 ^ 7 :=
  Nat.and_two_pow element.toNat 7

/-- Masking out all but the highest bit tests the highest coefficient. -/
theorem and_highest_eq_zero_iff
    (element : Element) :
    element &&& 0x80 = 0 ↔ coefficient element 7 = 0 := by
  rw [← UInt8.toNat_inj, toNat_and_highest, coefficient]
  cases element.toNat.testBit 7 with
  | false =>
      simp
  | true =>
      simp

@[simp] theorem coeff_polynomialOf
    (element : Element)
    (index : Nat) :
    (polynomialOf element).coeff index = coefficient element index := by
  simp only [polynomialOf, finsetSum_coeff, coeff_monomial,
    Finset.sum_ite_eq', Finset.mem_range]
  split
  · rfl
  · rw [coefficient_of_le element (by omega)]

theorem polynomialOf_injective :
    Function.Injective polynomialOf := by
  intro left right same
  apply UInt8.toNat_inj.mp
  apply Nat.eq_of_testBit_eq
  intro index
  have sameCoefficient :
      coefficient left index = coefficient right index := by
    simpa using congrArg (fun f => coeff f index) same
  exact (coefficient_eq_iff left right index).mp sameCoefficient

theorem degree_polynomialOf_lt
    (element : Element) :
    (polynomialOf element).degree < 8 := by
  apply (degree_lt_iff_coeff_zero _ _).mpr
  intro index outside
  rw [coeff_polynomialOf, coefficient_of_le element outside]

/-- Every polynomial of degree at most seven is the polynomial of an element. -/
theorem exists_polynomialOf_eq
    {target : (ZMod 2)[X]}
    (small : target.degree < 8) :
    ∃ element, polynomialOf element = target := by
  let bits : Fin 8 → Bool :=
    fun index => decide (target.coeff index = 1)
  have byte :
      (UInt8.ofNat (Nat.ofBits bits)).toNat = Nat.ofBits bits :=
    UInt8.toNat_ofNat_of_lt' (Nat.ofBits_lt_two_pow bits)
  have ofDecide :
      ∀ value : ZMod 2, ((decide (value = 1)).toNat : ZMod 2) = value := by
    decide
  refine ⟨UInt8.ofNat (Nat.ofBits bits), ?_⟩
  ext index
  rw [coeff_polynomialOf, coefficient, byte]
  by_cases inside : index < 8
  · rw [Nat.testBit_ofBits_lt _ _ inside]
    exact ofDecide (target.coeff index)
  · rw [Nat.testBit_ofBits_ge _ _ (by omega),
      (degree_lt_iff_coeff_zero target 8).mp small index (by omega)]
    rfl

@[simp] theorem polynomialOf_zero :
    polynomialOf 0 = 0 := by
  ext index
  simp [coefficient]

theorem polynomialOf_sum
    (left right : Element) :
    polynomialOf (sum left right) =
      polynomialOf left + polynomialOf right := by
  ext index
  rw [coeff_add, coeff_polynomialOf, coeff_polynomialOf,
    coeff_polynomialOf, coefficient_sum]

/-- A polynomial is its lowest coefficient and `X` times its right shift. -/
theorem polynomialOf_eq_add_shiftRight
    (element : Element) :
    polynomialOf element =
      C (coefficient element 0) + X * polynomialOf (element >>> 1) := by
  ext index
  cases index with
  | zero =>
      simp
  | succ index =>
      simp [coefficient_shiftRight]

/-- Multiplied by `X`, a polynomial is its left shift and the term pushed out. -/
theorem X_mul_polynomialOf
    (element : Element) :
    X * polynomialOf element =
      polynomialOf (element <<< 1) +
        C (coefficient element 7) * X ^ 8 := by
  ext index
  cases index with
  | zero =>
      simp [coefficient]
  | succ index =>
      simp only [coeff_X_mul, coeff_add, coeff_polynomialOf,
        coefficient_shiftLeft_succ, coeff_C_mul, coeff_X_pow]
      by_cases below : index < 7
      · simp [below, show index ≠ 7 by omega]
      · by_cases highest : index = 7
        · simp [highest]
        · have outside : 8 ≤ index := by
            omega
          simp [below, highest, coefficient_of_le element outside]

@[simp] theorem polynomialOf_one :
    polynomialOf 1 = 1 := by
  rw [polynomialOf_eq_add_shiftRight]
  have lowest : coefficient 1 0 = 1 := by
    decide
  have shifted : (1 : Element) >>> 1 = 0 := by
    decide
  simp [lowest, shifted]

@[simp] theorem polynomialOf_two :
    polynomialOf 2 = X := by
  rw [polynomialOf_eq_add_shiftRight]
  have lowest : coefficient 2 0 = 0 := by
    decide
  have shifted : (2 : Element) >>> 1 = 1 := by
    decide
  simp [lowest, shifted]

end ByteField
