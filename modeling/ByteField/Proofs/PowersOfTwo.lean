import ByteField.Proofs.Residue
import Mathlib.GroupTheory.OrderOfElement
import Mathlib.RingTheory.Fintype

namespace ByteField

open Polynomial

/-!
# Powers of the element two

Two generates the nonzero elements under a polynomial if its multiplicative
order is their number.  For this it is enough that its first 255 powers are
pairwise different: then the polynomial is odd, since doubling under an even
one gives even elements only and there are too few of them; under an odd
polynomial two has an inverse, so no power of it is zero; and the nonzero
elements leave no room for a larger order.
-/

/-- The product of a number of copies of two. -/
def powerOfTwo
    (polynomial : Element)
    (count : Nat) :
    Element :=
  Arithmetic.productOfCopies (ShiftAdd.multiply polynomial) 2 count

/-- The multiplicative order of two is the number of nonzero elements. -/
def TwoGenerates
    (polynomial : Element) :
    Prop :=
  orderOf (AdjoinRoot.root (modulus polynomial)) = multiplicativeOrder

/-- The powers of two with exponents below a number are pairwise different. -/
def DistinctBelow
    (polynomial : Element)
    (count : Nat) :
    Prop :=
  Set.InjOn (powerOfTwo polynomial) (Set.Iio count)

/-- A power of two has the power of the root as its residue. -/
@[simp] theorem residue_powerOfTwo
    (polynomial : Element)
    (count : Nat) :
    residue polynomial (powerOfTwo polynomial count) =
      AdjoinRoot.root (modulus polynomial) ^ count := by
  rw [powerOfTwo, ShiftAdd.residue_productOfCopies, residue_two]

/-- The next power of two is the double. -/
theorem powerOfTwo_succ
    (polynomial : Element)
    (count : Nat) :
    powerOfTwo polynomial (count + 1) =
      ShiftAdd.double polynomial (powerOfTwo polynomial count) := by
  apply residue_injective polynomial
  rw [residue_powerOfTwo, ShiftAdd.residue_double,
    residue_powerOfTwo, pow_succ']

/-- The product of powers of two is the power with the sum of the exponents. -/
theorem multiply_powerOfTwo
    (polynomial : Element)
    (first second : Nat) :
    ShiftAdd.multiply polynomial
        (powerOfTwo polynomial first) (powerOfTwo polynomial second) =
      powerOfTwo polynomial (first + second) := by
  apply residue_injective polynomial
  rw [ShiftAdd.residue_multiply, residue_powerOfTwo,
    residue_powerOfTwo, residue_powerOfTwo, pow_add]

theorem powerOfTwo_eq_iff
    {polynomial : Element}
    {first second : Nat} :
    powerOfTwo polynomial first = powerOfTwo polynomial second ↔
      AdjoinRoot.root (modulus polynomial) ^ first =
        AdjoinRoot.root (modulus polynomial) ^ second := by
  rw [← residue_inj polynomial,
    residue_powerOfTwo, residue_powerOfTwo]

theorem powerOfTwo_eq_one_iff
    {polynomial : Element}
    {count : Nat} :
    powerOfTwo polynomial count = 1 ↔
      AdjoinRoot.root (modulus polynomial) ^ count = 1 := by
  rw [← residue_eq_one_iff polynomial, residue_powerOfTwo]

/-- The eighth power of two is the rest of the modulus, which is the polynomial. -/
theorem powerOfTwo_eight
    (polynomial : Element) :
    powerOfTwo polynomial 8 = polynomial := by
  apply residue_injective polynomial
  have vanishes := root_pow_add_residue polynomial
  have twice :
      residue polynomial polynomial + residue polynomial polynomial = 0 := by
    rw [← residue_sum, sum, UInt8.xor_self, residue_zero]
  rw [residue_powerOfTwo]
  linear_combination vanishes - twice

/-- Two generates exactly if its 255th power is its first to be one again. -/
theorem twoGenerates_iff
    (polynomial : Element) :
    TwoGenerates polynomial ↔
      powerOfTwo polynomial multiplicativeOrder = 1 ∧
        ∀ count, 0 < count → count < multiplicativeOrder →
          powerOfTwo polynomial count ≠ 1 := by
  rw [TwoGenerates, orderOf_eq_iff (by decide)]
  simp only [Ne, powerOfTwo_eq_one_iff]
  constructor
  · rintro ⟨full, early⟩
    exact ⟨full, fun count positive below => early count below positive⟩
  · rintro ⟨full, early⟩
    exact ⟨full, fun count below positive => early count positive below⟩

/-! ## From different powers to the order -/

/-- A double is odd only if the polynomial is. -/
theorem coefficient_double_zero
    (polynomial element : Element) :
    coefficient (ShiftAdd.double polynomial element) 0 =
      coefficient element 7 * coefficient polynomial 0 := by
  rw [← coeff_polynomialOf, ShiftAdd.polynomialOf_double, modulus]
  simp [coeff_X_pow]

/-- Under an even polynomial every double is even. -/
theorem powerOfTwo_succ_even
    {polynomial : Element}
    (even : coefficient polynomial 0 = 0)
    (count : Nat) :
    (powerOfTwo polynomial (count + 1)).toNat % 2 = 0 := by
  apply (coefficient_zero_eq_zero_iff _).mp
  rw [powerOfTwo_succ, coefficient_double_zero, even, mul_zero]

/-- Under an even polynomial a double is determined by its half. -/
theorem powerOfTwo_succ_eq_of_half_eq
    {polynomial : Element}
    (even : coefficient polynomial 0 = 0)
    {first second : Nat}
    (sameHalf :
      (powerOfTwo polynomial (first + 1)).toNat / 2 =
        (powerOfTwo polynomial (second + 1)).toNat / 2) :
    powerOfTwo polynomial (first + 1) =
      powerOfTwo polynomial (second + 1) := by
  have firstEven := powerOfTwo_succ_even even first
  have secondEven := powerOfTwo_succ_even even second
  apply UInt8.toNat_inj.mp
  omega

/-- A polynomial under which the first 255 powers of two differ is odd. -/
theorem DistinctBelow.odd
    {polynomial : Element}
    (distinct : DistinctBelow polynomial multiplicativeOrder) :
    coefficient polynomial 0 = 1 := by
  rcases coefficient_eq_zero_or_one polynomial 0 with even | odd
  · exfalso
    -- The halves of the 254 proper doubles would be different numbers below 128.
    let half (count : Nat) : Nat :=
      (powerOfTwo polynomial (count + 1)).toNat / 2
    have inside :
        Set.MapsTo half (Finset.range 254) (Finset.range 128) := by
      intro count _
      have byte := (powerOfTwo polynomial (count + 1)).toNat_lt
      simp only [half, Finset.coe_range, Set.mem_Iio]
      omega
    have different : Set.InjOn half (Finset.range 254) := by
      intro first firstBelow second secondBelow sameHalf
      simp only [Finset.coe_range, Set.mem_Iio] at firstBelow secondBelow
      have sameByte :=
        powerOfTwo_succ_eq_of_half_eq even sameHalf
      have sameExponent : first + 1 = second + 1 :=
        distinct (Nat.succ_lt_succ firstBelow)
          (Nat.succ_lt_succ secondBelow) sameByte
      omega
    have crowded :=
      Finset.card_le_card_of_injOn half inside different
    simp at crowded
  · exact odd

/-- Under an odd polynomial two has an inverse. -/
theorem isUnit_root
    {polynomial : Element}
    (odd : coefficient polynomial 0 = 1) :
    IsUnit (AdjoinRoot.root (modulus polynomial)) := by
  have vanishes := root_pow_add_residue polynomial
  rw [residue_eq_add_shiftRight, odd, map_one] at vanishes
  apply IsUnit.of_mul_eq_one
    (-(AdjoinRoot.root (modulus polynomial) ^ 7 +
      residue polynomial (polynomial >>> 1)))
  linear_combination -vanishes

/-- If the first 255 powers of two differ, two generates. -/
theorem DistinctBelow.twoGenerates
    {polynomial : Element}
    (distinct : DistinctBelow polynomial multiplicativeOrder) :
    TwoGenerates polynomial := by
  have positive : 0 < orderOf (AdjoinRoot.root (modulus polynomial)) :=
    (isUnit_root distinct.odd).isOfFinOrder.orderOf_pos
  have bounded :
      orderOf (AdjoinRoot.root (modulus polynomial)) < fieldSize := by
    rw [← card_residues polynomial]
    exact orderOf_lt_card _
  have large :
      multiplicativeOrder ≤ orderOf (AdjoinRoot.root (modulus polynomial)) := by
    by_contra small
    have returned :
        powerOfTwo polynomial (orderOf (AdjoinRoot.root (modulus polynomial))) =
          powerOfTwo polynomial 0 := by
      rw [powerOfTwo_eq_iff, pow_orderOf_eq_one, pow_zero]
    have order :=
      distinct (Set.mem_Iio.mpr (by omega))
        (Set.mem_Iio.mpr (by decide)) returned
    omega
  unfold TwoGenerates
  unfold fieldSize at bounded
  unfold multiplicativeOrder at large ⊢
  omega

namespace TwoGenerates

variable {polynomial : Element}

/-- If two generates, its first 255 powers differ. -/
theorem distinctBelow
    (generates : TwoGenerates polynomial) :
    DistinctBelow polynomial multiplicativeOrder := by
  intro first firstBelow second secondBelow same
  rw [← generates] at firstBelow secondBelow
  exact pow_injOn_Iio_orderOf firstBelow secondBelow
    (powerOfTwo_eq_iff.mp same)

/-- The exponent of a power of two counts modulo 255. -/
theorem powerOfTwo_mod
    (generates : TwoGenerates polynomial)
    (count : Nat) :
    powerOfTwo polynomial (count % multiplicativeOrder) =
      powerOfTwo polynomial count := by
  rw [powerOfTwo_eq_iff, ← generates, pow_mod_orderOf]

/-- Exponents that agree modulo 255 have the same power of two. -/
theorem powerOfTwo_congr
    (generates : TwoGenerates polynomial)
    {first second : Nat}
    (same : first % multiplicativeOrder = second % multiplicativeOrder) :
    powerOfTwo polynomial first = powerOfTwo polynomial second := by
  rw [← generates.powerOfTwo_mod first, same,
    generates.powerOfTwo_mod second]

theorem powerOfTwo_order
    (generates : TwoGenerates polynomial) :
    powerOfTwo polynomial multiplicativeOrder = 1 :=
  ((twoGenerates_iff polynomial).mp generates).1

theorem powerOfTwo_ne_zero
    (generates : TwoGenerates polynomial)
    (count : Nat) :
    powerOfTwo polynomial count ≠ 0 := by
  rw [Ne, ← residue_eq_zero_iff polynomial,
    residue_powerOfTwo]
  have finite : IsOfFinOrder (AdjoinRoot.root (modulus polynomial)) := by
    rw [← orderOf_pos_iff, generates]
    decide
  exact (finite.isUnit.pow count).ne_zero

/-- The first 255 powers of two are the nonzero elements. -/
theorem perm_nonzeroElements
    (generates : TwoGenerates polynomial) :
    ((List.range multiplicativeOrder).map (powerOfTwo polynomial)).Perm
      nonzeroElements := by
  have nodup :
      ((List.range multiplicativeOrder).map (powerOfTwo polynomial)).Nodup := by
    apply List.Nodup.map_on _ List.nodup_range
    intro first firstBelow second secondBelow same
    exact generates.distinctBelow
      (List.mem_range.mp firstBelow) (List.mem_range.mp secondBelow) same
  have nonzero :
      (List.range multiplicativeOrder).map (powerOfTwo polynomial) ⊆
        nonzeroElements := by
    intro element member
    obtain ⟨count, _, rfl⟩ := List.mem_map.mp member
    exact mem_nonzeroElements.mpr (generates.powerOfTwo_ne_zero count)
  apply (nodup.subperm nonzero).perm_of_length_le
  simp [nonzeroElements]

/-- Every nonzero element is a power of two. -/
theorem exists_powerOfTwo_eq
    (generates : TwoGenerates polynomial)
    {element : Element}
    (nonzero : element ≠ 0) :
    ∃ count < multiplicativeOrder, powerOfTwo polynomial count = element := by
  have listed :
      element ∈ (List.range multiplicativeOrder).map (powerOfTwo polynomial) :=
    generates.perm_nonzeroElements.mem_iff.mpr
      (mem_nonzeroElements.mpr nonzero)
  obtain ⟨count, below, reached⟩ := List.mem_map.mp listed
  exact ⟨count, List.mem_range.mp below, reached⟩

end TwoGenerates

end ByteField
