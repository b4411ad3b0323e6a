import ByteField.Proofs.Walk
import Mathlib.Order.Bounds.Basic

namespace ByteField

/-!
# The first repetition

A polynomial is refused at the first power of two that an earlier one was
already, and that power and its number fit into bytes.  Under an odd polynomial
doubling can be undone, so the powers run in a circle and the first of them to
come again is one, at the multiplicative order of two.  Under an even polynomial
all doubles are even, so the powers run into a circle that one is not on.
-/

/-- The numbers of the powers of two that an earlier power was already. -/
def repetitions
    (polynomial : Element) :
    Set Nat :=
  { number |
    ∃ earlier < number,
      powerOfTwo polynomial earlier = powerOfTwo polynomial number }

/-- Where the powers before a repetition differ, it is the first one. -/
theorem DistinctBelow.isLeast_repetitions
    {polynomial : Element}
    {number : Nat}
    (distinct : DistinctBelow polynomial number)
    (repeated : number ∈ repetitions polynomial) :
    IsLeast (repetitions polynomial) number := by
  refine ⟨repeated, ?_⟩
  rintro other ⟨earlier, before, same⟩
  by_contra smaller
  have otherBelow : other < number :=
    Nat.lt_of_not_le smaller
  have sameNumber : earlier = other :=
    distinct (Nat.lt_trans before otherBelow) otherBelow same
  omega

/-- A positive number at which the powers are back at one is a repetition. -/
theorem mem_repetitions_of_eq_one
    {polynomial : Element}
    {number : Nat}
    (positive : 0 < number)
    (isOne : powerOfTwo polynomial number = 1) :
    number ∈ repetitions polynomial :=
  ⟨0, positive, isOne.symm⟩

/-! ## Odd polynomials -/

section Odd

variable {polynomial : Element} {number : Nat}

/-- Under an odd polynomial doubling can be undone, so a repetition leads back to one. -/
theorem powerOfTwo_sub_eq_one
    (odd : coefficient polynomial 0 = 1)
    {earlier : Nat}
    (before : earlier ≤ number)
    (same : powerOfTwo polynomial earlier = powerOfTwo polynomial number) :
    powerOfTwo polynomial (number - earlier) = 1 := by
  rw [powerOfTwo_eq_one_iff]
  apply ((isUnit_root odd).pow earlier).mul_left_cancel
  rw [← pow_add, Nat.add_sub_cancel' before, mul_one]
  exact (powerOfTwo_eq_iff.mp same).symm

/-- Under an odd polynomial the first power to come again is one. -/
theorem powerOfTwo_eq_one_of_isLeast
    (odd : coefficient polynomial 0 = 1)
    (least : IsLeast (repetitions polynomial) number) :
    powerOfTwo polynomial number = 1 := by
  obtain ⟨⟨earlier, before, same⟩, first⟩ := least
  have backAtOne := powerOfTwo_sub_eq_one odd (Nat.le_of_lt before) same
  -- Back at one after fewer doublings, the powers would have repeated before.
  have within : number ≤ number - earlier :=
    first (mem_repetitions_of_eq_one (Nat.sub_pos_of_lt before) backAtOne)
  have atStart : earlier = 0 := by
    omega
  rw [atStart] at backAtOne
  exact backAtOne

/-- Under an odd polynomial the first repetition is at the order of two. -/
theorem orderOf_root_eq_of_isLeast
    (odd : coefficient polynomial 0 = 1)
    (least : IsLeast (repetitions polynomial) number) :
    orderOf (AdjoinRoot.root (modulus polynomial)) = number := by
  have positive : 0 < number := by
    obtain ⟨earlier, before, _⟩ := least.1
    exact Nat.zero_lt_of_lt before
  rw [orderOf_eq_iff positive]
  constructor
  · exact powerOfTwo_eq_one_iff.mp (powerOfTwo_eq_one_of_isLeast odd least)
  · intro count below countPositive isOne
    have within : number ≤ count :=
      least.2 (mem_repetitions_of_eq_one countPositive
        (powerOfTwo_eq_one_iff.mpr isOne))
    omega

/-- Under an odd polynomial a power is one exactly at the multiples of the first repetition. -/
theorem powerOfTwo_eq_one_iff_dvd
    (odd : coefficient polynomial 0 = 1)
    (least : IsLeast (repetitions polynomial) number)
    (count : Nat) :
    powerOfTwo polynomial count = 1 ↔ number ∣ count := by
  rw [powerOfTwo_eq_one_iff, ← orderOf_root_eq_of_isLeast odd least,
    orderOf_dvd_iff_pow_eq_one]

end Odd

/-- Under an even polynomial no power but the first is one. -/
theorem powerOfTwo_ne_one_of_even
    {polynomial : Element}
    (even : coefficient polynomial 0 = 0)
    {count : Nat}
    (positive : 0 < count) :
    powerOfTwo polynomial count ≠ 1 := by
  intro isOne
  obtain ⟨earlier, rfl⟩ := Nat.exists_eq_add_one.mpr positive
  have double := powerOfTwo_succ_even even earlier
  rw [isOne] at double
  revert double
  decide

/-! ## The refusal -/

/--
A walk is refused at the first repetition: there it stands on the repeated
power and has made as many doublings, both of them values of a byte.
-/
theorem LogarithmTable.exists_walk_of_refused
    {polynomial : Element}
    {refusal : FieldError}
    (refused : LogarithmTable.generate polynomial = .error refusal) :
    ∃ number walk,
      IsLeast (repetitions polynomial) number ∧
        Walk.after polynomial number = .ok walk ∧
        walk.advance polynomial = .error refusal ∧
        walk.element = (powerOfTwo polynomial number).toNat ∧
        walk.doublings = number ∧
        number ≤ 254 ∧
        refusal =
          .duplicateLogarithm polynomial
            (powerOfTwo polynomial number) (UInt8.ofNat number) := by
  obtain ⟨number, below, distinct, repeated, isDuplicate⟩ :=
    firstRepeated_of_generate refused
  obtain ⟨walk, reached, standing⟩ := Walk.after_of_distinctBelow distinct
  refine ⟨number, walk, distinct.isLeast_repetitions repeated, reached, ?_,
    standing.element_eq, standing.doublings_eq, Nat.le_of_lt_succ below,
    isDuplicate⟩
  rw [isDuplicate]
  exact standing.advance_of_repeated repeated

/--
A polynomial without a table of logarithms is refused for the first power of
two that an earlier power was already: the error names that power and its
number, and what the walk has counted and come to there fits into bytes.  Under
an odd polynomial the power is one and the number is the multiplicative order
of two; under an even one neither this power nor any later one is one.
-/
theorem refused_at_first_repetition
    {polynomial : Element}
    {refusal : FieldError}
    (refused : LogarithmTable.generate polynomial = .error refusal) :
    ∃ element log : Element,
      refusal = .duplicateLogarithm polynomial element log ∧
        IsLeast (repetitions polynomial) log.toNat ∧
        element = powerOfTwo polynomial log.toNat ∧
        (∃ walk,
          Walk.after polynomial log.toNat = .ok walk ∧
            walk.advance polynomial = .error refusal ∧
            (walk.element = element.toNat ∧ walk.element ≤ 255) ∧
            walk.doublings = log.toNat ∧ walk.doublings ≤ 254) ∧
        (polynomial.toNat % 2 = 1 →
          element = 1 ∧
            ∀ count, powerOfTwo polynomial count = 1 ↔ log.toNat ∣ count) ∧
        (polynomial.toNat % 2 = 0 →
          element ≠ 1 ∧
            ∀ count, 0 < count → powerOfTwo polynomial count ≠ 1) := by
  obtain ⟨number, walk, least, reached, advanced, standsOn, counted, small,
      isDuplicate⟩ :=
    LogarithmTable.exists_walk_of_refused refused
  have byte : (UInt8.ofNat number).toNat = number :=
    toNat_ofNat_of_lt_order (Nat.lt_succ_of_le small)
  refine ⟨powerOfTwo polynomial number, UInt8.ofNat number, isDuplicate, ?_⟩
  rw [byte]
  refine ⟨least, rfl, ⟨walk, reached, advanced, ⟨standsOn, ?_⟩, counted, ?_⟩,
    ?_, ?_⟩
  · rw [standsOn]
    exact Nat.le_of_lt_succ (UInt8.toNat_lt _)
  · rw [counted]
    exact small
  · intro isOdd
    have odd : coefficient polynomial 0 = 1 := by
      refine (coefficient_eq_zero_or_one polynomial 0).resolve_left ?_
      rw [coefficient_zero_eq_zero_iff, isOdd]
      decide
    exact ⟨powerOfTwo_eq_one_of_isLeast odd least,
      powerOfTwo_eq_one_iff_dvd odd least⟩
  · intro isEven
    have even : coefficient polynomial 0 = 0 :=
      (coefficient_zero_eq_zero_iff polynomial).mpr isEven
    obtain ⟨earlier, before, _⟩ := least.1
    exact ⟨powerOfTwo_ne_one_of_even even (Nat.zero_lt_of_lt before),
      fun count => powerOfTwo_ne_one_of_even even⟩

/--
Under the irreducible polynomial 27 the powers are back at one after 51
doublings; modulo `X ^ 8` they end in zero and never come back to one.
-/
theorem refused_at_first_repetition_both_parities :
    (LogarithmTable.generate 27 = .error (.duplicateLogarithm 27 1 51) ∧
        ∀ count, powerOfTwo 27 count = 1 ↔ 51 ∣ count) ∧
      LogarithmTable.generate 0 = .error (.duplicateLogarithm 0 0 9) ∧
      ∀ count, 0 < count → powerOfTwo 0 count ≠ 1 := by
  have oddRefused :
      LogarithmTable.generate 27 = .error (.duplicateLogarithm 27 1 51) := by
    decide +kernel
  have evenRefused :
      LogarithmTable.generate 0 = .error (.duplicateLogarithm 0 0 9) := by
    decide +kernel
  obtain ⟨_, oddLog, oddError, _, _, _, odd, _⟩ :=
    refused_at_first_repetition oddRefused
  obtain ⟨_, _, _, _, _, _, _, even⟩ :=
    refused_at_first_repetition evenRefused
  cases oddError
  exact ⟨⟨oddRefused, (odd (by decide)).2⟩, evenRefused, (even (by decide)).2⟩

end ByteField
