import ByteField.Generators
import ByteField.Proofs.Walk
import ByteField.Standard
import Mathlib.Tactic.NormNum.Prime

namespace ByteField

/-!
# Which polynomials have logarithms, and what these are

A polynomial is accepted exactly if the multiplicative order of two under it
is 255.  Its table then answers the question for a logarithm with the exponent
modulo 255, for every power of two and for nothing else; and every element but
zero is such a power.
-/

namespace LogarithmTable

variable {table : LogarithmTable} {polynomial : Element}

/-- The logarithm of a nonzero element is what its slot holds. -/
theorem log?_of_ne_zero
    (table : LogarithmTable)
    {element : Element}
    (nonzero : element ≠ 0) :
    table.log? element = some (UInt8.ofNat (table.slot element)) := by
  rw [log?, if_neg nonzero, slot, UInt8.ofNat_toNat]

namespace Inverts

/-- A logarithm is the exponent of a power of two, modulo 255. -/
theorem log?_eq_some_iff
    (inverts : table.Inverts polynomial)
    (element : Element)
    (count : Nat) :
    table.log? element = some (UInt8.ofNat (count % multiplicativeOrder)) ↔
      element = powerOfTwo polynomial count := by
  constructor
  · intro logarithm
    have nonzero : element ≠ 0 := by
      rintro rfl
      simp [log?] at logarithm
    obtain ⟨below, reached⟩ := inverts.powerOfTwo_slot nonzero
    have remainderBelow : count % multiplicativeOrder < multiplicativeOrder :=
      Nat.mod_lt _ (by decide)
    rw [table.log?_of_ne_zero nonzero, Option.some.injEq,
      ← UInt8.toNat_inj,
      toNat_ofNat_of_lt_order below,
      toNat_ofNat_of_lt_order remainderBelow] at logarithm
    rw [← reached, logarithm, inverts.generates.powerOfTwo_mod]
  · rintro rfl
    rw [table.log?_of_ne_zero (inverts.generates.powerOfTwo_ne_zero count),
      inverts.slot_powerOfTwo_mod]

/-- A nonzero element has a logarithm, and is two to the power of no other number below 255. -/
theorem exists_log
    (inverts : table.Inverts polynomial)
    {element : Element}
    (nonzero : element ≠ 0) :
    ∃ log : UInt8,
      table.log? element = some log ∧
        log.toNat ≤ 254 ∧
        ∀ exponent ≤ 254,
          element = powerOfTwo polynomial exponent ↔ exponent = log.toNat := by
  obtain ⟨below, reached⟩ := inverts.powerOfTwo_slot nonzero
  have byte :
      (UInt8.ofNat (table.slot element)).toNat = table.slot element :=
    toNat_ofNat_of_lt_order below
  refine ⟨_, table.log?_of_ne_zero nonzero, ?_, ?_⟩
  · rw [byte]
    exact Nat.le_of_lt_succ below
  · intro exponent small
    rw [byte]
    constructor
    · rintro rfl
      rw [inverts.slot_powerOfTwo (Nat.lt_succ_of_le small)]
    · rintro rfl
      exact reached.symm

end Inverts

end LogarithmTable

/-- While two generates, a walk goes on for 255 steps and never stands on zero. -/
theorem TwoGenerates.after_eq_ok
    {polynomial : Element}
    (generates : TwoGenerates polynomial)
    {count : Nat}
    (within : count ≤ multiplicativeOrder) :
    ∃ walk,
      Walk.after polynomial count = .ok walk ∧
        walk.element = (powerOfTwo polynomial count).toNat ∧
        walk.element ≠ 0 := by
  have distinct : DistinctBelow polynomial count := by
    intro first firstBelow second secondBelow same
    exact generates.distinctBelow
      (Nat.lt_of_lt_of_le firstBelow within)
      (Nat.lt_of_lt_of_le secondBelow within) same
  obtain ⟨walk, reached, standing⟩ :=
    Walk.after_of_distinctBelow distinct
  refine ⟨walk, reached, standing.element_eq, ?_⟩
  rw [standing.element_eq]
  intro isZero
  exact generates.powerOfTwo_ne_zero count (UInt8.toNat_inj.mp isZero)

/--
A polynomial has a table of logarithms, and a field, exactly if the order of
two is 255, and exactly if it is listed among the accepted ones, in ascending
order.  The table of such a polynomial gives the exponents of the powers of
two, modulo 255; every nonzero element has one logarithm below 255; and the
walk that fills the table visits only powers of two, never zero.
-/
theorem generate_iff_order_of_two
    (polynomial : Element) :
    ((∃ table, LogarithmTable.generate polynomial = .ok table) ↔
        powerOfTwo polynomial 255 = 1 ∧
          ∀ count, 0 < count → count < 255 →
            powerOfTwo polynomial count ≠ 1) ∧
      ((∃ field, TabledField.generate polynomial = .ok field) ↔
        ∃ table, LogarithmTable.generate polynomial = .ok table) ∧
      ((∃ table, LogarithmTable.generate polynomial = .ok table) ↔
        polynomial ∈ Generators.accepted) ∧
      Generators.accepted.Pairwise (· < ·) ∧
      ∀ table, LogarithmTable.generate polynomial = .ok table →
        (∀ element count,
            table.log? element = some (UInt8.ofNat (count % 255)) ↔
              element = powerOfTwo polynomial count) ∧
          (∀ element, element ≠ 0 →
            ∃ log : UInt8,
              table.log? element = some log ∧
                log.toNat ≤ 254 ∧
                ∀ exponent ≤ 254,
                  element = powerOfTwo polynomial exponent ↔
                    exponent = log.toNat) ∧
          ∀ count ≤ 255,
            ∃ walk,
              Walk.after polynomial count = .ok walk ∧
                walk.element = (powerOfTwo polynomial count).toNat ∧
                walk.element ≠ 0 := by
  refine ⟨?_, ?_, Generators.mem_accepted_iff.symm,
    Generators.accepted_ascending, ?_⟩
  · rw [LogarithmTable.exists_generate_iff, twoGenerates_iff]
    rfl
  · exact TabledField.exists_generate_iff polynomial
  · intro table generated
    have inverts := LogarithmTable.inverts_of_generate generated
    refine ⟨inverts.log?_eq_some_iff, ?_, ?_⟩
    · intro element nonzero
      exact inverts.exists_log nonzero
    · intro count within
      exact inverts.generates.after_eq_ok within

/-- Under the default polynomial the logarithm of 29 is eight, the remainder of 263. -/
theorem generate_iff_order_of_two_standard :
    LogarithmTable.generate defaultPolynomial =
        .ok Standard.field.logarithms ∧
      Standard.field.logarithms.log? 29 = some 8 := by
  have generated :
      LogarithmTable.generate defaultPolynomial =
        .ok Standard.field.logarithms :=
    (TabledField.generate_eq_ok_iff.mp
      Standard.generate_defaultPolynomial).2.1
  refine ⟨generated, ?_⟩
  have logarithms :=
    (generate_iff_order_of_two defaultPolynomial).2.2.2.2 _ generated
  exact (logarithms.1 29 263).mpr (by decide +kernel)

/-! ## The list of accepted polynomials -/

/-- Doubling one again and again on numbers goes through the powers of two. -/
theorem iterate_double_one
    (polynomial : Element)
    (count : Nat) :
    (Walk.double polynomial)^[count] 1 =
      (powerOfTwo polynomial count).toNat := by
  induction count with
  | zero =>
      rfl
  | succ count inductionHypothesis =>
      rw [Function.iterate_succ_apply', inductionHypothesis,
        Walk.double_toNat, powerOfTwo_succ]

/-- To find the order, the largest proper divisors of 255 are the only smaller exponents to try. -/
theorem twoGenerates_iff_divisors
    (polynomial : Element) :
    TwoGenerates polynomial ↔
      powerOfTwo polynomial 255 = 1 ∧
        powerOfTwo polynomial 85 ≠ 1 ∧
        powerOfTwo polynomial 51 ≠ 1 ∧
        powerOfTwo polynomial 15 ≠ 1 := by
  constructor
  · intro generates
    obtain ⟨whole, early⟩ := (twoGenerates_iff polynomial).mp generates
    exact ⟨whole, early 85 (by decide) (by decide),
      early 51 (by decide) (by decide), early 15 (by decide) (by decide)⟩
  · rintro ⟨whole, byThree, byFive, bySeventeen⟩
    rw [powerOfTwo_eq_one_iff] at whole
    apply orderOf_eq_of_pow_and_pow_div_prime (by decide) whole
    intro prime isPrime divides
    have known : prime = 3 ∨ prime = 5 ∨ prime = 17 := by
      have factors : 255 = 3 * (5 * 17) :=
        rfl
      rw [factors, isPrime.dvd_mul, isPrime.dvd_mul,
        Nat.prime_dvd_prime_iff_eq isPrime (by norm_num),
        Nat.prime_dvd_prime_iff_eq isPrime (by norm_num),
        Nat.prime_dvd_prime_iff_eq isPrime (by norm_num)] at divides
      exact divides
    rw [Ne, ← powerOfTwo_eq_one_iff]
    rcases known with rfl | rfl | rfl
    · exact byThree
    · exact byFive
    · exact bySeventeen

/-- The condition for being accepted, on numbers; it is met by odd polynomials only. -/
theorem isGenerating_iff
    (polynomial : Element) :
    Generators.isGenerating polynomial = true ↔
      polynomial.toNat % 2 = 1 ∧
        (Walk.double polynomial)^[255] 1 = 1 ∧
        (Walk.double polynomial)^[85] 1 ≠ 1 ∧
        (Walk.double polynomial)^[51] 1 ≠ 1 ∧
        (Walk.double polynomial)^[15] 1 ≠ 1 := by
  have isOne
      (count : Nat) :
      (Walk.double polynomial)^[count] 1 = 1 ↔
        powerOfTwo polynomial count = 1 := by
    rw [iterate_double_one, ← UInt8.toNat_inj]
    rfl
  have accepted :
      Generators.isGenerating polynomial = true ↔
        TwoGenerates polynomial := by
    rw [← LogarithmTable.exists_generate_iff, ← Generators.mem_accepted_iff,
      Generators.accepted, List.mem_filter]
    exact ⟨fun accepted => ⟨mem_allElements polynomial, accepted⟩, And.right⟩
  simp only [Ne, isOne, accepted, ← twoGenerates_iff_divisors]
  constructor
  · intro generates
    refine ⟨?_, generates⟩
    have odd := generates.distinctBelow.odd
    have notEven : ¬ polynomial.toNat % 2 = 0 := by
      intro even
      rw [(coefficient_zero_eq_zero_iff polynomial).mpr even] at odd
      exact zero_ne_one odd
    omega
  · rintro ⟨_, generates⟩
    exact generates

/-- Sixteen polynomials are accepted. -/
theorem accepted_eq :
    Generators.accepted =
      [29, 43, 45, 77, 95, 99, 101, 105, 113, 135, 141, 169, 195, 207, 231,
        245] := by
  have condition :
      Generators.accepted =
        allElements.filter fun polynomial =>
          polynomial.toNat % 2 = 1 ∧
            (Walk.double polynomial)^[255] 1 = 1 ∧
            (Walk.double polynomial)^[85] 1 ≠ 1 ∧
            (Walk.double polynomial)^[51] 1 ≠ 1 ∧
            (Walk.double polynomial)^[15] 1 ≠ 1 := by
    apply List.filter_congr
    intro polynomial _
    rw [Bool.eq_iff_iff, isGenerating_iff, decide_eq_true_eq]
  rw [condition]
  decide +kernel

end ByteField
