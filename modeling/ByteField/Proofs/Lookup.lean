import ByteField.Proofs.PowerTable
import ByteField.Proofs.RingLaws
import ByteField.TabledField

namespace ByteField

/-!
# Lookup computes what shifting and adding computes

Where two generates, every nonzero element is a power of two, and each
operation on powers of two comes down to their exponents.  The tables carry an
element to its exponent and an exponent back to its element, so the operations
by lookup have the results, and the refusals, of the operations without tables.
-/

/-- A product of copies of a power of two multiplies the exponent. -/
theorem productOfCopies_powerOfTwo
    (polynomial : Element)
    (exponent count : Nat) :
    Arithmetic.productOfCopies (ShiftAdd.multiply polynomial)
        (powerOfTwo polynomial exponent) count =
      powerOfTwo polynomial (exponent * count) := by
  apply residue_injective polynomial
  rw [ShiftAdd.residue_productOfCopies, residue_powerOfTwo,
    residue_powerOfTwo, pow_mul]

namespace TwoGenerates

variable {polynomial : Element}

/-- The inverse of a power of two has the complementary exponent. -/
theorem leastLeftInverse_powerOfTwo
    (generates : TwoGenerates polynomial)
    {exponent : Nat}
    (below : exponent < multiplicativeOrder) :
    Arithmetic.leastLeftInverse (ShiftAdd.multiply polynomial)
        (powerOfTwo polynomial exponent) =
      .ok (powerOfTwo polynomial (multiplicativeOrder - exponent)) := by
  have leftInverse :
      ShiftAdd.multiply polynomial
          (powerOfTwo polynomial (multiplicativeOrder - exponent))
          (powerOfTwo polynomial exponent) = 1 := by
    rw [multiply_powerOfTwo, Nat.sub_add_cancel (Nat.le_of_lt below),
      generates.powerOfTwo_order]
  exact (ShiftAdd.monoidWithZeroLaws polynomial).leastLeftInverse_eq_ok
    (generates.powerOfTwo_ne_zero _) (generates.powerOfTwo_ne_zero _)
    leftInverse

end TwoGenerates

/-- A field whose tables belong to its polynomial. -/
structure TabledField.Tabulates
    (field : TabledField)
    (polynomial : Element) :
    Prop where
  polynomial_eq :
    field.polynomial = polynomial
  inverts :
    field.logarithms.Inverts polynomial
  power_eq :
    ∀ {position : Nat}, position < powerTableSize →
      field.powers.power position = powerOfTwo polynomial position

namespace TabledField

variable {polynomial : Element} {field : TabledField}

/-- The tables of a generated field belong to the polynomial it was generated from. -/
theorem tabulates_of_generate
    (generated : generate polynomial = .ok field) :
    field.Tabulates polynomial := by
  obtain ⟨polynomial_eq, logarithms, powers⟩ :=
    generate_eq_ok_iff.mp generated
  have inverts := LogarithmTable.inverts_of_generate logarithms
  refine ⟨polynomial_eq, inverts, ?_⟩
  intro position inside
  rw [powers]
  exact PowerTable.power_ofLogarithms inverts inside

namespace Tabulates

/-- A nonzero element is a power of two whose exponent is in its slot. -/
theorem exists_slot_eq
    (tabulates : field.Tabulates polynomial)
    {element : Element}
    (nonzero : element ≠ 0) :
    ∃ exponent < multiplicativeOrder,
      field.logarithms.slot element = exponent ∧
        element = powerOfTwo polynomial exponent := by
  obtain ⟨below, reached⟩ :=
    tabulates.inverts.powerOfTwo_slot nonzero
  exact ⟨_, below, rfl, reached.symm⟩

/-- Reading at exponents that agree modulo 255 gives the same power of two. -/
theorem power_congr
    (tabulates : field.Tabulates polynomial)
    {position exponent : Nat}
    (inside : position < powerTableSize)
    (same : position % multiplicativeOrder = exponent % multiplicativeOrder) :
    field.powers.power position = powerOfTwo polynomial exponent := by
  rw [tabulates.power_eq inside]
  exact tabulates.inverts.generates.powerOfTwo_congr same

theorem multiply_eq
    (tabulates : field.Tabulates polynomial)
    (left right : Element) :
    field.multiply left right = ShiftAdd.multiply polynomial left right := by
  unfold multiply
  by_cases leftZero : left = 0
  · rw [if_pos (Or.inl leftZero), leftZero, ShiftAdd.zero_multiply]
  by_cases rightZero : right = 0
  · rw [if_pos (Or.inr rightZero), rightZero, ShiftAdd.multiply_zero]
  rw [if_neg (not_or.mpr ⟨leftZero, rightZero⟩), productIndex]
  obtain ⟨first, firstBelow, firstSlot, leftPower⟩ :=
    tabulates.exists_slot_eq leftZero
  obtain ⟨second, secondBelow, secondSlot, rightPower⟩ :=
    tabulates.exists_slot_eq rightZero
  have inside : first + second < powerTableSize := by
    unfold multiplicativeOrder at firstBelow secondBelow
    unfold powerTableSize
    omega
  rw [firstSlot, secondSlot, tabulates.power_eq inside, leftPower,
    rightPower, multiply_powerOfTwo]

theorem inverse_eq
    (tabulates : field.Tabulates polynomial)
    (element : Element) :
    field.inverse element =
      Arithmetic.leastLeftInverse (ShiftAdd.multiply polynomial) element := by
  unfold inverse
  by_cases zero : element = 0
  · rw [if_pos zero, Arithmetic.leastLeftInverse, if_pos zero]
  rw [if_neg zero, inverseIndex]
  obtain ⟨exponent, below, slot, isPower⟩ :=
    tabulates.exists_slot_eq zero
  have inside : multiplicativeOrder - exponent < powerTableSize :=
    Nat.lt_of_le_of_lt (Nat.sub_le _ _) (by decide)
  rw [slot, tabulates.power_eq inside, isPower,
    tabulates.inverts.generates.leastLeftInverse_powerOfTwo below]

/-- The position of a quotient is the difference of the exponents modulo 255. -/
theorem toNat_quotientIndex
    (tabulates : field.Tabulates polynomial)
    {dividend divisor : Element}
    (dividendNonzero : dividend ≠ 0)
    (divisorNonzero : divisor ≠ 0) :
    (field.quotientIndex dividend divisor).toNat =
      (field.logarithms.slot dividend +
          (multiplicativeOrder - field.logarithms.slot divisor)) %
        multiplicativeOrder := by
  have dividendBelow := (tabulates.inverts.powerOfTwo_slot dividendNonzero).1
  have divisorBelow := (tabulates.inverts.powerOfTwo_slot divisorNonzero).1
  unfold quotientIndex
  unfold multiplicativeOrder at dividendBelow divisorBelow ⊢
  dsimp only
  split
  · omega
  · omega

theorem divide_eq
    (tabulates : field.Tabulates polynomial)
    (dividend divisor : Element) :
    field.divide dividend divisor =
      Arithmetic.quotientByInverse (ShiftAdd.multiply polynomial)
        dividend divisor := by
  unfold divide Arithmetic.quotientByInverse
  by_cases divisorZero : divisor = 0
  · rw [if_pos divisorZero, if_pos divisorZero]
  rw [if_neg divisorZero, if_neg divisorZero]
  obtain ⟨second, secondBelow, secondSlot, divisorPower⟩ :=
    tabulates.exists_slot_eq divisorZero
  have inverse :
      Arithmetic.leastLeftInverse (ShiftAdd.multiply polynomial) divisor =
        .ok (powerOfTwo polynomial (multiplicativeOrder - second)) := by
    rw [divisorPower]
    exact tabulates.inverts.generates.leastLeftInverse_powerOfTwo secondBelow
  rw [inverse]
  by_cases dividendZero : dividend = 0
  · rw [if_pos dividendZero, dividendZero]
    simp only [ShiftAdd.zero_multiply]
  rw [if_neg dividendZero]
  obtain ⟨first, firstBelow, firstSlot, dividendPower⟩ :=
    tabulates.exists_slot_eq dividendZero
  have position :
      (field.quotientIndex dividend divisor).toNat =
        (first + (multiplicativeOrder - second)) % multiplicativeOrder := by
    rw [← firstSlot, ← secondSlot]
    exact tabulates.toNat_quotientIndex dividendZero divisorZero
  have found :
      field.powers.power (field.quotientIndex dividend divisor).toNat =
        powerOfTwo polynomial (first + (multiplicativeOrder - second)) := by
    rw [position]
    apply tabulates.power_congr
    · exact Nat.lt_trans (Nat.mod_lt _ (by decide)) (by decide)
    · exact Nat.mod_mod _ _
  simp only [found]
  rw [dividendPower, multiply_powerOfTwo]

/-- A logarithm multiplied by an exponent is a value of a 64-bit word. -/
theorem slot_mul_lt
    (tabulates : field.Tabulates polynomial)
    {base : Element}
    (nonzero : base ≠ 0)
    (exponent : UInt32) :
    field.logarithms.slot base * exponent.toNat < 2 ^ 64 := by
  have below := (tabulates.inverts.powerOfTwo_slot nonzero).1
  have exponentBelow := exponent.toNat_lt
  calc
    field.logarithms.slot base * exponent.toNat ≤ 255 * 2 ^ 32 :=
      Nat.mul_le_mul (Nat.le_of_lt below) (Nat.le_of_lt exponentBelow)
    _ < 2 ^ 64 := by
      decide

/-- The position of a power is the multiplied exponent, which is too small to wrap around. -/
theorem toNat_powerIndex
    (tabulates : field.Tabulates polynomial)
    {base : Element}
    (nonzero : base ≠ 0)
    (exponent : UInt32) :
    (field.powerIndex base exponent).toNat =
      field.logarithms.slot base * exponent.toNat % multiplicativeOrder := by
  have below := (tabulates.inverts.powerOfTwo_slot nonzero).1
  have small := tabulates.slot_mul_lt nonzero exponent
  have slotWord :
      (UInt64.ofNat (field.logarithms.slot base)).toNat =
        field.logarithms.slot base :=
    UInt64.toNat_ofNat_of_lt' (Nat.lt_trans below (by decide))
  unfold powerIndex
  rw [UInt64.toNat_mod, UInt64.toNat_mul, slotWord,
    UInt32.toNat_toUInt64, Nat.mod_eq_of_lt small]
  rfl

theorem power_arithmetic_eq
    (tabulates : field.Tabulates polynomial)
    (base : Element)
    (exponent : UInt32) :
    field.power base exponent =
      Arithmetic.reducedPower (ShiftAdd.multiply polynomial)
        base exponent := by
  unfold power Arithmetic.reducedPower
  by_cases exponentZero : exponent = 0
  · rw [if_pos exponentZero, if_pos exponentZero]
  rw [if_neg exponentZero, if_neg exponentZero]
  by_cases baseZero : base = 0
  · rw [if_pos baseZero, if_pos baseZero]
  rw [if_neg baseZero, if_neg baseZero,
    tabulates.toNat_powerIndex baseZero]
  obtain ⟨logarithm, below, slot, basePower⟩ :=
    tabulates.exists_slot_eq baseZero
  rw [slot, basePower, productOfCopies_powerOfTwo]
  apply tabulates.power_congr
  · exact Nat.lt_trans (Nat.mod_lt _ (by decide)) (by decide)
  · rw [Nat.mod_mod, Nat.mul_mod_mod]

/-- The operations by lookup are those without tables, refusals included. -/
theorem arithmetic_eq
    (tabulates : field.Tabulates polynomial) :
    field.arithmetic = ShiftAddField.arithmetic ⟨polynomial⟩ := by
  have products : field.multiply = ShiftAdd.multiply polynomial := by
    funext left right
    exact tabulates.multiply_eq left right
  have quotients :
      field.divide =
        Arithmetic.quotientByInverse (ShiftAdd.multiply polynomial) := by
    funext dividend divisor
    exact tabulates.divide_eq dividend divisor
  have powers :
      field.power = Arithmetic.reducedPower (ShiftAdd.multiply polynomial) := by
    funext base exponent
    exact tabulates.power_arithmetic_eq base exponent
  have inverses :
      field.inverse =
        Arithmetic.leastLeftInverse (ShiftAdd.multiply polynomial) := by
    funext element
    exact tabulates.inverse_eq element
  rw [arithmetic, products, quotients, powers, inverses]
  rfl

end Tabulates

end TabledField

end ByteField
