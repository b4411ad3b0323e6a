import ByteField.Proofs.PowerLaws
import Mathlib.Data.List.Perm.Basic

namespace ByteField

/-!
# Long products

The product of a list of elements does not depend on their order nor on where
the brackets are put, under every commutative and associative multiplication
with one.  In the field of an accepted polynomial a product of powers, however
long, is two to the power of the sum of all logarithms, unless one of the powers
is zero: products turn into sums modulo 255, although no single product by
lookup ever reduces the sum of its two logarithms.
-/

/-- A way to put brackets into a product; brackets may also be put around nothing. -/
inductive Bracketing where
  | empty
  | factor
      (element : Element)
  | join
      (left right : Bracketing)
  deriving Repr, DecidableEq

namespace Bracketing

/-- The factors from left to right, without the brackets. -/
def factors : Bracketing → List Element
  | .empty => []
  | .factor element => [element]
  | .join left right => left.factors ++ right.factors

/-- The product that the brackets prescribe; the one of nothing is one. -/
def product
    (multiply : Element → Element → Element) :
    Bracketing → Element
  | .empty => 1
  | .factor element => element
  | .join left right => multiply (left.product multiply) (right.product multiply)

end Bracketing

namespace Arithmetic

/-- The product of a list of elements: from one on, each is multiplied to the right. -/
def productOf
    (multiply : Element → Element → Element)
    (elements : List Element) :
    Element :=
  elements.foldl multiply 1

/-- The product of the powers that pairs of a base and an exponent stand for. -/
def productOfPowers
    (arithmetic : Arithmetic)
    (powers : List (Element × UInt32)) :
    Element :=
  productOf arithmetic.multiply
    (powers.map fun (base, exponent) => arithmetic.power base exponent)

end Arithmetic

namespace MonoidLaws

variable {multiply : Element → Element → Element}

/-- Where a product goes on from can be multiplied in at the end as well. -/
theorem foldl_multiply
    (laws : MonoidLaws multiply)
    (start : Element)
    (elements : List Element) :
    elements.foldl multiply start =
      multiply start (Arithmetic.productOf multiply elements) := by
  unfold Arithmetic.productOf
  induction elements generalizing start with
  | nil =>
      exact (laws.multiply_one start).symm
  | cons element rest inductionHypothesis =>
      rw [List.foldl_cons, List.foldl_cons, laws.one_multiply,
        inductionHypothesis (multiply start element),
        inductionHypothesis element, laws.multiply_assoc]

theorem productOf_cons
    (laws : MonoidLaws multiply)
    (element : Element)
    (rest : List Element) :
    Arithmetic.productOf multiply (element :: rest) =
      multiply element (Arithmetic.productOf multiply rest) := by
  rw [← laws.foldl_multiply element rest]
  unfold Arithmetic.productOf
  rw [List.foldl_cons, laws.one_multiply]

theorem productOf_append
    (laws : MonoidLaws multiply)
    (left right : List Element) :
    Arithmetic.productOf multiply (left ++ right) =
      multiply
        (Arithmetic.productOf multiply left)
        (Arithmetic.productOf multiply right) := by
  rw [← laws.foldl_multiply]
  unfold Arithmetic.productOf
  rw [List.foldl_append]

/-- Wherever the brackets are, the product is that of the factors. -/
theorem product_eq_productOf_factors
    (laws : MonoidLaws multiply)
    (bracketing : Bracketing) :
    bracketing.product multiply =
      Arithmetic.productOf multiply bracketing.factors := by
  induction bracketing with
  | empty =>
      rfl
  | factor element =>
      exact (laws.one_multiply element).symm
  | join left right leftHypothesis rightHypothesis =>
      rw [Bracketing.product, Bracketing.factors, leftHypothesis,
        rightHypothesis, laws.productOf_append]

/-- If factors commute, their order makes no difference. -/
theorem productOf_perm
    (laws : MonoidLaws multiply)
    (commutes :
      ∀ left right, multiply left right = multiply right left)
    {first second : List Element}
    (reordered : first.Perm second) :
    Arithmetic.productOf multiply first =
      Arithmetic.productOf multiply second := by
  apply reordered.foldl_eq'
  intro left _ right _ product
  rw [laws.multiply_assoc, commutes left right, laws.multiply_assoc]

end MonoidLaws

/-- A product with a factor zero is zero. -/
theorem MonoidWithZeroLaws.productOf_eq_zero
    {multiply : Element → Element → Element}
    (laws : MonoidWithZeroLaws multiply)
    {elements : List Element}
    (listed : 0 ∈ elements) :
    Arithmetic.productOf multiply elements = 0 := by
  induction elements with
  | nil =>
      cases listed
  | cons element rest inductionHypothesis =>
      rw [laws.productOf_cons]
      rcases List.mem_cons.mp listed with isHead | inRest
      · rw [← isHead, laws.zero_multiply]
      · rw [inductionHypothesis inRest, laws.multiply_zero]

/-- A product of powers begins with the first one. -/
theorem MonoidLaws.productOfPowers_cons
    {arithmetic : Arithmetic}
    (laws : MonoidLaws arithmetic.multiply)
    (base : Element)
    (exponent : UInt32)
    (rest : List (Element × UInt32)) :
    arithmetic.productOfPowers ((base, exponent) :: rest) =
      arithmetic.multiply
        (arithmetic.power base exponent)
        (arithmetic.productOfPowers rest) := by
  unfold Arithmetic.productOfPowers
  rw [List.map_cons, laws.productOf_cons]

/-! ## Sums of logarithms -/

/-- One of the powers has base zero and is not the empty product. -/
def SomePowerVanishes
    (powers : List (Element × UInt32)) :
    Prop :=
  ∃ power ∈ powers, power.1 = 0 ∧ 0 < power.2

instance decidableSomePowerVanishes
    (powers : List (Element × UInt32)) :
    Decidable (SomePowerVanishes powers) :=
  inferInstanceAs
    (Decidable (∃ power ∈ powers, power.1 = 0 ∧ 0 < power.2))

theorem somePowerVanishes_cons_iff
    {base : Element}
    {exponent : UInt32}
    {rest : List (Element × UInt32)} :
    SomePowerVanishes ((base, exponent) :: rest) ↔
      (base = 0 ∧ 0 < exponent) ∨ SomePowerVanishes rest := by
  simp [SomePowerVanishes]

namespace TabledField

/--
The exact sum of the logarithms of all bases that have one, each taken as many
times as the exponent says.
-/
def sumOfLogarithms
    (field : TabledField)
    (powers : List (Element × UInt32)) :
    Nat :=
  (powers.filterMap fun (base, exponent) =>
    (field.logarithms.log? base).map fun log =>
      exponent.toNat * log.toNat).sum

theorem sumOfLogarithms_cons_zero
    (field : TabledField)
    (exponent : UInt32)
    (rest : List (Element × UInt32)) :
    field.sumOfLogarithms ((0, exponent) :: rest) =
      field.sumOfLogarithms rest := by
  simp [sumOfLogarithms, LogarithmTable.log?]

theorem sumOfLogarithms_cons
    (field : TabledField)
    {base : Element}
    (nonzero : base ≠ 0)
    (exponent : UInt32)
    (rest : List (Element × UInt32)) :
    field.sumOfLogarithms ((base, exponent) :: rest) =
      field.logarithms.slot base * exponent.toNat +
        field.sumOfLogarithms rest := by
  simp [sumOfLogarithms, LogarithmTable.log?, LogarithmTable.slot,
    nonzero, Nat.mul_comm]

/-- A power of zero is zero, unless it is the empty product. -/
theorem power_of_zero
    (field : TabledField)
    {exponent : UInt32}
    (positive : 0 < exponent) :
    field.arithmetic.power 0 exponent = 0 := by
  have nonzero : exponent ≠ 0 := by
    rintro rfl
    exact absurd positive (by decide)
  change field.power 0 exponent = 0
  rw [power, if_neg nonzero, if_pos rfl]

namespace Tabulates

variable {field : TabledField} {polynomial : Element}

/-- A power of a nonzero element is two to the power of a multiple of the logarithm. -/
theorem power_eq_powerOfTwo
    (tabulates : field.Tabulates polynomial)
    {base : Element}
    (nonzero : base ≠ 0)
    (exponent : UInt32) :
    field.arithmetic.power base exponent =
      powerOfTwo polynomial
        (field.logarithms.slot base * exponent.toNat) := by
  obtain ⟨logarithm, _, slot, basePower⟩ :=
    tabulates.exists_slot_eq nonzero
  change field.power base exponent = _
  rw [power_eq_productOfCopies tabulates, slot, basePower,
    productOfCopies_powerOfTwo]

/-- A product of powers of which one vanishes is zero. -/
theorem productOfPowers_eq_zero
    (tabulates : field.Tabulates polynomial)
    {powers : List (Element × UInt32)}
    (vanishes : SomePowerVanishes powers) :
    field.arithmetic.productOfPowers powers = 0 := by
  obtain ⟨⟨base, exponent⟩, listed, rfl, positive⟩ := vanishes
  apply tabulates.monoidWithZeroLaws.productOf_eq_zero
  exact List.mem_map.mpr
    ⟨(0, exponent), listed, field.power_of_zero positive⟩

/--
A product of powers of which none vanishes is two to the power of the sum of
the logarithms.
-/
theorem productOfPowers_eq_powerOfTwo
    (tabulates : field.Tabulates polynomial)
    {powers : List (Element × UInt32)}
    (noneVanishes : ¬ SomePowerVanishes powers) :
    field.arithmetic.productOfPowers powers =
      powerOfTwo polynomial (field.sumOfLogarithms powers) := by
  have laws := tabulates.monoidWithZeroLaws
  induction powers with
  | nil =>
      rfl
  | cons head rest inductionHypothesis =>
      obtain ⟨base, exponent⟩ := head
      rw [somePowerVanishes_cons_iff, not_or] at noneVanishes
      obtain ⟨headRemains, restRemains⟩ := noneVanishes
      rw [laws.productOfPowers_cons, inductionHypothesis restRemains]
      by_cases zero : base = 0
      · -- The empty product of zeros is one, and zero has no logarithm to add.
        have exponentZero : exponent = 0 := by
          by_contra positive
          exact headRemains ⟨zero, UInt32.pos_iff_ne_zero.mpr positive⟩
        rw [zero, exponentZero, sumOfLogarithms_cons_zero]
        exact laws.one_multiply _
      · rw [tabulates.power_eq_powerOfTwo zero, sumOfLogarithms_cons _ zero,
          tabulates.arithmetic_eq]
        exact multiply_powerOfTwo polynomial _ _

/-- The power of two with an exponent stands in the table at the exponent modulo 255. -/
theorem powerAt_mod
    (tabulates : field.Tabulates polynomial)
    (exponent : Nat) :
    field.powers.powerAt (exponent % multiplicativeOrder) =
      .ok (powerOfTwo polynomial exponent) := by
  have inside : exponent % multiplicativeOrder < powerTableSize :=
    Nat.lt_trans (Nat.mod_lt _ (by decide)) (by decide)
  rw [PowerTable.powerAt_of_lt _ inside,
    tabulates.power_congr inside (Nat.mod_mod _ _)]

end Tabulates

end TabledField

/--
In the field of an accepted polynomial a product of any number of powers is
zero if a positive power of zero is among them, and otherwise stands in the
table of powers at the exact sum of the logarithms modulo 255.  A product of
any elements is the same in every order and with any brackets.
-/
theorem product_of_powers_by_logarithms
    {polynomial : Element}
    {field : TabledField}
    (generated : TabledField.generate polynomial = .ok field) :
    (∀ powers : List (Element × UInt32),
        (SomePowerVanishes powers →
            field.arithmetic.productOfPowers powers = 0) ∧
          (¬ SomePowerVanishes powers →
            field.powers.powerAt (field.sumOfLogarithms powers % 255) =
              .ok (field.arithmetic.productOfPowers powers))) ∧
      ∀ (elements : List Element) (bracketing : Bracketing),
        bracketing.factors.Perm elements →
          bracketing.product field.arithmetic.multiply =
            Arithmetic.productOf field.arithmetic.multiply elements := by
  have tabulates := TabledField.tabulates_of_generate generated
  refine ⟨?_, ?_⟩
  · intro powers
    refine ⟨tabulates.productOfPowers_eq_zero, ?_⟩
    intro noneVanishes
    rw [tabulates.productOfPowers_eq_powerOfTwo noneVanishes]
    exact tabulates.powerAt_mod _
  · intro elements bracketing reordered
    have laws := tabulates.monoidWithZeroLaws.toMonoidLaws
    rw [laws.product_eq_productOf_factors]
    exact laws.productOf_perm tabulates.fieldLaws.multiply_comm reordered

/--
In the standard field: a product that a power of zero takes to zero, one that
the empty product of zeros leaves as it is, and one with brackets.
-/
theorem product_of_powers_by_logarithms_standard :
    TabledField.generate defaultPolynomial = .ok Standard.field ∧
      Standard.field.arithmetic.productOfPowers [(3, 5), (0, 1)] = 0 ∧
      Standard.field.powers.powerAt
          (Standard.field.sumOfLogarithms
            [(2, 4294967295), (0, 0), (7, 300)] % 255) =
        .ok
          (Standard.field.arithmetic.productOfPowers
            [(2, 4294967295), (0, 0), (7, 300)]) ∧
      Bracketing.product Standard.field.arithmetic.multiply
          (.join (.factor 3) (.join (.factor 7) (.factor 9))) =
        Arithmetic.productOf Standard.field.arithmetic.multiply [9, 3, 7] := by
  have generated := Standard.generate_defaultPolynomial
  obtain ⟨ofPowers, ofElements⟩ := product_of_powers_by_logarithms generated
  exact ⟨generated,
    (ofPowers [(3, 5), (0, 1)]).1 (by decide),
    (ofPowers [(2, 4294967295), (0, 0), (7, 300)]).2 (by decide),
    ofElements [9, 3, 7] (.join (.factor 3) (.join (.factor 7) (.factor 9)))
      (by decide)⟩

end ByteField
