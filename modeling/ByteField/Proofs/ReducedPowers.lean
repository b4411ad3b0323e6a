import ByteField.Proofs.FieldLaws
import Mathlib.FieldTheory.Finite.Basic

namespace ByteField

/-!
# Powers counted modulo the group order

A power is computed with its exponent reduced modulo 255.  That is right under
every multiplication, commutative or not, under which the nonzero elements are
a group: there are 255 of them, so the power with this exponent is one.  The
converse holds too, since the power with exponent 254 is then an inverse.  How
many products a power takes is read off its loop, run with a multiplication
that records what it is given.
-/

namespace Arithmetic

/-- Every nonzero element has an inverse. -/
def InvertsNonzero
    (arithmetic : Arithmetic) :
    Prop :=
  ∀ element, element ≠ 0 →
    ∃ inverse, arithmetic.inverse element = .ok inverse

/-- A power is the product of as many copies of the base as the exponent says. -/
def PowersAreProducts
    (arithmetic : Arithmetic) :
    Prop :=
  ∀ base exponent,
    arithmetic.power base exponent =
      productOfCopies arithmetic.multiply base exponent.toNat

/-! ## The products that are performed -/

section Effects

variable {Effect : Type → Type} [Monad Effect]

/-- The loop of a product of copies, with a multiplication that may do something besides. -/
def productOfCopiesM
    (multiply : Element → Element → Effect Element)
    (element : Element) :
    Nat → Effect Element
  | 0 => pure 1
  | count + 1 => do
      let product ← productOfCopiesM multiply element count
      multiply product element

/-- The steps of a power, with a multiplication that may do something besides. -/
def reducedPowerM
    (multiply : Element → Element → Effect Element)
    (base : Element)
    (exponent : UInt32) :
    Effect Element :=
  if exponent = 0 then
    pure 1
  else if base = 0 then
    pure 0
  else
    productOfCopiesM multiply base (exponent.toNat % multiplicativeOrder)

variable [LawfulMonad Effect]

theorem productOfCopiesM_pure
    (multiply : Element → Element → Element)
    (element : Element)
    (count : Nat) :
    productOfCopiesM (fun left right => pure (multiply left right))
        element count =
      (pure (productOfCopies multiply element count) : Effect Element) := by
  induction count with
  | zero =>
      rfl
  | succ count inductionHypothesis =>
      rw [productOfCopiesM, inductionHypothesis, pure_bind,
        productOfCopies_succ]

/-- With a multiplication that does nothing besides, the steps are those of the power. -/
theorem reducedPowerM_pure
    (multiply : Element → Element → Element)
    (base : Element)
    (exponent : UInt32) :
    reducedPowerM (fun left right => pure (multiply left right))
        base exponent =
      (pure (reducedPower multiply base exponent) : Effect Element) := by
  unfold reducedPowerM reducedPower
  rw [productOfCopiesM_pure]
  split
  · rfl
  · split <;> rfl

end Effects

/-- A multiplication that records the factors of each product it performs. -/
def recording
    (multiply : Element → Element → Element)
    (left right : Element) :
    StateM (List (Element × Element)) Element := do
  modify fun factors => factors ++ [(left, right)]
  return multiply left right

/-- The factors of the products that make a product of copies, in their order. -/
def factorsOfCopies
    (multiply : Element → Element → Element)
    (element : Element)
    (count : Nat) :
    List (Element × Element) :=
  (List.range count).map fun earlier =>
    (productOfCopies multiply element earlier, element)

theorem factorsOfCopies_succ
    (multiply : Element → Element → Element)
    (element : Element)
    (count : Nat) :
    factorsOfCopies multiply element (count + 1) =
      factorsOfCopies multiply element count ++
        [(productOfCopies multiply element count, element)] := by
  simp [factorsOfCopies, List.range_succ]

/-- The loop performs one product for each copy. -/
theorem productOfCopiesM_recording
    (multiply : Element → Element → Element)
    (element : Element)
    (count : Nat)
    (before : List (Element × Element)) :
    (productOfCopiesM (recording multiply) element count).run before =
      pure
        (productOfCopies multiply element count,
          before ++ factorsOfCopies multiply element count) := by
  induction count with
  | zero =>
      simp [productOfCopiesM, factorsOfCopies]
  | succ count inductionHypothesis =>
      rw [productOfCopiesM, StateT.run_bind, inductionHypothesis, pure_bind,
        productOfCopies_succ, factorsOfCopies_succ, ← List.append_assoc]
      rfl

/-- The factors of the products that make a power: none if the exponent or the base is zero. -/
def factorsOfPower
    (multiply : Element → Element → Element)
    (base : Element)
    (exponent : UInt32) :
    List (Element × Element) :=
  if exponent = 0 ∨ base = 0 then
    []
  else
    factorsOfCopies multiply base (exponent.toNat % multiplicativeOrder)

/-- These products, and no others, are performed for a power. -/
theorem reducedPowerM_recording
    (multiply : Element → Element → Element)
    (base : Element)
    (exponent : UInt32) :
    (reducedPowerM (recording multiply) base exponent).run [] =
      pure
        (reducedPower multiply base exponent,
          factorsOfPower multiply base exponent) := by
  unfold reducedPowerM reducedPower factorsOfPower
  by_cases exponentZero : exponent = 0
  · simp [exponentZero]
  by_cases baseZero : base = 0
  · simp [exponentZero, baseZero]
  simp only [exponentZero, baseZero, or_self, if_false]
  exact productOfCopiesM_recording multiply base _ []

theorem length_factorsOfPower
    (multiply : Element → Element → Element)
    {base : Element}
    (nonzero : base ≠ 0)
    (exponent : UInt32) :
    (factorsOfPower multiply base exponent).length =
      exponent.toNat % multiplicativeOrder := by
  unfold factorsOfPower
  by_cases exponentZero : exponent = 0
  · rw [exponentZero]
    simp
  · simp [exponentZero, nonzero, factorsOfCopies]

/-- A product of copies is the same under a multiplication that agrees on each of its steps. -/
theorem productOfCopies_congr
    {multiply other : Element → Element → Element}
    {base : Element}
    {count : Nat}
    (agree :
      ∀ pair ∈ factorsOfCopies multiply base count,
        other pair.1 pair.2 = multiply pair.1 pair.2) :
    productOfCopies other base count =
      productOfCopies multiply base count := by
  induction count with
  | zero =>
      rfl
  | succ count inductionHypothesis =>
      rw [factorsOfCopies_succ, List.forall_mem_append,
        List.forall_mem_singleton] at agree
      rw [productOfCopies_succ, productOfCopies_succ,
        inductionHypothesis agree.1, agree.2]

/--
A power takes so many products: these are performed in its loop, none being
left out if the base is not zero, and it is the same under every multiplication
that agrees on their factors.
-/
def PowerTakes
    (multiply : Element → Element → Element)
    (base : Element)
    (exponent : UInt32)
    (count : Nat) :
    Prop :=
  ∃ factors : List (Element × Element),
    (reducedPowerM (recording multiply) base exponent).run [] =
        pure ((ofMultiplication multiply).power base exponent, factors) ∧
      factors.length ≤ count ∧
      (base ≠ 0 → factors.length = count) ∧
      ∀ other : Element → Element → Element,
        (∀ pair ∈ factors, other pair.1 pair.2 = multiply pair.1 pair.2) →
          (ofMultiplication other).power base exponent =
            (ofMultiplication multiply).power base exponent

/-- The number of products that a power takes is the exponent modulo 255. -/
theorem powerTakes_mod
    (multiply : Element → Element → Element)
    (base : Element)
    (exponent : UInt32) :
    PowerTakes multiply base exponent
      (exponent.toNat % multiplicativeOrder) := by
  refine ⟨factorsOfPower multiply base exponent,
    reducedPowerM_recording multiply base exponent, ?few, ?all, ?determine⟩
  case few =>
    by_cases zero : base = 0
    · simp [factorsOfPower, zero]
    · exact Nat.le_of_eq (length_factorsOfPower multiply zero exponent)
  case all =>
    intro nonzero
    exact length_factorsOfPower multiply nonzero exponent
  case determine =>
    intro other agree
    rw [ofMultiplication_power, ofMultiplication_power, reducedPower,
      reducedPower]
    by_cases exponentZero : exponent = 0
    · rw [if_pos exponentZero, if_pos exponentZero]
    by_cases baseZero : base = 0
    · rw [if_neg exponentZero, if_neg exponentZero, if_pos baseZero,
        if_pos baseZero]
    rw [factorsOfPower, if_neg (not_or.mpr ⟨exponentZero, baseZero⟩)] at agree
    rw [if_neg exponentZero, if_neg exponentZero, if_neg baseZero,
      if_neg baseZero, productOfCopies_congr agree]

end Arithmetic

/-- The laws of a multiplication under which the nonzero elements are a group. -/
structure GroupLaws
    (multiply : Element → Element → Element) :
    Prop
    extends MonoidWithZeroLaws multiply where
  inverts :
    (Arithmetic.ofMultiplication multiply).InvertsNonzero

/-- What the search finds for a nonzero element takes it to one from the right as well. -/
theorem GroupLaws.exists_right_inverse
    {multiply : Element → Element → Element}
    (laws : GroupLaws multiply)
    {element : Element}
    (nonzero : element ≠ 0) :
    ∃ inverse,
      Arithmetic.leastLeftInverse multiply element = .ok inverse ∧
        multiply element inverse = 1 := by
  obtain ⟨inverse, found⟩ := laws.inverts element nonzero
  exact ⟨inverse, found,
    laws.right_inverse_of_left_inverse
      (Arithmetic.leastLeftInverse_sound found).2.2⟩

/-- An element, as a member of the group with zero that a multiplication makes of the elements. -/
@[ext]
structure GroupMember
    {multiply : Element → Element → Element}
    (laws : GroupLaws multiply) where
  element : Element

namespace GroupMember

variable {multiply : Element → Element → Element} {laws : GroupLaws multiply}

/-- The inverse is the one that the search finds; zero, for which it finds none, stays zero. -/
instance groupWithZero : GroupWithZero (GroupMember laws) where
  mul left right := ⟨multiply left.element right.element⟩
  mul_assoc first second third :=
    GroupMember.ext
      (laws.multiply_assoc first.element second.element third.element)
  one := ⟨1⟩
  one_mul member := GroupMember.ext (laws.one_multiply member.element)
  mul_one member := GroupMember.ext (laws.multiply_one member.element)
  zero := ⟨0⟩
  zero_mul member := GroupMember.ext (laws.zero_multiply member.element)
  mul_zero member := GroupMember.ext (laws.multiply_zero member.element)
  inv member :=
    ⟨(Arithmetic.leastLeftInverse multiply member.element).toOption.getD 0⟩
  inv_zero := rfl
  mul_inv_cancel := by
    intro member nonzero
    have elementNonzero : member.element ≠ 0 := by
      intro isZero
      exact nonzero (GroupMember.ext isZero)
    obtain ⟨inverse, found, takesToOne⟩ :=
      laws.exists_right_inverse elementNonzero
    -- The product is the one of the elements, with the inverse as the search returns it.
    apply GroupMember.ext
    change multiply member.element
      ((Arithmetic.leastLeftInverse multiply member.element).toOption.getD 0) = 1
    rw [found]
    exact takesToOne
  exists_pair_ne := by
    refine ⟨⟨0⟩, ⟨1⟩, ?_⟩
    intro same
    have sameElement : (0 : Element) = 1 :=
      congrArg GroupMember.element same
    revert sameElement
    decide

/-- A member is nothing but its element. -/
def equivElement
    (laws : GroupLaws multiply) :
    Element ≃ GroupMember laws where
  toFun := GroupMember.mk
  invFun := GroupMember.element
  left_inv _ := rfl
  right_inv _ := rfl

instance fintype : Fintype (GroupMember laws) :=
  Fintype.ofEquiv Element (equivElement laws)

theorem card_eq
    (laws : GroupLaws multiply) :
    Fintype.card (GroupMember laws) = fieldSize := by
  rw [Fintype.card_congr (equivElement laws).symm,
    ← FinEnum.card_eq_fintypeCard, FinEnum.card_UInt8]
  rfl

/-- The power of a member is a product of copies of its element. -/
theorem element_pow
    (member : GroupMember laws)
    (count : Nat) :
    (member ^ count).element =
      Arithmetic.productOfCopies multiply member.element count := by
  induction count with
  | zero =>
      rfl
  | succ count inductionHypothesis =>
      rw [pow_succ, Arithmetic.productOfCopies_succ,
        ← inductionHypothesis]
      rfl

end GroupMember

namespace GroupLaws

variable {multiply : Element → Element → Element}

/-- Exponents of nonzero elements count modulo 255, the number of these elements. -/
theorem productOfCopies_mod
    (laws : GroupLaws multiply)
    {base : Element}
    (nonzero : base ≠ 0)
    (count : Nat) :
    Arithmetic.productOfCopies multiply base (count % multiplicativeOrder) =
      Arithmetic.productOfCopies multiply base count := by
  let member : GroupMember laws := ⟨base⟩
  have memberNonzero : member ≠ 0 := by
    intro isZero
    exact nonzero (congrArg GroupMember.element isZero)
  have order : member ^ multiplicativeOrder = 1 := by
    have whole := FiniteField.pow_card_sub_one_eq_one member memberNonzero
    rw [GroupMember.card_eq] at whole
    exact whole
  have reduced : member ^ (count % multiplicativeOrder) = member ^ count :=
    (pow_eq_pow_mod count order).symm
  rw [← GroupMember.element_pow member, reduced,
    GroupMember.element_pow member]

end GroupLaws

namespace MonoidWithZeroLaws

variable {multiply : Element → Element → Element}

/-- A product of copies of zero is zero, unless it is empty. -/
theorem productOfCopies_of_zero
    (laws : MonoidWithZeroLaws multiply)
    {count : Nat}
    (positive : count ≠ 0) :
    Arithmetic.productOfCopies multiply 0 count = 0 := by
  cases count with
  | zero =>
      exact (positive rfl).elim
  | succ count =>
      rw [Arithmetic.productOfCopies_succ, laws.multiply_zero]

/-- If all nonzero elements have inverses, powers are products. -/
theorem powersAreProducts
    (laws : MonoidWithZeroLaws multiply)
    (inverts : (Arithmetic.ofMultiplication multiply).InvertsNonzero) :
    (Arithmetic.ofMultiplication multiply).PowersAreProducts := by
  intro base exponent
  rw [Arithmetic.ofMultiplication_power,
    Arithmetic.ofMultiplication_multiply, Arithmetic.reducedPower]
  by_cases exponentZero : exponent = 0
  · rw [if_pos exponentZero, exponentZero]
    rfl
  rw [if_neg exponentZero]
  by_cases baseZero : base = 0
  · have positive : exponent.toNat ≠ 0 := by
      intro isZero
      exact exponentZero (UInt32.toNat_inj.mp isZero)
    rw [if_pos baseZero, baseZero, laws.productOfCopies_of_zero positive]
  · rw [if_neg baseZero]
    have groupLaws : GroupLaws multiply := ⟨laws, inverts⟩
    exact groupLaws.productOfCopies_mod baseZero exponent.toNat

/-- If powers are products, every nonzero element has its power with exponent 254 as an inverse. -/
theorem invertsNonzero
    (laws : MonoidWithZeroLaws multiply)
    (powers : (Arithmetic.ofMultiplication multiply).PowersAreProducts) :
    (Arithmetic.ofMultiplication multiply).InvertsNonzero := by
  intro element nonzero
  have takesToOne :
      multiply (Arithmetic.productOfCopies multiply element 254) element = 1 := by
    -- Reduced modulo 255 the exponent 255 is zero, and the empty product is one.
    have whole := powers element 255
    rw [Arithmetic.ofMultiplication_power,
      Arithmetic.ofMultiplication_multiply, Arithmetic.reducedPower,
      if_neg (by decide), if_neg nonzero] at whole
    exact whole.symm
  refine Arithmetic.exists_leastLeftInverse_iff.mpr ⟨nonzero, _, ?_, takesToOne⟩
  intro isZero
  rw [isZero, laws.zero_multiply] at takesToOne
  revert takesToOne
  decide

end MonoidWithZeroLaws

/-- Where two generates, all nonzero elements have inverses. -/
theorem TwoGenerates.invertsNonzero
    {polynomial : Element}
    (generates : TwoGenerates polynomial) :
    (ShiftAddField.arithmetic ⟨polynomial⟩).InvertsNonzero := by
  intro element nonzero
  obtain ⟨inverse, found, _⟩ := generates.exists_inverse nonzero
  exact ⟨inverse, found⟩

/-- A power by lookup is a product of as many copies as the exponent says. -/
theorem power_eq_productOfCopies
    {polynomial : Element}
    {field : TabledField}
    (tabulates : field.Tabulates polynomial)
    (base : Element)
    (exponent : UInt32) :
    field.power base exponent =
      Arithmetic.productOfCopies (ShiftAdd.multiply polynomial) base
        exponent.toNat := by
  rw [tabulates.power_arithmetic_eq]
  exact (ShiftAdd.monoidWithZeroLaws polynomial).powersAreProducts
    tabulates.inverts.generates.invertsNonzero base exponent

/--
Under every associative multiplication with one and zero under which all
nonzero elements have inverses, a power is the product of as many copies of
its base as the exponent says, although it takes no more products than the
remainder of the exponent modulo 255.
-/
theorem power_eq_product_of_inverses
    {multiply : Element → Element → Element}
    (laws : MonoidWithZeroLaws multiply)
    (inverts : (Arithmetic.ofMultiplication multiply).InvertsNonzero)
    (base : Element)
    (exponent : UInt32) :
    (Arithmetic.ofMultiplication multiply).power base exponent =
        Arithmetic.productOfCopies multiply base exponent.toNat ∧
      Arithmetic.PowerTakes multiply base exponent
        (exponent.toNat % 255) :=
  ⟨laws.powersAreProducts inverts base exponent,
    Arithmetic.powerTakes_mod multiply base exponent⟩

/-- Under the default polynomial more than four thousand million copies of two come to 29. -/
theorem power_eq_product_of_inverses_standard :
    MonoidWithZeroLaws (ShiftAdd.multiply defaultPolynomial) ∧
      (Arithmetic.ofMultiplication
        (ShiftAdd.multiply defaultPolynomial)).InvertsNonzero ∧
      Arithmetic.productOfCopies (ShiftAdd.multiply defaultPolynomial)
          2 4294967048 =
        29 := by
  have laws := ShiftAdd.monoidWithZeroLaws defaultPolynomial
  have inverts :=
    (TabledField.tabulates_of_generate
      Standard.generate_defaultPolynomial).inverts.generates.invertsNonzero
  have power :
      (Arithmetic.ofMultiplication
          (ShiftAdd.multiply defaultPolynomial)).power 2 4294967048 =
        29 := by
    decide
  exact ⟨laws, inverts,
    (power_eq_product_of_inverses laws inverts 2 4294967048).1.symm.trans
      power⟩

end ByteField
