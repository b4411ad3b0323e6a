import ByteField.Proofs.ReducedPowers

namespace ByteField

/-!
# The laws of exponents

A power looked up at one multiple of a logarithm is the product of as many
copies of the base as the exponent says.  Copies are counted in parts, or in
groups of equal size, under every associative multiplication; a product of two
bases takes commuting factors besides.  Exponents are 32-bit words, so a sum or
product of exponents is the one of the numbers only where it fits into a word.
-/

namespace MonoidLaws

variable {multiply : Element → Element → Element}

/-- Copies can be counted in two parts. -/
theorem productOfCopies_add
    (laws : MonoidLaws multiply)
    (element : Element)
    (first second : Nat) :
    Arithmetic.productOfCopies multiply element (first + second) =
      multiply
        (Arithmetic.productOfCopies multiply element first)
        (Arithmetic.productOfCopies multiply element second) := by
  induction second with
  | zero =>
      exact (laws.multiply_one _).symm
  | succ second inductionHypothesis =>
      rw [← Nat.add_assoc, Arithmetic.productOfCopies_succ,
        Arithmetic.productOfCopies_succ, inductionHypothesis,
        laws.multiply_assoc]

/-- Copies of a product of copies are counted in groups of equal size. -/
theorem productOfCopies_productOfCopies
    (laws : MonoidLaws multiply)
    (element : Element)
    (size groups : Nat) :
    Arithmetic.productOfCopies multiply
        (Arithmetic.productOfCopies multiply element size) groups =
      Arithmetic.productOfCopies multiply element (size * groups) := by
  induction groups with
  | zero =>
      rfl
  | succ groups inductionHypothesis =>
      rw [Arithmetic.productOfCopies_succ, inductionHypothesis,
        Nat.mul_succ, laws.productOfCopies_add]

/-- If factors commute, copies of a product are copies of either factor. -/
theorem productOfCopies_multiply
    (laws : MonoidLaws multiply)
    (commutes :
      ∀ left right, multiply left right = multiply right left)
    (left right : Element)
    (count : Nat) :
    Arithmetic.productOfCopies multiply (multiply left right) count =
      multiply
        (Arithmetic.productOfCopies multiply left count)
        (Arithmetic.productOfCopies multiply right count) := by
  induction count with
  | zero =>
      exact (laws.multiply_one 1).symm
  | succ count inductionHypothesis =>
      simp only [Arithmetic.productOfCopies_succ, inductionHypothesis]
      generalize Arithmetic.productOfCopies multiply left count = lefts
      generalize Arithmetic.productOfCopies multiply right count = rights
      -- The new left factor has to move past the copies of the right one, and nothing else.
      calc
        multiply (multiply lefts rights) (multiply left right) =
            multiply lefts (multiply (multiply rights left) right) := by
          simp only [laws.multiply_assoc]
        _ = multiply lefts (multiply (multiply left rights) right) := by
          rw [commutes rights left]
        _ = multiply (multiply lefts left) (multiply rights right) := by
          simp only [laws.multiply_assoc]

end MonoidLaws

/-- The laws of exponents, as statements about the powers of an arithmetic. -/
structure PowerLaws
    (arithmetic : Arithmetic) :
    Prop where
  powersAreProducts :
    arithmetic.PowersAreProducts
  /-- The empty product is one for every base, zero included. -/
  power_zero :
    ∀ base, arithmetic.power base 0 = 1
  power_add :
    ∀ base first second,
      first.toNat + second.toNat < UInt32.size →
        arithmetic.power base (first + second) =
          arithmetic.multiply
            (arithmetic.power base first) (arithmetic.power base second)
  power_power :
    ∀ base inner outer,
      inner.toNat * outer.toNat < UInt32.size →
        arithmetic.power (arithmetic.power base inner) outer =
          arithmetic.power base (inner * outer)
  multiply_power :
    ∀ left right exponent,
      arithmetic.power (arithmetic.multiply left right) exponent =
        arithmetic.multiply
          (arithmetic.power left exponent) (arithmetic.power right exponent)

/-- Powers that are products under a commutative multiplication obey the laws of exponents. -/
theorem PowerLaws.of_powersAreProducts
    {arithmetic : Arithmetic}
    (laws : MonoidLaws arithmetic.multiply)
    (commutes :
      ∀ left right,
        arithmetic.multiply left right = arithmetic.multiply right left)
    (powers : arithmetic.PowersAreProducts) :
    PowerLaws arithmetic where
  powersAreProducts := powers
  power_zero := by
    intro base
    rw [powers]
    rfl
  power_add := by
    intro base first second fits
    have sumOfWords :
        (first + second).toNat = first.toNat + second.toNat := by
      rw [UInt32.toNat_add]
      exact Nat.mod_eq_of_lt fits
    simp only [powers base, sumOfWords, laws.productOfCopies_add]
  power_power := by
    intro base inner outer fits
    have productOfWords :
        (inner * outer).toNat = inner.toNat * outer.toNat := by
      rw [UInt32.toNat_mul]
      exact Nat.mod_eq_of_lt fits
    rw [powers _ outer, powers base inner, powers base (inner * outer),
      productOfWords, laws.productOfCopies_productOfCopies]
  multiply_power := by
    intro left right exponent
    simp only [powers _ exponent]
    exact laws.productOfCopies_multiply commutes left right exponent.toNat

namespace TabledField.Tabulates

variable {field : TabledField} {polynomial : Element}

/-- The multiplication by lookup is associative, with one and zero. -/
theorem monoidWithZeroLaws
    (tabulates : field.Tabulates polynomial) :
    MonoidWithZeroLaws field.arithmetic.multiply := by
  rw [tabulates.arithmetic_eq]
  exact ShiftAdd.monoidWithZeroLaws polynomial

/-- A power by lookup is a product of copies. -/
theorem powersAreProducts
    (tabulates : field.Tabulates polynomial) :
    field.arithmetic.PowersAreProducts := by
  intro base exponent
  change field.power base exponent = _
  rw [power_eq_productOfCopies tabulates, tabulates.arithmetic_eq]
  rfl

end TabledField.Tabulates

/--
The powers of the field that an accepted polynomial generates, each looked up
at a single multiple of a logarithm, are products of as many copies of the
base as the exponent says, for every base and every exponent; so they obey the
laws of exponents.
-/
theorem powerLaws_of_generate
    {polynomial : Element}
    {field : TabledField}
    (generated : TabledField.generate polynomial = .ok field) :
    PowerLaws field.arithmetic := by
  have tabulates := TabledField.tabulates_of_generate generated
  exact PowerLaws.of_powersAreProducts
    tabulates.monoidWithZeroLaws.toMonoidLaws
    tabulates.fieldLaws.multiply_comm
    tabulates.powersAreProducts

/-- The largest exponent there is, taken apart, in the standard field. -/
theorem powerLaws_of_generate_standard :
    TabledField.generate defaultPolynomial = .ok Standard.field ∧
      (4294967041 : UInt32).toNat + (254 : UInt32).toNat < UInt32.size ∧
      Standard.field.arithmetic.power 7 4294967295 =
        Standard.field.arithmetic.multiply
          (Standard.field.arithmetic.power 7 4294967041)
          (Standard.field.arithmetic.power 7 254) := by
  have generated := Standard.generate_defaultPolynomial
  have fits :
      (4294967041 : UInt32).toNat + (254 : UInt32).toNat < UInt32.size := by
    decide
  have takenApart :=
    (powerLaws_of_generate generated).power_add 7 4294967041 254 fits
  have largest : (4294967041 : UInt32) + 254 = 4294967295 := by
    decide
  rw [largest] at takenApart
  exact ⟨generated, fits, takenApart⟩

end ByteField
