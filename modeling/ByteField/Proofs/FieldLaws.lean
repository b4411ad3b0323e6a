import ByteField.Proofs.Lookup
import ByteField.Standard

namespace ByteField

/-!
# The laws of a field

Where two generates, every nonzero element has an inverse, and the residue
ring is a field.  The tables of such a polynomial compute in this field, so
the laws hold of the operations by lookup, in particular of those of the
standard field.
-/

/-- The laws of a field of characteristic two: a ring in which linear equations are solved by dividing. -/
structure FieldLaws
    (arithmetic : Arithmetic) :
    Prop
    extends RingLaws arithmetic where
  zero_ne_one :
    arithmetic.zero ≠ arithmetic.one
  eq_zero_or_eq_zero :
    ∀ left right,
      arithmetic.multiply left right = arithmetic.zero →
        left = arithmetic.zero ∨ right = arithmetic.zero
  multiply_inverse :
    ∀ element, element ≠ arithmetic.zero →
      ∃ inverse,
        arithmetic.inverse element = .ok inverse ∧
          arithmetic.multiply element inverse = arithmetic.one
  /-- A linear equation has one solution, the quotient of a difference. -/
  linear_equation :
    ∀ factor offset target, factor ≠ arithmetic.zero →
      ∃ solution,
        arithmetic.divide (arithmetic.subtract target offset) factor =
            .ok solution ∧
          ∀ unknown,
            arithmetic.add (arithmetic.multiply factor unknown) offset =
                target ↔
              unknown = solution

namespace TwoGenerates

variable {polynomial : Element}

/-- Where two generates, the search finds an inverse of every nonzero element. -/
theorem exists_inverse
    (generates : TwoGenerates polynomial)
    {element : Element}
    (nonzero : element ≠ 0) :
    ∃ inverse,
      Arithmetic.leastLeftInverse (ShiftAdd.multiply polynomial) element =
          .ok inverse ∧
        ShiftAdd.multiply polynomial element inverse = 1 := by
  obtain ⟨exponent, below, rfl⟩ :=
    generates.exists_powerOfTwo_eq nonzero
  refine ⟨_, generates.leastLeftInverse_powerOfTwo below, ?_⟩
  rw [multiply_powerOfTwo, Nat.add_sub_cancel' (Nat.le_of_lt below)]
  exact generates.powerOfTwo_order

/-- Where two generates, a product is zero only if a factor is. -/
theorem eq_zero_or_eq_zero
    (generates : TwoGenerates polynomial)
    {left right : Element}
    (vanishes : ShiftAdd.multiply polynomial left right = 0) :
    left = 0 ∨ right = 0 := by
  by_cases leftZero : left = 0
  · exact Or.inl leftZero
  · obtain ⟨inverse, found, _⟩ := generates.exists_inverse leftZero
    have takesToOne := (Arithmetic.leastLeftInverse_sound found).2.2
    exact Or.inr
      ((ShiftAdd.monoidWithZeroLaws polynomial).eq_zero_of_multiply_eq_zero
        takesToOne vanishes)

/-- Where two generates, a linear equation is solved by dividing the difference. -/
theorem exists_solution
    (generates : TwoGenerates polynomial)
    {factor : Element}
    (nonzero : factor ≠ 0)
    (offset target : Element) :
    ∃ solution,
      Arithmetic.quotientByInverse (ShiftAdd.multiply polynomial)
            (sum target offset) factor =
          .ok solution ∧
        ∀ unknown,
          sum (ShiftAdd.multiply polynomial factor unknown) offset =
              target ↔
            unknown = solution := by
  obtain ⟨inverse, found, takesToOne⟩ :=
    generates.exists_inverse nonzero
  refine ⟨ShiftAdd.multiply polynomial (sum target offset) inverse, ?_, ?_⟩
  · unfold Arithmetic.quotientByInverse
    rw [if_neg nonzero, found]
  · intro unknown
    have unit :
        residue polynomial factor * residue polynomial inverse = 1 := by
      rw [← ShiftAdd.residue_multiply, takesToOne, residue_one]
    have twice :
        residue polynomial offset + residue polynomial offset = 0 := by
      rw [← residue_sum, sum_self, residue_zero]
    rw [← residue_inj polynomial, ← residue_inj polynomial]
    simp only [residue_sum, ShiftAdd.residue_multiply]
    constructor
    · intro solves
      linear_combination
        -residue polynomial unknown * unit +
          residue polynomial inverse * solves -
          residue polynomial inverse * twice
    · intro solution
      rw [solution]
      linear_combination
        (residue polynomial target + residue polynomial offset) * unit +
          twice

/-- Where two generates, the residue ring obeys the laws of a field. -/
theorem fieldLaws
    (generates : TwoGenerates polynomial) :
    FieldLaws (ShiftAddField.arithmetic ⟨polynomial⟩) where
  toRingLaws := ShiftAddField.ringLaws polynomial
  zero_ne_one := by
    rw [ShiftAddField.arithmetic_zero, ShiftAddField.arithmetic_one]
    decide
  eq_zero_or_eq_zero := fun _ _ vanishes =>
    generates.eq_zero_or_eq_zero vanishes
  multiply_inverse := fun _ nonzero =>
    generates.exists_inverse nonzero
  linear_equation := fun _ offset target nonzero =>
    generates.exists_solution nonzero offset target

end TwoGenerates

/-- A field whose tables belong to its polynomial obeys the laws of a field. -/
theorem TabledField.Tabulates.fieldLaws
    {field : TabledField}
    {polynomial : Element}
    (tabulates : field.Tabulates polynomial) :
    FieldLaws field.arithmetic := by
  rw [tabulates.arithmetic_eq]
  exact tabulates.inverts.generates.fieldLaws

/--
The operations by lookup are those of a field for every accepted polynomial,
and so are the operations of the standard field and the free operations.
-/
theorem fieldLaws_of_generate :
    (∀ {polynomial : Element} {field : TabledField},
        TabledField.generate polynomial = .ok field →
          FieldLaws field.arithmetic) ∧
      FieldLaws Standard.field.arithmetic ∧
      FieldLaws Standard.arithmetic := by
  have standard : FieldLaws Standard.field.arithmetic :=
    (TabledField.tabulates_of_generate
      Standard.generate_defaultPolynomial).fieldLaws
  refine ⟨?_, standard, standard⟩
  intro polynomial field generated
  exact (TabledField.tabulates_of_generate generated).fieldLaws

/-- In the standard field seven times an element and five is nine for one element only. -/
theorem fieldLaws_of_generate_standard :
    TabledField.generate defaultPolynomial = .ok Standard.field ∧
      ∃ solution,
        Standard.field.divide (sum 9 5) 7 = .ok solution ∧
          ∀ unknown,
            sum (Standard.field.multiply 7 unknown) 5 = 9 ↔
              unknown = solution :=
  ⟨Standard.generate_defaultPolynomial,
    (fieldLaws_of_generate.1 Standard.generate_defaultPolynomial).linear_equation
      7 5 9 (by decide)⟩

end ByteField
