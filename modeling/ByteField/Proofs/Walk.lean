import ByteField.LogarithmTable
import ByteField.Proofs.PowersOfTwo

namespace ByteField

/-!
# The walk over the powers of two

While the powers met so far are different, a walk stands on the next power of
two, has marked exactly the earlier ones, and has noted their exponents.  So a
walk of a given length succeeds exactly if the powers of two below that length
are pairwise different, and a full one exactly if two generates.
-/

/-- The powers below the next number differ if those before do and the last one is new. -/
theorem distinctBelow_succ_iff
    {polynomial : Element}
    {count : Nat} :
    DistinctBelow polynomial (count + 1) ↔
      DistinctBelow polynomial count ∧
        ∀ earlier < count,
          powerOfTwo polynomial earlier ≠ powerOfTwo polynomial count := by
  constructor
  · intro distinct
    constructor
    · intro first firstBelow second secondBelow same
      exact distinct (Nat.lt_succ_of_lt firstBelow)
        (Nat.lt_succ_of_lt secondBelow) same
    · intro earlier before same
      have sameExponent : earlier = count :=
        distinct (Nat.lt_succ_of_lt before) (Nat.lt_succ_self count) same
      omega
  · rintro ⟨distinct, fresh⟩ first firstBelow second secondBelow same
    rcases Nat.lt_succ_iff_lt_or_eq.mp firstBelow with firstBefore | rfl
    · rcases Nat.lt_succ_iff_lt_or_eq.mp secondBelow with secondBefore | rfl
      · exact distinct firstBefore secondBefore same
      · exact (fresh first firstBefore same).elim
    · rcases Nat.lt_succ_iff_lt_or_eq.mp secondBelow with secondBefore | rfl
      · exact (fresh second secondBefore same.symm).elim
      · rfl

namespace Walk

/-- Counting with numbers doubles as the shift of bytes does. -/
theorem double_toNat
    (polynomial element : Element) :
    double polynomial element.toNat =
      (ShiftAdd.double polynomial element).toNat := by
  have byte := element.toNat_lt
  have shifted :
      (element <<< 1).toNat = element.toNat * 2 % 256 := by
    rw [UInt8.toNat_shiftLeft]
    simp [Nat.shiftLeft_eq]
  have highest :
      element &&& 0x80 = 0 ↔ element.toNat < 128 := by
    rw [and_highest_eq_zero_iff, coefficient,
      Nat.testBit_eq_decide_div_mod_eq]
    by_cases low : element.toNat < 128
    · simp [low, Nat.div_eq_of_lt low]
    · have quotient : element.toNat / 128 = 1 := by
        omega
      simp [low, quotient]
  have doubled : element.toNat <<< 1 = element.toNat * 2 := by
    simp [Nat.shiftLeft_eq]
  unfold double ShiftAdd.double
  simp only [highest, fieldSize, doubled]
  by_cases low : element.toNat < 128
  · rw [if_neg (by omega), if_pos low, shifted]
    omega
  · have carried : element.toNat * 2 % 256 = element.toNat * 2 - 256 := by
      omega
    rw [if_pos (by omega), if_neg low, UInt8.toNat_xor, shifted, carried]

/-- What a walk has come to and recorded after visiting the powers below a number. -/
structure Standing
    (polynomial : Element)
    (count : Nat)
    (walk : Walk) :
    Prop where
  element_eq :
    walk.element = (powerOfTwo polynomial count).toNat
  doublings_eq :
    walk.doublings = count
  visited_iff :
    ∀ element : Element,
      slotOf walk.visited element = true ↔
        ∃ earlier < count, powerOfTwo polynomial earlier = element
  noted_eq :
    ∀ earlier < count,
      slotOf walk.noted (powerOfTwo polynomial earlier) =
        UInt8.ofNat earlier

/-- At the start nothing has been visited. -/
theorem standing_start
    (polynomial : Element) :
    Standing polynomial 0 start where
  element_eq := rfl
  doublings_eq := rfl
  visited_iff := by
    intro element
    simp [start]
  noted_eq := by
    intro earlier before
    omega

namespace Standing

variable {polynomial : Element} {count : Nat} {walk : Walk}

/-- The mark that a step looks at says whether the present power was met before. -/
theorem visited_here_iff
    (standing : Standing polynomial count walk) :
    walk.visited.getD walk.element false = true ↔
      ∃ earlier < count,
        powerOfTwo polynomial earlier = powerOfTwo polynomial count := by
  rw [standing.element_eq, getD_toNat]
  exact standing.visited_iff (powerOfTwo polynomial count)

/-- A step from a power that is new stands on the next one. -/
theorem advance_of_fresh
    (standing : Standing polynomial count walk)
    (fresh :
      ∀ earlier < count,
        powerOfTwo polynomial earlier ≠ powerOfTwo polynomial count) :
    ∃ next,
      walk.advance polynomial = .ok next ∧
        Standing polynomial (count + 1) next := by
  have unmarked :
      ¬ walk.visited.getD walk.element false = true := by
    rw [standing.visited_here_iff]
    rintro ⟨earlier, before, same⟩
    exact fresh earlier before same
  refine ⟨_, by rw [advance, if_neg unmarked], ?_⟩
  constructor
  case element_eq =>
    change double polynomial walk.element = _
    rw [standing.element_eq, double_toNat, powerOfTwo_succ]
  case doublings_eq =>
    exact congrArg (· + 1) standing.doublings_eq
  case visited_iff =>
    intro element
    change slotOf (walk.visited.setIfInBounds walk.element true) element = true ↔ _
    rw [standing.element_eq, slotOf_setIfInBounds]
    by_cases here : element = powerOfTwo polynomial count
    · rw [if_pos here]
      exact ⟨fun _ => ⟨count, Nat.lt_succ_self count, here.symm⟩, fun _ => rfl⟩
    · rw [if_neg here, standing.visited_iff]
      constructor
      · rintro ⟨earlier, before, reached⟩
        exact ⟨earlier, Nat.lt_succ_of_lt before, reached⟩
      · rintro ⟨earlier, before, reached⟩
        rcases Nat.lt_succ_iff_lt_or_eq.mp before with properlyBefore | rfl
        · exact ⟨earlier, properlyBefore, reached⟩
        · exact (here reached.symm).elim
  case noted_eq =>
    intro earlier before
    -- The new note is at a power met for the first time, so it replaces no earlier one.
    change slotOf (walk.noted.setIfInBounds walk.element (UInt8.ofNat walk.doublings))
      (powerOfTwo polynomial earlier) = _
    rw [standing.element_eq, standing.doublings_eq, slotOf_setIfInBounds]
    rcases Nat.lt_succ_iff_lt_or_eq.mp before with properlyBefore | rfl
    · rw [if_neg (fresh earlier properlyBefore)]
      exact standing.noted_eq earlier properlyBefore
    · rw [if_pos rfl]

/-- A step from a power met before is refused, with that power and its number. -/
theorem advance_of_repeated
    (standing : Standing polynomial count walk)
    (repeated :
      ∃ earlier < count,
        powerOfTwo polynomial earlier = powerOfTwo polynomial count) :
    walk.advance polynomial =
      .error
        (.duplicateLogarithm polynomial
          (powerOfTwo polynomial count) (UInt8.ofNat count)) := by
  have marked :
      walk.visited.getD walk.element false = true :=
    standing.visited_here_iff.mpr repeated
  rw [advance, if_pos marked, standing.element_eq,
    standing.doublings_eq, UInt8.ofNat_toNat]

end Standing

/-- Over different powers of two a walk goes on. -/
theorem after_of_distinctBelow
    {polynomial : Element}
    {count : Nat}
    (distinct : DistinctBelow polynomial count) :
    ∃ walk,
      after polynomial count = .ok walk ∧
        Standing polynomial count walk := by
  induction count with
  | zero =>
      exact ⟨start, rfl, standing_start polynomial⟩
  | succ count inductionHypothesis =>
      obtain ⟨distinctBefore, fresh⟩ := distinctBelow_succ_iff.mp distinct
      obtain ⟨walk, reached, standing⟩ :=
        inductionHypothesis distinctBefore
      obtain ⟨next, advanced, standingNext⟩ :=
        standing.advance_of_fresh fresh
      refine ⟨next, ?_, standingNext⟩
      rw [after_succ, reached]
      exact advanced

/-- A walk that has gone on has met different powers of two. -/
theorem distinctBelow_of_after
    {polynomial : Element}
    {count : Nat}
    {walk : Walk}
    (reached : after polynomial count = .ok walk) :
    DistinctBelow polynomial count := by
  induction count generalizing walk with
  | zero =>
      intro first firstBelow
      exact (Nat.not_lt_zero first firstBelow).elim
  | succ count inductionHypothesis =>
      rw [after_succ] at reached
      cases before : after polynomial count with
      | error refusal =>
          rw [before] at reached
          cases reached
      | ok previous =>
          have distinct := inductionHypothesis before
          refine distinctBelow_succ_iff.mpr ⟨distinct, ?_⟩
          obtain ⟨standingWalk, sameWalk, standing⟩ :=
            after_of_distinctBelow distinct
          rw [sameWalk] at reached
          intro earlier earlierBefore same
          have refused :=
            standing.advance_of_repeated ⟨earlier, earlierBefore, same⟩
          have contradictory := reached.symm.trans refused
          cases contradictory

/-- A walk is refused at the first power that it meets again, with that power and its number. -/
theorem firstRepeated_of_after
    {polynomial : Element}
    {count : Nat}
    {refusal : FieldError}
    (refused : after polynomial count = .error refusal) :
    ∃ number < count,
      DistinctBelow polynomial number ∧
        (∃ earlier < number,
          powerOfTwo polynomial earlier = powerOfTwo polynomial number) ∧
        refusal =
          .duplicateLogarithm polynomial
            (powerOfTwo polynomial number) (UInt8.ofNat number) := by
  induction count with
  | zero =>
      cases refused
  | succ count inductionHypothesis =>
      rw [after_succ] at refused
      cases before : after polynomial count with
      | error earlierRefusal =>
          rw [before] at refused
          cases refused
          obtain ⟨number, below, repeated⟩ := inductionHypothesis before
          exact ⟨number, Nat.lt_succ_of_lt below, repeated⟩
      | ok walk =>
          rw [before] at refused
          have distinct := distinctBelow_of_after before
          obtain ⟨standingWalk, sameWalk, standing⟩ :=
            after_of_distinctBelow distinct
          rw [before] at sameWalk
          cases sameWalk
          have repeated :
              ∃ earlier < count,
                powerOfTwo polynomial earlier =
                  powerOfTwo polynomial count := by
            by_contra fresh
            push Not at fresh
            obtain ⟨next, advanced, _⟩ := standing.advance_of_fresh fresh
            have contradictory := refused.symm.trans advanced
            cases contradictory
          have refusedHere :=
            refused.symm.trans (standing.advance_of_repeated repeated)
          exact ⟨count, Nat.lt_succ_self count, distinct, repeated,
            Except.error.inj refusedHere⟩

end Walk

/-- Exponents below 255 fit into a byte. -/
theorem toNat_ofNat_of_lt_order
    {exponent : Nat}
    (below : exponent < multiplicativeOrder) :
    (UInt8.ofNat exponent).toNat = exponent :=
  UInt8.toNat_ofNat_of_lt' (Nat.lt_succ_of_lt below)

/-- A table holds, at each of the first 255 powers of two, its exponent. -/
structure LogarithmTable.Inverts
    (table : LogarithmTable)
    (polynomial : Element) :
    Prop where
  generates : TwoGenerates polynomial
  slot_powerOfTwo :
    ∀ {count : Nat}, count < multiplicativeOrder →
      table.slot (powerOfTwo polynomial count) = count

namespace LogarithmTable

variable {table : LogarithmTable} {polynomial : Element}

/-- If two generates, the walk yields a table. -/
theorem exists_generate_of_twoGenerates
    (generates : TwoGenerates polynomial) :
    ∃ table, generate polynomial = .ok table := by
  obtain ⟨walk, walked⟩ :=
    Walk.after_of_distinctBelow generates.distinctBelow
  have generated : generate polynomial = .ok ⟨walk.noted⟩ := by
    unfold generate
    rw [walked.1]
  exact ⟨_, generated⟩

/-- A table that the walk yields inverts the powers of two. -/
theorem inverts_of_generate
    (generated : generate polynomial = .ok table) :
    table.Inverts polynomial := by
  unfold generate at generated
  cases full : Walk.after polynomial multiplicativeOrder with
  | error refusal =>
      rw [full] at generated
      cases generated
  | ok walk =>
      rw [full] at generated
      cases generated
      have distinct := Walk.distinctBelow_of_after full
      obtain ⟨standingWalk, sameWalk, standing⟩ :=
        Walk.after_of_distinctBelow distinct
      rw [full] at sameWalk
      cases sameWalk
      refine ⟨distinct.twoGenerates, ?_⟩
      intro count below
      unfold slot
      rw [standing.noted_eq count below]
      exact toNat_ofNat_of_lt_order below

/-- A polynomial has a table exactly if two generates under it. -/
theorem exists_generate_iff
    (polynomial : Element) :
    (∃ table, generate polynomial = .ok table) ↔
      TwoGenerates polynomial := by
  constructor
  · rintro ⟨table, generated⟩
    exact (inverts_of_generate generated).generates
  · exact exists_generate_of_twoGenerates

/-- A polynomial without a table is refused with the first power of two that repeats. -/
theorem firstRepeated_of_generate
    {refusal : FieldError}
    (refused : generate polynomial = .error refusal) :
    ∃ number < multiplicativeOrder,
      DistinctBelow polynomial number ∧
        (∃ earlier < number,
          powerOfTwo polynomial earlier = powerOfTwo polynomial number) ∧
        refusal =
          .duplicateLogarithm polynomial
            (powerOfTwo polynomial number) (UInt8.ofNat number) := by
  unfold generate at refused
  cases full : Walk.after polynomial multiplicativeOrder with
  | ok walk =>
      rw [full] at refused
      cases refused
  | error cause =>
      rw [full] at refused
      cases refused
      exact Walk.firstRepeated_of_after full

namespace Inverts

/-- The slot of a power of two holds the exponent modulo 255. -/
theorem slot_powerOfTwo_mod
    (inverts : table.Inverts polynomial)
    (count : Nat) :
    table.slot (powerOfTwo polynomial count) =
      count % multiplicativeOrder := by
  rw [← inverts.generates.powerOfTwo_mod]
  exact inverts.slot_powerOfTwo (Nat.mod_lt _ (by decide))

/-- A nonzero element is two to the power of what its slot holds, which is below 255. -/
theorem powerOfTwo_slot
    (inverts : table.Inverts polynomial)
    {element : Element}
    (nonzero : element ≠ 0) :
    table.slot element < multiplicativeOrder ∧
      powerOfTwo polynomial (table.slot element) = element := by
  obtain ⟨count, below, rfl⟩ :=
    inverts.generates.exists_powerOfTwo_eq nonzero
  rw [inverts.slot_powerOfTwo below]
  exact ⟨below, rfl⟩

end Inverts

end LogarithmTable

end ByteField
