import ByteField.Generators
import ByteField.Proofs.Programs

namespace ByteField.Guarded

/-!
# Lookups never leave a table

The tables answer at positions that they have and fall back on zero elsewhere.
A guarded computation does the same work but judges each position before it
reads or writes there, and stops at the first one that the table does not
have; it also stops at a multiple of a logarithm that no 64-bit word holds.
It never stops: the walk stays among the elements, the powers are entered at
two positions for each logarithm below 255, and sums, differences and reduced
multiples of such logarithms lie in the table of powers.
-/

/-- What a guarded computation goes on with after a value. -/
@[simp] theorem ok_bind
    {α β : Type}
    (value : α)
    (next : α → Except OutOfBounds β) :
    (Except.ok value >>= next) = next value :=
  rfl

/-- Write at a position, if the table has it. -/
def write
    {α : Type}
    {size : Nat}
    (slots : Vector α size)
    (index : Nat)
    (value : α) :
    Except OutOfBounds (Vector α size) :=
  if index < size then
    .ok (slots.setIfInBounds index value)
  else
    .error ⟨size, index⟩

theorem write_of_lt
    {α : Type}
    {size : Nat}
    (slots : Vector α size)
    {index : Nat}
    (inside : index < size)
    (value : α) :
    write slots index value = .ok (slots.setIfInBounds index value) :=
  if_pos inside

/-! ## Building the tables -/

/-- A step of a walk that looks up and marks the present element under guard. -/
def advance
    (polynomial : Element)
    (walk : Walk) :
    Except OutOfBounds (Except FieldError Walk) := do
  let isRepeated ← slotAt walk.visited walk.element
  if isRepeated then
    return .error
      (.duplicateLogarithm polynomial
        (UInt8.ofNat walk.element) (UInt8.ofNat walk.doublings))
  else
    let visited ← write walk.visited walk.element true
    let noted ← write walk.noted walk.element (UInt8.ofNat walk.doublings)
    return .ok {
      element := Walk.double polynomial walk.element
      doublings := walk.doublings + 1
      visited := visited
      noted := noted
    }

/-- On an element, a step is the same with and without a guard. -/
theorem advance_eq
    (polynomial : Element)
    {walk : Walk}
    (inside : walk.element < fieldSize) :
    advance polynomial walk = .ok (walk.advance polynomial) := by
  have mark :
      slotAt walk.visited walk.element =
        .ok (walk.visited.getD walk.element false) := by
    rw [slotAt_of_lt _ inside]
    simp [Vector.getD, Array.getD, inside]
  rw [advance, mark, ok_bind, write_of_lt _ inside, write_of_lt _ inside,
    Walk.advance]
  cases walk.visited.getD walk.element false <;> rfl

/-- A guarded walk of a number of steps. -/
def after
    (polynomial : Element) :
    Nat → Except OutOfBounds (Except FieldError Walk)
  | 0 => .ok (.ok .start)
  | count + 1 => do
      match ← after polynomial count with
      | .ok walk => advance polynomial walk
      | .error refusal => return .error refusal

/-- A walk stands on an element at every step. -/
theorem element_lt_of_after
    {polynomial : Element}
    {count : Nat}
    {walk : Walk}
    (reached : Walk.after polynomial count = .ok walk) :
    walk.element < fieldSize := by
  obtain ⟨standingWalk, sameWalk, standing⟩ :=
    Walk.after_of_distinctBelow (Walk.distinctBelow_of_after reached)
  rw [reached] at sameWalk
  cases sameWalk
  rw [standing.element_eq]
  exact UInt8.toNat_lt _

theorem after_eq
    (polynomial : Element)
    (count : Nat) :
    after polynomial count = .ok (Walk.after polynomial count) := by
  induction count with
  | zero =>
      rfl
  | succ count inductionHypothesis =>
      rw [after, inductionHypothesis, ok_bind, Walk.after]
      cases reached : Walk.after polynomial count with
      | error refusal =>
          rfl
      | ok walk =>
          exact advance_eq polynomial (element_lt_of_after reached)

/-- The table of logarithms, filled under guard. -/
def logarithms
    (polynomial : Element) :
    Except OutOfBounds (Except FieldError LogarithmTable) := do
  match ← after polynomial multiplicativeOrder with
  | .ok walk => return .ok ⟨walk.noted⟩
  | .error refusal => return .error refusal

theorem logarithms_eq
    (polynomial : Element) :
    logarithms polynomial = .ok (LogarithmTable.generate polynomial) := by
  unfold logarithms LogarithmTable.generate
  rw [after_eq, ok_bind]
  cases Walk.after polynomial multiplicativeOrder <;> rfl

/-- Enter elements one after the other under guard. -/
def enter
    (slots : Vector Element powerTableSize) :
    List (Nat × Element) → Except OutOfBounds (Vector Element powerTableSize)
  | [] => .ok slots
  | (index, element) :: rest => do
      let written ← write slots index element
      enter written rest

theorem enter_eq
    (slots : Vector Element powerTableSize)
    {entries : List (Nat × Element)}
    (inside : ∀ entry ∈ entries, entry.1 < powerTableSize) :
    enter slots entries =
      .ok (entries.foldl
        (fun slots (index, element) => slots.setIfInBounds index element)
        slots) := by
  induction entries generalizing slots with
  | nil =>
      rfl
  | cons entry rest inductionHypothesis =>
      obtain ⟨headInside, restInside⟩ := List.forall_mem_cons.mp inside
      rw [enter, write_of_lt _ headInside, ok_bind,
        inductionHypothesis _ restInside, List.foldl_cons]

/-- The table of powers, filled under guard. -/
def powers
    (logarithms : LogarithmTable) :
    Except OutOfBounds PowerTable := do
  let slots ←
    enter (Vector.replicate powerTableSize 0) (PowerTable.entries logarithms)
  return ⟨slots⟩

theorem powers_eq
    {logarithms : LogarithmTable}
    (faithful : logarithms.Faithful) :
    powers logarithms = .ok (PowerTable.ofLogarithms logarithms) := by
  have inside :
      ∀ entry ∈ PowerTable.entries logarithms, entry.1 < powerTableSize :=
    fun _ => PowerTable.position_lt_of_mem_entries faithful
  unfold powers PowerTable.ofLogarithms
  rw [enter_eq _ inside]
  rfl

/-- The field of a polynomial, with both tables filled under guard. -/
def field
    (polynomial : Element) :
    Except OutOfBounds (Except FieldError TabledField) := do
  match ← logarithms polynomial with
  | .ok table =>
      let powers ← powers table
      return .ok ⟨polynomial, table, powers⟩
  | .error refusal => return .error refusal

/-- No table is left while a field is built, nor before a polynomial is refused. -/
theorem field_eq
    (polynomial : Element) :
    field polynomial = .ok (TabledField.generate polynomial) := by
  unfold field TabledField.generate
  rw [logarithms_eq, ok_bind]
  cases generated : LogarithmTable.generate polynomial with
  | error refusal =>
      rfl
  | ok table =>
      have faithful :=
        (LogarithmTable.inverts_of_generate generated).faithful
      simp only [powers_eq faithful]
      rfl

/-- The polynomials of a list that have a table of logarithms, each tried under guard. -/
def accepted : List Element → Except OutOfBounds (List Element)
  | [] => .ok []
  | polynomial :: rest => do
      let tried ← logarithms polynomial
      let others ← accepted rest
      return if tried.isOk then polynomial :: others else others

/-- No table is left while polynomials are tried. -/
theorem accepted_eq
    (polynomials : List Element) :
    accepted polynomials = .ok (polynomials.filter Generators.isGenerating) := by
  induction polynomials with
  | nil =>
      rfl
  | cons polynomial rest inductionHypothesis =>
      rw [accepted, logarithms_eq, ok_bind, inductionHypothesis, ok_bind,
        List.filter_cons]
      unfold Generators.isGenerating
      cases LogarithmTable.generate polynomial <;> rfl

/-! ## Computing with the tables -/

/-- How many values a 64-bit word has. -/
def wordSize : Nat :=
  2 ^ 64

/-- A computed position as a 64-bit word; a negative one comes out far behind every table. -/
def positionOf
    (index : Int) :
    Nat :=
  (index % wordSize).toNat

/-- The product of two elements, looked up under guard. -/
def multiply
    (field : TabledField)
    (left right : Element) :
    Except OutOfBounds Element :=
  if left = 0 ∨ right = 0 then
    .ok 0
  else
    field.powers.powerAt (field.productIndex left right)

/-- The quotient of two elements, looked up under guard. -/
def divide
    (field : TabledField)
    (dividend divisor : Element) :
    Except OutOfBounds (Except FieldError Element) :=
  if divisor = 0 then
    .ok (.error .zeroDivisor)
  else if dividend = 0 then
    .ok (.ok 0)
  else
    (field.powers.powerAt
      (positionOf (field.quotientIndex dividend divisor))).map .ok

/-- A number that has to be a value of a 64-bit word. -/
def word
    (number : Nat) :
    Except OutOfBounds Nat :=
  if number < wordSize then
    .ok number
  else
    .error ⟨wordSize, number⟩

/-- A power of an element, its logarithm multiplied and looked up under guard. -/
def power
    (field : TabledField)
    (base : Element)
    (exponent : UInt32) :
    Except OutOfBounds Element :=
  if exponent = 0 then
    .ok 1
  else if base = 0 then
    .ok 0
  else do
    let multiple ← word (field.logarithms.slot base * exponent.toNat)
    field.powers.powerAt (multiple % multiplicativeOrder)

/-- The inverse of an element, looked up under guard. -/
def inverse
    (field : TabledField)
    (element : Element) :
    Except OutOfBounds (Except FieldError Element) :=
  if element = 0 then
    .ok (.error .zeroInverse)
  else
    (field.powers.powerAt
      (positionOf (multiplicativeOrder - field.logarithms.slot element))).map .ok

/-- A position in the table of powers is the same number as a word. -/
theorem positionOf_eq
    {index : Int}
    (nonnegative : 0 ≤ index)
    (inside : index < powerTableSize) :
    positionOf index = index.toNat := by
  unfold positionOf wordSize
  unfold powerTableSize at inside
  rw [Int.emod_eq_of_lt nonnegative (by omega)]

section Tabulates

variable {field : TabledField} {polynomial : Element}

/-- No logarithm is above 254, so no sum of two is above 508. -/
theorem productIndex_le
    (tabulates : field.Tabulates polynomial)
    {left right : Element}
    (leftNonzero : left ≠ 0)
    (rightNonzero : right ≠ 0) :
    field.productIndex left right ≤ 508 := by
  have leftBelow := tabulates.inverts.faithful.slot_lt leftNonzero
  have rightBelow := tabulates.inverts.faithful.slot_lt rightNonzero
  unfold multiplicativeOrder at leftBelow rightBelow
  unfold TabledField.productIndex
  omega

theorem multiply_eq
    (tabulates : field.Tabulates polynomial)
    (left right : Element) :
    multiply field left right = .ok (field.multiply left right) := by
  unfold multiply TabledField.multiply
  by_cases zero : left = 0 ∨ right = 0
  · rw [if_pos zero, if_pos zero]
  rw [if_neg zero, if_neg zero]
  obtain ⟨leftNonzero, rightNonzero⟩ := not_or.mp zero
  apply PowerTable.powerAt_of_lt
  exact Nat.lt_of_le_of_lt
    (productIndex_le tabulates leftNonzero rightNonzero) (by decide)

/-- After its one correction a difference of logarithms is a logarithm again. -/
theorem quotientIndex_bounds
    (tabulates : field.Tabulates polynomial)
    {dividend divisor : Element}
    (dividendNonzero : dividend ≠ 0)
    (divisorNonzero : divisor ≠ 0) :
    0 ≤ field.quotientIndex dividend divisor ∧
      field.quotientIndex dividend divisor < multiplicativeOrder := by
  have dividendBelow := tabulates.inverts.faithful.slot_lt dividendNonzero
  have divisorBelow := tabulates.inverts.faithful.slot_lt divisorNonzero
  unfold TabledField.quotientIndex
  unfold multiplicativeOrder at dividendBelow divisorBelow ⊢
  dsimp only
  split <;> omega

theorem divide_eq
    (tabulates : field.Tabulates polynomial)
    (dividend divisor : Element) :
    divide field dividend divisor = .ok (field.divide dividend divisor) := by
  unfold divide TabledField.divide
  by_cases divisorZero : divisor = 0
  · rw [if_pos divisorZero, if_pos divisorZero]
  rw [if_neg divisorZero, if_neg divisorZero]
  by_cases dividendZero : dividend = 0
  · rw [if_pos dividendZero, if_pos dividendZero]
  rw [if_neg dividendZero, if_neg dividendZero]
  obtain ⟨nonnegative, below⟩ :=
    quotientIndex_bounds tabulates dividendZero divisorZero
  have inside :
      field.quotientIndex dividend divisor < powerTableSize :=
    Int.lt_trans below (by decide)
  rw [positionOf_eq nonnegative inside,
    PowerTable.powerAt_of_lt _ ((Int.toNat_lt nonnegative).mpr inside)]
  rfl

theorem power_eq
    (tabulates : field.Tabulates polynomial)
    (base : Element)
    (exponent : UInt32) :
    power field base exponent = .ok (field.power base exponent) := by
  unfold power TabledField.power
  by_cases exponentZero : exponent = 0
  · rw [if_pos exponentZero, if_pos exponentZero]
  rw [if_neg exponentZero, if_neg exponentZero]
  by_cases baseZero : base = 0
  · rw [if_pos baseZero, if_pos baseZero]
  rw [if_neg baseZero, if_neg baseZero]
  have isWord :
      field.logarithms.slot base * exponent.toNat < wordSize :=
    tabulates.slot_mul_lt baseZero exponent
  rw [word, if_pos isWord, ok_bind, tabulates.toNat_powerIndex baseZero]
  apply PowerTable.powerAt_of_lt
  exact Nat.lt_trans (Nat.mod_lt _ (by decide)) (by decide)

theorem inverse_eq
    (tabulates : field.Tabulates polynomial)
    (element : Element) :
    inverse field element = .ok (field.inverse element) := by
  unfold inverse TabledField.inverse TabledField.inverseIndex
  by_cases zero : element = 0
  · rw [if_pos zero, if_pos zero]
  rw [if_neg zero, if_neg zero]
  have below := tabulates.inverts.faithful.slot_lt zero
  have inside :
      multiplicativeOrder - field.logarithms.slot element < powerTableSize :=
    Nat.lt_of_le_of_lt (Nat.sub_le _ _) (by decide)
  -- No logarithm is above 255, so the difference of numbers is that of integers.
  rw [← Int.ofNat_sub (Nat.le_of_lt below),
    positionOf_eq (Int.natCast_nonneg _) (Int.ofNat_lt.mpr inside),
    Int.toNat_natCast, PowerTable.powerAt_of_lt _ inside]
  rfl

end Tabulates

/-! ## Comparing on samples -/

/-- Whether lookup under guard and another arithmetic differ on a sample. -/
def differsOn
    (field : TabledField)
    (second : Arithmetic)
    (sample : Sample) :
    Except OutOfBounds Bool := do
  let product ← multiply field sample.left sample.right
  let quotient ← divide field sample.left sample.right
  let power ← power field sample.left sample.exponent
  return product != second.multiply sample.left sample.right ||
    quotient.toOption != (second.divide sample.left sample.right).toOption ||
    power != second.power sample.left sample.exponent

/-- On how many of the first samples they differ. -/
def differences
    (field : TabledField)
    (second : Arithmetic)
    (draw : Nat → Sample) :
    Nat → Except OutOfBounds Nat
  | 0 => .ok 0
  | count + 1 => do
      let found ← differences field second draw count
      let differs ← differsOn field second (draw count)
      return if differs then found + 1 else found

/-- Compare lookup under guard with the computation under the same polynomial. -/
def check
    (field : TabledField)
    (draw : Nat → Sample)
    (count : Nat) :
    Except OutOfBounds Agreement.Verdict := do
  let computed : ShiftAddField := ⟨field.polynomial⟩
  let found ← differences field computed.arithmetic draw count
  return if 0 < found then .disagree found count else .agree count

section Tabulates

variable {field : TabledField} {polynomial : Element}

theorem differsOn_eq
    (tabulates : field.Tabulates polynomial)
    (second : Arithmetic)
    (sample : Sample) :
    differsOn field second sample =
      .ok (Agreement.differsOn field.arithmetic second sample) := by
  simp only [differsOn, multiply_eq tabulates, divide_eq tabulates,
    power_eq tabulates, ok_bind]
  rfl

theorem differences_eq
    (tabulates : field.Tabulates polynomial)
    (second : Arithmetic)
    (draw : Nat → Sample)
    (count : Nat) :
    differences field second draw count =
      .ok (Agreement.differences field.arithmetic second draw count) := by
  induction count with
  | zero =>
      rfl
  | succ count inductionHypothesis =>
      rw [differences, inductionHypothesis, ok_bind,
        differsOn_eq tabulates, ok_bind]
      unfold Agreement.differences
      rw [Nat.fold_succ]
      rfl

theorem check_eq
    (tabulates : field.Tabulates polynomial)
    (draw : Nat → Sample)
    (count : Nat) :
    check field draw count = .ok (Agreement.check field draw count) := by
  simp only [check, differences_eq tabulates, ok_bind]
  rfl

end Tabulates

end ByteField.Guarded
