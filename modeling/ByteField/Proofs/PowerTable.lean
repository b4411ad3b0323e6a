import ByteField.PowerTable
import ByteField.Proofs.Walk

namespace ByteField

/-!
# The table of powers inverts the table of logarithms

The entries of a table of powers are written one after the other, each to a
position of its own if the logarithms of the nonzero elements are different
and below 255.  So every entry is still there when the table is complete, once
at the logarithm of its element and once more 255 positions further on.
-/

/-- The nonzero elements have different logarithms, and all of them are below 255. -/
structure LogarithmTable.Faithful
    (table : LogarithmTable) :
    Prop where
  slot_lt :
    ∀ {element : Element}, element ≠ 0 →
      table.slot element < multiplicativeOrder
  slot_injective :
    ∀ {left right : Element}, left ≠ 0 → right ≠ 0 →
      table.slot left = table.slot right → left = right

/-- A table that inverts the powers of two is faithful. -/
theorem LogarithmTable.Inverts.faithful
    {table : LogarithmTable}
    {polynomial : Element}
    (inverts : table.Inverts polynomial) :
    table.Faithful where
  slot_lt := by
    intro element nonzero
    exact (inverts.powerOfTwo_slot nonzero).1
  slot_injective := by
    intro left right leftNonzero rightNonzero same
    rw [← (inverts.powerOfTwo_slot leftNonzero).2, same,
      (inverts.powerOfTwo_slot rightNonzero).2]

namespace PowerTable

/-- What is written at a position and not overwritten by anything else stays there. -/
theorem getD_foldl_setIfInBounds
    {size : Nat}
    (slots : Vector Element size)
    (entries : List (Nat × Element))
    {position : Nat}
    {value : Element}
    (inside : position < size)
    (agree :
      ∀ entry ∈ entries, entry.1 = position → entry.2 = value)
    (present :
      slots.getD position 0 = value ∨ (position, value) ∈ entries) :
    (entries.foldl
        (fun slots (index, element) => slots.setIfInBounds index element)
        slots).getD position 0 =
      value := by
  induction entries generalizing slots with
  | nil =>
      rcases present with already | impossible
      · exact already
      · cases impossible
  | cons entry rest inductionHypothesis =>
      rw [List.foldl_cons]
      apply inductionHypothesis
      · intro later member
        exact agree later (List.mem_cons_of_mem _ member)
      · rw [getD_setIfInBounds _ _ _ _ inside]
        by_cases here : entry.1 = position
        · rw [if_pos here]
          exact Or.inl (agree entry List.mem_cons_self here)
        · rw [if_neg here]
          refine present.imp_right ?_
          intro member
          rcases List.mem_cons.mp member with isEntry | inRest
          · exact (here (congrArg Prod.fst isEntry.symm)).elim
          · exact inRest

/-- An entry stands at a logarithm or 255 positions behind it. -/
theorem mem_entries_iff
    {logarithms : LogarithmTable}
    {position : Nat}
    {element : Element} :
    (position, element) ∈ entries logarithms ↔
      element ≠ 0 ∧
        (position = logarithms.slot element ∨
          position = logarithms.slot element + multiplicativeOrder) := by
  rw [entries, List.mem_flatMap]
  constructor
  · rintro ⟨entered, listed, member⟩
    have nonzero := mem_nonzeroElements.mp listed
    simp only [List.mem_cons, Prod.mk.injEq, List.not_mem_nil,
      or_false] at member
    rcases member with ⟨rfl, rfl⟩ | ⟨rfl, rfl⟩
    · exact ⟨nonzero, Or.inl rfl⟩
    · exact ⟨nonzero, Or.inr rfl⟩
  · rintro ⟨nonzero, position⟩
    refine ⟨element, mem_nonzeroElements.mpr nonzero, ?_⟩
    simpa using position

/-- Every entry of a faithful table has a position in the table of powers. -/
theorem position_lt_of_mem_entries
    {logarithms : LogarithmTable}
    (faithful : logarithms.Faithful)
    {entry : Nat × Element}
    (entered : entry ∈ entries logarithms) :
    entry.1 < powerTableSize := by
  obtain ⟨nonzero, position⟩ := mem_entries_iff.mp entered
  have below := faithful.slot_lt nonzero
  unfold multiplicativeOrder at position below
  unfold powerTableSize
  omega

/-- A position is that of an entry if its remainder modulo 255 is the logarithm. -/
theorem mem_entries_of_slot_eq
    {logarithms : LogarithmTable}
    {position : Nat}
    {element : Element}
    (inside : position < powerTableSize)
    (nonzero : element ≠ 0)
    (slot : logarithms.slot element = position % multiplicativeOrder) :
    (position, element) ∈ entries logarithms := by
  refine mem_entries_iff.mpr ⟨nonzero, ?_⟩
  rw [slot]
  unfold powerTableSize at inside
  unfold multiplicativeOrder
  omega

/-- Entries of a faithful table that stand at one position are the same. -/
theorem entries_agree
    {logarithms : LogarithmTable}
    (faithful : logarithms.Faithful)
    {position : Nat}
    {first second : Element}
    (firstEntered : (position, first) ∈ entries logarithms)
    (secondEntered : (position, second) ∈ entries logarithms) :
    first = second := by
  obtain ⟨firstNonzero, firstPosition⟩ := mem_entries_iff.mp firstEntered
  obtain ⟨secondNonzero, secondPosition⟩ := mem_entries_iff.mp secondEntered
  have firstBelow := faithful.slot_lt firstNonzero
  have secondBelow := faithful.slot_lt secondNonzero
  apply faithful.slot_injective firstNonzero secondNonzero
  omega

/-- In the table of a faithful table of logarithms every entry can be read. -/
theorem power_of_mem_entries
    {logarithms : LogarithmTable}
    (faithful : logarithms.Faithful)
    {position : Nat}
    {element : Element}
    (entered : (position, element) ∈ entries logarithms) :
    (ofLogarithms logarithms).power position = element := by
  have inside : position < powerTableSize :=
    position_lt_of_mem_entries faithful entered
  apply getD_foldl_setIfInBounds _ _ inside
  · rintro ⟨_, other⟩ otherEntered rfl
    exact entries_agree faithful otherEntered entered
  · exact Or.inr entered

/-- The table of powers holds two to the power of each of its positions. -/
theorem power_ofLogarithms
    {logarithms : LogarithmTable}
    {polynomial : Element}
    (inverts : logarithms.Inverts polynomial)
    {position : Nat}
    (inside : position < powerTableSize) :
    (ofLogarithms logarithms).power position =
      powerOfTwo polynomial position := by
  apply power_of_mem_entries inverts.faithful
  exact mem_entries_of_slot_eq inside
    (inverts.generates.powerOfTwo_ne_zero position)
    (inverts.slot_powerOfTwo_mod position)

end PowerTable

end ByteField
