import ByteField.Proofs.GuardedLookup
import ByteField.Proofs.Logarithms

namespace ByteField

/-!
# The doubled inverse of a table of logarithms

Whatever walk or polynomial a table of logarithms comes from, 255 different
numbers below 255 are all of them.  So if the table is faithful, its entries in
a table of powers stand at all 510 positions, one at each: nothing is
overwritten, and no position is left.  Read modulo 255, the table of powers then
goes back from each logarithm to the only element that has it.
-/

/-- Each nonzero element is listed once. -/
theorem nodup_nonzeroElements :
    nonzeroElements.Nodup := by
  apply List.Nodup.map_on _ List.nodup_range'
  intro first firstListed second secondListed same
  obtain ⟨_, firstBelow⟩ := List.mem_range'_1.mp firstListed
  obtain ⟨_, secondBelow⟩ := List.mem_range'_1.mp secondListed
  rw [← UInt8.toNat_ofNat_of_lt' firstBelow, same,
    UInt8.toNat_ofNat_of_lt' secondBelow]

/-- A logarithm is a number in the slot of a nonzero element. -/
theorem LogarithmTable.log?_eq_some_iff_slot
    (table : LogarithmTable)
    {element : Element}
    {number : Nat}
    (byte : number < 256) :
    table.log? element = some (UInt8.ofNat number) ↔
      element ≠ 0 ∧ table.slot element = number := by
  by_cases zero : element = 0
  · simp [zero, log?]
  · rw [log?, if_neg zero, Option.some.injEq, ← UInt8.toNat_inj,
      UInt8.toNat_ofNat_of_lt' byte]
    exact (and_iff_right zero).symm

namespace LogarithmTable.Faithful

variable {logarithms : LogarithmTable}

/-- The logarithms of the nonzero elements are all numbers below 255. -/
theorem perm_range
    (faithful : logarithms.Faithful) :
    (nonzeroElements.map logarithms.slot).Perm
      (List.range multiplicativeOrder) := by
  have nodup : (nonzeroElements.map logarithms.slot).Nodup := by
    apply List.Nodup.map_on _ nodup_nonzeroElements
    intro left leftListed right rightListed same
    exact faithful.slot_injective
      (mem_nonzeroElements.mp leftListed)
      (mem_nonzeroElements.mp rightListed) same
  have below :
      nonzeroElements.map logarithms.slot ⊆
        List.range multiplicativeOrder := by
    intro number member
    obtain ⟨element, listed, rfl⟩ := List.mem_map.mp member
    exact List.mem_range.mpr
      (faithful.slot_lt (mem_nonzeroElements.mp listed))
  apply (nodup.subperm below).perm_of_length_le
  simp [nonzeroElements]

/-- Every number below 255 is the logarithm of a nonzero element. -/
theorem exists_slot_eq
    (faithful : logarithms.Faithful)
    {number : Nat}
    (below : number < multiplicativeOrder) :
    ∃ element, element ≠ 0 ∧ logarithms.slot element = number := by
  have listed : number ∈ nonzeroElements.map logarithms.slot :=
    faithful.perm_range.mem_iff.mpr (List.mem_range.mpr below)
  obtain ⟨element, member, slot⟩ := List.mem_map.mp listed
  exact ⟨element, mem_nonzeroElements.mp member, slot⟩

/-- The entries stand at all positions of a table of powers, one at each. -/
theorem positions_perm_range
    (faithful : logarithms.Faithful) :
    ((PowerTable.entries logarithms).map Prod.fst).Perm
      (List.range powerTableSize) := by
  have positions :
      (PowerTable.entries logarithms).map Prod.fst =
        nonzeroElements.flatMap fun element =>
          logarithms.slot element ::
            [logarithms.slot element + multiplicativeOrder] := by
    simp [PowerTable.entries, List.map_flatMap]
  have moved :
      (nonzeroElements.flatMap fun element =>
          [logarithms.slot element + multiplicativeOrder]) =
        (nonzeroElements.map logarithms.slot).map
          (multiplicativeOrder + ·) := by
    rw [List.map_map, List.map_eq_flatMap]
    simp only [Function.comp_apply, Nat.add_comm]
  -- All lower positions come before all upper ones up to the order of the entries.
  have halves :
      (nonzeroElements.map logarithms.slot ++
          (nonzeroElements.map logarithms.slot).map
            (multiplicativeOrder + ·)).Perm
        ((PowerTable.entries logarithms).map Prod.fst) := by
    rw [positions, ← moved]
    exact List.map_append_flatMap_perm _ _ _
  have range :
      List.range powerTableSize =
        List.range multiplicativeOrder ++
          (List.range multiplicativeOrder).map (multiplicativeOrder + ·) := by
    rw [← List.range_add]
    rfl
  rw [range]
  exact halves.symm.trans
    (faithful.perm_range.append (faithful.perm_range.map _))

/-- The table of powers has every entry at its position. -/
theorem powerAt_of_mem_entries
    (faithful : logarithms.Faithful)
    {position : Nat}
    {element : Element}
    (entered : (position, element) ∈ PowerTable.entries logarithms) :
    (PowerTable.ofLogarithms logarithms).powerAt position = .ok element := by
  have inside : position < powerTableSize :=
    PowerTable.position_lt_of_mem_entries faithful entered
  rw [PowerTable.powerAt_of_lt _ inside,
    PowerTable.power_of_mem_entries faithful entered]

/-- At each position stands a nonzero element that has the position, modulo 255, as logarithm. -/
theorem exists_powerAt
    (faithful : logarithms.Faithful)
    {position : Nat}
    (inside : position < powerTableSize) :
    ∃ power,
      (PowerTable.ofLogarithms logarithms).powerAt position = .ok power ∧
        power ≠ 0 ∧
        logarithms.slot power = position % multiplicativeOrder := by
  have below : position % multiplicativeOrder < multiplicativeOrder :=
    Nat.mod_lt _ (by decide)
  obtain ⟨power, nonzero, slot⟩ := faithful.exists_slot_eq below
  refine ⟨power, ?_, nonzero, slot⟩
  apply faithful.powerAt_of_mem_entries
  exact PowerTable.mem_entries_of_slot_eq inside nonzero slot

end LogarithmTable.Faithful

/--
The logarithms that a walk notes are faithful.  From any faithful table, whatever
the slot of zero holds, the entries of the table of powers stand at the
positions 0 to 509, one at each, so a guarded filling never stops.  Each position
then holds the only element that has it, modulo 255, as logarithm, and no
position holds zero; and each nonzero element stands at its logarithm and 255
positions behind it.
-/
theorem doubledInverse_of_faithful :
    (∀ polynomial table,
        LogarithmTable.generate polynomial = .ok table → table.Faithful) ∧
      ∀ table : LogarithmTable, table.Faithful →
        Guarded.powers table = .ok (PowerTable.ofLogarithms table) ∧
          ((PowerTable.entries table).map Prod.fst).Perm (List.range 510) ∧
          (∀ position < 510,
            ∃ power,
              (PowerTable.ofLogarithms table).powerAt position = .ok power ∧
                power ≠ 0 ∧
                ∀ element,
                  table.log? element = some (UInt8.ofNat (position % 255)) ↔
                    element = power) ∧
          ∀ element, element ≠ 0 →
            ∃ log : UInt8,
              table.log? element = some log ∧
                (PowerTable.ofLogarithms table).powerAt log.toNat =
                  .ok element ∧
                (PowerTable.ofLogarithms table).powerAt (log.toNat + 255) =
                  .ok element := by
  constructor
  · intro polynomial table generated
    exact (LogarithmTable.inverts_of_generate generated).faithful
  intro table faithful
  refine ⟨Guarded.powers_eq faithful, faithful.positions_perm_range, ?_, ?_⟩
  · intro position inside
    obtain ⟨power, found, nonzero, slot⟩ := faithful.exists_powerAt inside
    refine ⟨power, found, nonzero, ?_⟩
    intro element
    have byte : position % 255 < 256 := by
      omega
    rw [table.log?_eq_some_iff_slot byte]
    constructor
    · rintro ⟨elementNonzero, same⟩
      exact faithful.slot_injective elementNonzero nonzero
        (same.trans slot.symm)
    · rintro rfl
      exact ⟨nonzero, slot⟩
  · intro element nonzero
    have byte :
        (UInt8.ofNat (table.slot element)).toNat = table.slot element :=
      toNat_ofNat_of_lt_order (faithful.slot_lt nonzero)
    refine ⟨_, table.log?_of_ne_zero nonzero, ?_⟩
    rw [byte]
    constructor
    · apply faithful.powerAt_of_mem_entries
      exact PowerTable.mem_entries_iff.mpr ⟨nonzero, Or.inl rfl⟩
    · apply faithful.powerAt_of_mem_entries
      exact PowerTable.mem_entries_iff.mpr ⟨nonzero, Or.inr rfl⟩

/-- Logarithms that fall by one from each element to the next; even zero has a number in its slot. -/
def descendingLogarithms : LogarithmTable where
  slots := Vector.ofFn fun position => UInt8.ofNat (255 - position)

theorem faithful_descendingLogarithms :
    descendingLogarithms.Faithful := by
  have slot :
      ∀ element : Element,
        descendingLogarithms.slot element = 255 - element.toNat := by
    intro element
    rw [LogarithmTable.slot, descendingLogarithms, slotOf_ofFn,
      UInt8.toNat_ofNat_of_lt' (Nat.lt_succ_of_le (Nat.sub_le _ _))]
  have byte : ∀ element : Element, element.toNat < 256 :=
    fun element => element.toNat_lt
  constructor
  case slot_lt =>
    intro element nonzero
    have positive : element.toNat ≠ 0 := by
      intro isZero
      exact nonzero (UInt8.toNat_inj.mp isZero)
    rw [slot]
    unfold multiplicativeOrder
    omega
  case slot_injective =>
    intro left right _ _ same
    have leftByte := byte left
    have rightByte := byte right
    rw [slot, slot] at same
    exact UInt8.toNat_inj.mp (by omega)

/--
The logarithms under the default polynomial are faithful.  So are the descending
ones, for which the slot of zero holds 255, which is no logarithm; one then
stands at the last position of the table of powers.
-/
theorem doubledInverse_of_faithful_descending :
    Standard.field.logarithms.Faithful ∧
      descendingLogarithms.Faithful ∧
      descendingLogarithms.slot 0 = 255 ∧
      descendingLogarithms.log? 1 = some 254 ∧
      (PowerTable.ofLogarithms descendingLogarithms).powerAt 509 = .ok 1 := by
  have standard :=
    doubledInverse_of_faithful.1 _ _
      (TabledField.generate_eq_ok_iff.mp
        Standard.generate_defaultPolynomial).2.1
  obtain ⟨_, _, _, inverse⟩ :=
    doubledInverse_of_faithful.2 _ faithful_descendingLogarithms
  obtain ⟨log, isLog, _, last⟩ := inverse 1 (by decide)
  have logOne : descendingLogarithms.log? 1 = some 254 := by
    decide +kernel
  rw [logOne] at isLog
  cases isLog
  exact ⟨standard, faithful_descendingLogarithms, by decide +kernel, logOne, last⟩

end ByteField
