import ByteField.Element
import ByteField.Text.Numeral

namespace ByteField

/-!
# Positions in a table

A table has a fixed number of slots.  Reading at a position behind the last
slot is refused, and the refusal names both numbers.  A table with a slot for
each element can be read at any element.
-/

/-- A position that a table does not have. -/
structure OutOfBounds where
  size : Nat
  index : Nat
  deriving Repr, DecidableEq

/-- The sentence shown to the user. -/
def OutOfBounds.message
    (refusal : OutOfBounds) :
    String :=
  "index out of bounds: the len is " ++ Text.decimal refusal.size ++
    " but the index is " ++ Text.decimal refusal.index

/-- The item at a position, if the table has that position. -/
def slotAt
    {α : Type}
    {size : Nat}
    (slots : Vector α size)
    (index : Nat) :
    Except OutOfBounds α :=
  if inside : index < size then
    .ok slots[index]
  else
    .error ⟨size, index⟩

/-- A position before the end of the table is answered with its item. -/
theorem slotAt_of_lt
    {α : Type}
    {size : Nat}
    (slots : Vector α size)
    {index : Nat}
    (inside : index < size) :
    slotAt slots index = .ok slots[index] := by
  simp [slotAt, inside]

/-- The item of an element in a table with a slot for each. -/
def slotOf
    {α : Type}
    (slots : Vector α fieldSize)
    (element : Element) :
    α :=
  slots[(⟨element.toNat, element.toNat_lt⟩ : Fin fieldSize)]

/-- A table filled by a function on positions holds at an element what the function says. -/
@[simp] theorem slotOf_ofFn
    {α : Type}
    (fill : Fin fieldSize → α)
    (element : Element) :
    slotOf (Vector.ofFn fill) element =
      fill ⟨element.toNat, element.toNat_lt⟩ := by
  simp [slotOf]

/-- After a write, a position in the table holds what was written there or what it held before. -/
theorem getD_setIfInBounds
    {α : Type}
    {size : Nat}
    (slots : Vector α size)
    (written : Nat)
    (value default : α)
    {index : Nat}
    (inside : index < size) :
    (slots.setIfInBounds written value).getD index default =
      if written = index then value else slots.getD index default := by
  simp [Vector.getD, Array.getD, inside, Array.getElem_setIfInBounds]

/-- Reading at the position of an element never falls back on the default. -/
theorem getD_toNat
    {α : Type}
    (slots : Vector α fieldSize)
    (element : Element)
    (default : α) :
    slots.getD element.toNat default = slotOf slots element := by
  have inside : element.toNat < fieldSize :=
    element.toNat_lt
  simp [slotOf, Vector.getD, Array.getD, inside]

/-- Writing at the position of an element changes the item of this element only. -/
theorem slotOf_setIfInBounds
    {α : Type}
    (slots : Vector α fieldSize)
    (written element : Element)
    (value : α) :
    slotOf (slots.setIfInBounds written.toNat value) element =
      if element = written then value else slotOf slots element := by
  have inside : element.toNat < fieldSize :=
    element.toNat_lt
  rw [← getD_toNat _ element value,
    getD_setIfInBounds _ _ _ _ inside, getD_toNat]
  simp only [UInt8.toNat_inj, eq_comm]

/-- A table filled with one item holds it at every element. -/
@[simp] theorem slotOf_replicate
    {α : Type}
    (value : α)
    (element : Element) :
    slotOf (Vector.replicate fieldSize value) element = value := by
  simp [slotOf]

end ByteField
