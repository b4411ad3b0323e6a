import ByteField.LogarithmTable

namespace ByteField

/-!
# Powers of two

The table of powers inverts a table of logarithms.  It is twice as long as
the group of nonzero elements is large, so the sum of two logarithms is a
position in it as it stands.
-/

/-- How many powers of two a table holds. -/
def powerTableSize : Nat :=
  510

/-- For each exponent below 510 the power of two with it. -/
structure PowerTable where
  slots : Vector Element powerTableSize
  deriving Repr, DecidableEq

namespace PowerTable

/-- The power at a position, if the table reaches so far. -/
def powerAt
    (table : PowerTable)
    (index : Nat) :
    Except OutOfBounds Element :=
  slotAt table.slots index

/-- The power at a position that lies in the table; any other position has power zero. -/
def power
    (table : PowerTable)
    (index : Nat) :
    Element :=
  table.slots.getD index 0

/-- Both ways of reading agree on the positions of the table. -/
theorem powerAt_of_lt
    (table : PowerTable)
    {index : Nat}
    (inside : index < powerTableSize) :
    table.powerAt index = .ok (table.power index) := by
  rw [powerAt, slotAt_of_lt _ inside]
  simp [power, Vector.getD, Array.getD, inside]

/-- All powers, in ascending order of the exponents. -/
def powers
    (table : PowerTable) :
    List Element :=
  table.slots.toList

/-- Where each nonzero element is entered: at its logarithm, and one group order further. -/
def entries
    (logarithms : LogarithmTable) :
    List (Nat × Element) :=
  nonzeroElements.flatMap fun element =>
    [(logarithms.slot element, element),
      (logarithms.slot element + multiplicativeOrder, element)]

/-- The powers that belong to a table of logarithms, entered one after the other. -/
def ofLogarithms
    (logarithms : LogarithmTable) :
    PowerTable where
  slots :=
    (entries logarithms).foldl
      (fun slots (index, element) => slots.setIfInBounds index element)
      (Vector.replicate powerTableSize 0)

end PowerTable

end ByteField
