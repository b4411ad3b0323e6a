import ByteField.FieldError
import ByteField.TableIndex

namespace ByteField

/-!
# Logarithms to base two

A walk over the powers of the element two visits one element after the other
and notes how many doublings led there.  If 255 doublings visit 255 elements,
two generates all nonzero elements, and the notes are a table of logarithms.
The first element visited twice ends the walk, and the polynomial is refused.

The walk counts with natural numbers throughout, so that nothing about the
range of its values is taken for granted.
-/

/-- For each element the number of doublings that lead to it from one. -/
structure LogarithmTable where
  slots : Vector UInt8 fieldSize
  deriving Repr, DecidableEq

namespace LogarithmTable

/-- What the slot of an element holds; the slot of zero holds no logarithm. -/
def slot
    (table : LogarithmTable)
    (element : Element) :
    Nat :=
  (slotOf table.slots element).toNat

/-- The logarithm of an element; zero has none. -/
def log?
    (table : LogarithmTable)
    (element : Element) :
    Option UInt8 :=
  if element = 0 then none
  else some (slotOf table.slots element)

/-- The logarithms of all elements, in ascending order of the elements. -/
def logarithms
    (table : LogarithmTable) :
    List (Option UInt8) :=
  allElements.map table.log?

end LogarithmTable

/-- The state of a walk over the powers of two. -/
structure Walk where
  /-- The element the walk has come to. -/
  element : Nat
  /-- The number of doublings made so far. -/
  doublings : Nat
  /-- Which elements were visited before. -/
  visited : Vector Bool fieldSize
  /-- The logarithms noted so far. -/
  noted : Vector UInt8 fieldSize

namespace Walk

/-- The walk before its first step stands on one and has visited nothing. -/
def start : Walk where
  element := 1
  doublings := 0
  visited := Vector.replicate fieldSize false
  noted := Vector.replicate fieldSize 0

/-- Twice an element: past the last element, the polynomial replaces the leading term. -/
def double
    (polynomial : Element)
    (element : Nat) :
    Nat :=
  let doubled := element <<< 1
  if fieldSize ≤ doubled then
    (doubled - fieldSize) ^^^ polynomial.toNat
  else
    doubled

/-- Note the logarithm of the present element, which must be new, and go to its double. -/
def advance
    (polynomial : Element)
    (walk : Walk) :
    Except FieldError Walk :=
  if walk.visited.getD walk.element false then
    .error
      (.duplicateLogarithm polynomial
        (UInt8.ofNat walk.element) (UInt8.ofNat walk.doublings))
  else
    .ok {
      element := double polynomial walk.element
      doublings := walk.doublings + 1
      visited := walk.visited.setIfInBounds walk.element true
      noted := walk.noted.setIfInBounds walk.element (UInt8.ofNat walk.doublings)
    }

/-- The walk after a number of steps. -/
def after
    (polynomial : Element) :
    Nat → Except FieldError Walk
  | 0 => .ok start
  | count + 1 =>
      match after polynomial count with
      | .ok walk => walk.advance polynomial
      | .error refusal => .error refusal

/-- One more step is a step from where the walk stands. -/
theorem after_succ
    (polynomial : Element)
    (count : Nat) :
    after polynomial (count + 1) =
      (after polynomial count).bind (advance polynomial) := by
  simp only [after]
  cases after polynomial count <;> rfl

/-- A step that succeeds is one doubling. -/
theorem doublings_of_advance
    {polynomial : Element}
    {walk next : Walk}
    (advanced : walk.advance polynomial = .ok next) :
    next.doublings = walk.doublings + 1 := by
  unfold advance at advanced
  split at advanced
  · cases advanced
  · cases advanced
    rfl

/-- The number of doublings is the number of steps. -/
theorem doublings_of_after
    {polynomial : Element}
    {count : Nat}
    {walk : Walk}
    (reached : after polynomial count = .ok walk) :
    walk.doublings = count := by
  induction count generalizing walk with
  | zero =>
      cases reached
      rfl
  | succ count inductionHypothesis =>
      rw [after_succ] at reached
      cases before : after polynomial count with
      | error refusal =>
          rw [before] at reached
          cases reached
      | ok previous =>
          rw [before] at reached
          rw [doublings_of_advance reached, inductionHypothesis before]

end Walk

namespace LogarithmTable

/-- The logarithms under a polynomial, or the first element that the walk meets twice. -/
def generate
    (polynomial : Element) :
    Except FieldError LogarithmTable :=
  match Walk.after polynomial multiplicativeOrder with
  | .ok walk => .ok ⟨walk.noted⟩
  | .error refusal => .error refusal

end LogarithmTable

end ByteField
