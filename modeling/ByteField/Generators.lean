import ByteField.LogarithmTable
import ByteField.Notice

namespace ByteField

/-!
# Which polynomials generate the field

Every one of the 256 polynomials is tried in ascending order.  It is accepted
if it has a table of logarithms, and rejected with the reason otherwise.
-/

namespace Generators

/-- Whether a polynomial has a table of logarithms. -/
def isGenerating
    (polynomial : Element) :
    Bool :=
  match LogarithmTable.generate polynomial with
  | .ok _ => true
  | .error _ => false

/-- The accepted polynomials, in ascending order. -/
def accepted : List Element :=
  allElements.filter isGenerating

/-- Accepted is what has a table of logarithms. -/
theorem mem_accepted_iff
    {polynomial : Element} :
    polynomial ∈ accepted ↔
      ∃ table, LogarithmTable.generate polynomial = .ok table := by
  rw [accepted, List.mem_filter]
  unfold isGenerating
  cases LogarithmTable.generate polynomial with
  | ok table =>
      simp [mem_allElements]
  | error refusal =>
      simp

/-- The accepted polynomials are in ascending order. -/
theorem accepted_ascending :
    accepted.Pairwise (· < ·) :=
  allElements_ascending.filter isGenerating

/-- The rejected polynomials with the reasons, in ascending order. -/
def rejected : List (Element × FieldError) :=
  allElements.filterMap fun polynomial =>
    match LogarithmTable.generate polynomial with
    | .ok _ => none
    | .error refusal => some (polynomial, refusal)

/-- What is reported about one rejected polynomial. -/
def rejectionNotice
    (polynomial : Element)
    (refusal : FieldError) :
    Notice where
  level := .trace
  message :=
    "polynomial " ++ Text.decimal polynomial.toNat ++
      " rejected: " ++ refusal.message

/-- What is reported at the end. -/
def summaryNotice : Notice where
  level := .debug
  message :=
    Text.decimal accepted.length ++ " of " ++ Text.decimal fieldSize ++
      " candidate polynomials generate the field (" ++
      Text.decimal rejected.length ++ " rejected)"

/-- Everything reported while the polynomials are tried. -/
def notices : List Notice :=
  (rejected.map fun (polynomial, refusal) =>
    rejectionNotice polynomial refusal) ++ [summaryNotice]

end Generators

end ByteField
