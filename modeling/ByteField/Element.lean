namespace ByteField

/-!
# Elements

An element of the field is a byte.  Bit `i` of the byte is the coefficient of
`X ^ i` in a polynomial over the two-element field, so the byte is a remainder
modulo a polynomial of degree eight.  That modulus is again named by a byte:
the byte `p` stands for `X ^ 8 + p`, its leading term being understood.

Addition of such polynomials does not depend on the modulus.  It is fixed
here, together with the sizes that every other module counts with.
-/

/-- A polynomial of degree at most seven over the two-element field. -/
abbrev Element :=
  UInt8

/-- How many elements there are. -/
def fieldSize : Nat :=
  256

/-- How many nonzero elements there are, the order of the group they form. -/
def multiplicativeOrder : Nat :=
  255

/-- The polynomial in use when no other one is asked for, `X⁸ + X⁴ + X³ + X² + 1`. -/
def defaultPolynomial : Element :=
  29

/-- Every element except zero, in ascending order. -/
def nonzeroElements : List Element :=
  (List.range' 1 multiplicativeOrder).map UInt8.ofNat

/-- Every element, in ascending order. -/
def allElements : List Element :=
  (List.range fieldSize).map UInt8.ofNat

/-- The list of all elements leaves none out. -/
theorem mem_allElements
    (element : Element) :
    element ∈ allElements :=
  List.mem_map.mpr
    ⟨element.toNat, List.mem_range.mpr element.toNat_lt, UInt8.ofNat_toNat⟩

/-- The elements are listed in ascending order, each of them once. -/
theorem allElements_ascending :
    allElements.Pairwise (· < ·) := by
  unfold allElements
  rw [List.pairwise_map]
  apply List.pairwise_lt_range.imp_of_mem
  intro first second firstListed secondListed before
  have firstByte : first < 256 := List.mem_range.mp firstListed
  have secondByte : second < 256 := List.mem_range.mp secondListed
  rw [UInt8.lt_iff_toNat_lt, UInt8.toNat_ofNat_of_lt' firstByte,
    UInt8.toNat_ofNat_of_lt' secondByte]
  exact before

/-- The list of nonzero elements leaves out zero only. -/
theorem mem_nonzeroElements
    {element : Element} :
    element ∈ nonzeroElements ↔ element ≠ 0 := by
  have listed :
      element ∈ nonzeroElements ↔
        ∃ value, (1 ≤ value ∧ value < 1 + multiplicativeOrder) ∧
          UInt8.ofNat value = element := by
    simp [nonzeroElements, List.mem_range'_1]
  rw [listed]
  constructor
  · rintro ⟨value, ⟨positive, below⟩, rfl⟩ isZero
    have byte := congrArg UInt8.toNat isZero
    rw [UInt8.toNat_ofNat_of_lt' (by simpa [multiplicativeOrder] using below)] at byte
    simp at byte
    omega
  · intro nonzero
    have positive : element.toNat ≠ 0 := by
      intro isZero
      exact nonzero (UInt8.toNat_inj.mp isZero)
    have byte := element.toNat_lt
    exact ⟨element.toNat, by unfold multiplicativeOrder; omega, UInt8.ofNat_toNat⟩

/-- Coefficientwise sum; equal coefficients cancel. -/
def sum
    (left right : Element) :
    Element :=
  left ^^^ right

end ByteField
