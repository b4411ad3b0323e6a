import ByteField.ProductTable
import ByteField.Proofs.GuardedLookup
import Mathlib.Data.List.ProdSigma

namespace ByteField

/-!
# What a table of products holds

The table of any multiplication answers with the product of row and column, the
left factor naming the row, in every way of asking.  Filling a table of zeros
place after place comes to the same table.  As the entries determine the
multiplication, two tables are equal exactly if the multiplications are; so
lookup and computation share theirs, and no two polynomials do.
-/

/-- Tables with the same item for every element are equal. -/
theorem slotOf_ext
    {α : Type}
    {first second : Vector α fieldSize}
    (same : ∀ element, slotOf first element = slotOf second element) :
    first = second := by
  apply Vector.ext
  intro index inside
  have sameItem := same (UInt8.ofNat index)
  have position : (UInt8.ofNat index).toNat = index :=
    UInt8.toNat_ofNat_of_lt' inside
  simpa only [slotOf, Fin.getElem_fin, position] using sameItem

/-- An element is a position of every table with a slot for each. -/
theorem slotAt_toNat
    {α : Type}
    (slots : Vector α fieldSize)
    (element : Element) :
    slotAt slots element.toNat = .ok (slotOf slots element) :=
  slotAt_of_lt slots element.toNat_lt

namespace ProductTable

/-- A table is determined by its products. -/
theorem ext_product
    {first second : ProductTable}
    (same : ∀ left right, first.product left right = second.product left right) :
    first = second := by
  have rows : first.rows = second.rows :=
    slotOf_ext fun left => slotOf_ext fun right => same left right
  cases first
  cases second
  exact congrArg mk rows

/-- The entry in the row and the column of two elements is their product. -/
theorem productAt_toNat
    (table : ProductTable)
    (left right : Element) :
    table.productAt left.toNat right.toNat =
      .ok (table.product left right) := by
  simp only [productAt, slotAt_toNat]
  rfl

/-- Only equal multiplications have equal tables. -/
theorem generate_eq_generate_iff
    {first second : Element → Element → Element} :
    generate first = generate second ↔
      ∀ left right, first left right = second left right := by
  constructor
  · intro sameTable left right
    rw [← product_generate first, sameTable, product_generate]
  · intro same
    apply ext_product
    intro left right
    rw [product_generate, product_generate, same left right]

/-! ## Filling a table -/

/-- A table without products, every entry zero. -/
def blank : ProductTable where
  rows := Vector.replicate fieldSize (Vector.replicate fieldSize 0)

/-- The numbers of row and column of every place, row after row. -/
def places : List (Nat × Nat) :=
  List.range fieldSize ×ˢ List.range fieldSize

theorem mem_places_iff
    {place : Nat × Nat} :
    place ∈ places ↔ place.1 < fieldSize ∧ place.2 < fieldSize := by
  rw [places, List.mem_product, List.mem_range, List.mem_range]

/-- The table with another entry for two elements. -/
def withProduct
    (table : ProductTable)
    (left right value : Element) :
    ProductTable where
  rows :=
    table.rows.setIfInBounds left.toNat
      ((table.row left).setIfInBounds right.toNat value)

/-- A new entry changes the product of its two elements only. -/
theorem product_withProduct
    (table : ProductTable)
    (row column value left right : Element) :
    (table.withProduct row column value).product left right =
      if left = row ∧ right = column then value
      else table.product left right := by
  rw [product, ProductTable.row, withProduct, slotOf_setIfInBounds]
  by_cases sameRow : left = row
  · rw [if_pos sameRow, slotOf_setIfInBounds, sameRow]
    simp only [true_and]
    rfl
  · rw [if_neg sameRow, if_neg (fun same => sameRow same.1)]
    rfl

end ProductTable

namespace Guarded

open ProductTable

/-- Enter the product of row and column at a place, looked up and written under guard. -/
def enterProduct
    (multiply : Element → Element → Element)
    (table : ProductTable)
    (place : Nat × Nat) :
    Except OutOfBounds ProductTable := do
  let products ← slotAt table.rows place.1
  let written ←
    write products place.2
      (multiply (UInt8.ofNat place.1) (UInt8.ofNat place.2))
  let rows ← write table.rows place.1 written
  return ⟨rows⟩

/-- Enter products place after place. -/
def enterProducts
    (multiply : Element → Element → Element)
    (table : ProductTable) :
    List (Nat × Nat) → Except OutOfBounds ProductTable
  | [] => .ok table
  | place :: rest => do
      let entered ← enterProduct multiply table place
      enterProducts multiply entered rest

/-- The table of a multiplication, filled under guard. -/
def products
    (multiply : Element → Element → Element) :
    Except OutOfBounds ProductTable :=
  enterProducts multiply blank places

theorem enterProduct_eq
    (multiply : Element → Element → Element)
    (table : ProductTable)
    (left right : Element) :
    enterProduct multiply table (left.toNat, right.toNat) =
      .ok (table.withProduct left right (multiply left right)) := by
  have leftInside : left.toNat < fieldSize :=
    left.toNat_lt
  have rightInside : right.toNat < fieldSize :=
    right.toNat_lt
  rw [enterProduct, slotAt_toNat, ok_bind, write_of_lt _ rightInside, ok_bind,
    write_of_lt _ leftInside, ok_bind, UInt8.ofNat_toNat, UInt8.ofNat_toNat]
  rfl

/-- Entered products stand at their places, and all other entries are as before. -/
theorem enterProducts_eq
    (multiply : Element → Element → Element)
    (table : ProductTable)
    {places : List (Nat × Nat)}
    (inside :
      ∀ place ∈ places, place.1 < fieldSize ∧ place.2 < fieldSize) :
    ∃ filled,
      enterProducts multiply table places = .ok filled ∧
        ∀ left right : Element,
          filled.product left right =
            if (left.toNat, right.toNat) ∈ places then multiply left right
            else table.product left right := by
  induction places generalizing table with
  | nil =>
      exact ⟨table, rfl, fun left right => by simp⟩
  | cons place rest inductionHypothesis =>
      obtain ⟨⟨rowInside, columnInside⟩, restInside⟩ :=
        List.forall_mem_cons.mp inside
      obtain ⟨row, isRow⟩ : ∃ row : Element, row.toNat = place.1 :=
        ⟨_, UInt8.toNat_ofNat_of_lt' rowInside⟩
      obtain ⟨column, isColumn⟩ : ∃ column : Element, column.toNat = place.2 :=
        ⟨_, UInt8.toNat_ofNat_of_lt' columnInside⟩
      have isPlace : place = (row.toNat, column.toNat) := by
        rw [isRow, isColumn]
      obtain ⟨filled, entered, holds⟩ :=
        inductionHypothesis
          (table.withProduct row column (multiply row column)) restInside
      refine ⟨filled, ?_, ?_⟩
      · rw [enterProducts, isPlace, enterProduct_eq, ok_bind, entered]
      · intro left right
        have isHere :
            (left.toNat, right.toNat) = place ↔ left = row ∧ right = column := by
          rw [isPlace, Prod.mk.injEq, UInt8.toNat_inj, UInt8.toNat_inj]
        rw [holds, product_withProduct]
        simp only [List.mem_cons, isHere]
        by_cases later : (left.toNat, right.toNat) ∈ rest
        · rw [if_pos later, if_pos (Or.inr later)]
        · rw [if_neg later]
          by_cases here : left = row ∧ right = column
          · rw [if_pos here, if_pos (Or.inl here), here.1, here.2]
          · rw [if_neg here, if_neg (not_or.mpr ⟨here, later⟩)]

/-- Filling place after place comes to the table of the multiplication. -/
theorem products_eq
    (multiply : Element → Element → Element) :
    products multiply = .ok (ProductTable.generate multiply) := by
  obtain ⟨filled, entered, holds⟩ :=
    enterProducts_eq multiply blank fun _ => mem_places_iff.mp
  have isGenerated : filled = ProductTable.generate multiply := by
    apply ext_product
    intro left right
    have isPlace : (left.toNat, right.toNat) ∈ places :=
      mem_places_iff.mpr ⟨left.toNat_lt, right.toNat_lt⟩
    rw [holds, if_pos isPlace, product_generate]
  rw [products, entered, isGenerated]

end Guarded

namespace ShiftAdd

/-- The product with two is the double. -/
theorem multiply_two
    (polynomial element : Element) :
    multiply polynomial element 2 = double polynomial element := by
  apply residue_injective polynomial
  rw [residue_multiply, residue_two, residue_double, mul_comm]

/-- The product of `X ^ 7` and `X` is what the polynomial puts in place of `X ^ 8`. -/
theorem multiply_highest_two
    (polynomial : Element) :
    multiply polynomial 0x80 2 = polynomial := by
  rw [multiply_two, double, if_neg (by decide)]
  exact UInt8.zero_xor

end ShiftAdd

/--
The table of any multiplication holds at row and column of two elements their
product, the left one naming the row, and it is the table that filling place
after place comes to.  Tables are equal exactly if the multiplications are.  So
a field has the same table by lookup and by computation, different polynomials
have different tables, and the standard table agrees with the standard product.
-/
theorem table_of_products :
    (∀ multiply left right,
        (ProductTable.generate multiply).product left right =
            multiply left right ∧
          (ProductTable.generate multiply).productAt
              left.toNat right.toNat =
            .ok (multiply left right) ∧
          slotAt ((ProductTable.generate multiply).row left) right.toNat =
            .ok (multiply left right)) ∧
      (∀ multiply,
        Guarded.products multiply = .ok (ProductTable.generate multiply)) ∧
      (∀ first second,
        ProductTable.generate first = ProductTable.generate second ↔
          ∀ left right, first left right = second left right) ∧
      (∀ polynomial field,
        TabledField.generate polynomial = .ok field →
          ProductTable.generate field.arithmetic.multiply =
            ProductTable.generate
              (ShiftAddField.arithmetic ⟨polynomial⟩).multiply) ∧
      (∀ first second : Element,
        ProductTable.generate (ShiftAddField.arithmetic ⟨first⟩).multiply =
            ProductTable.generate (ShiftAddField.arithmetic ⟨second⟩).multiply →
          first = second) ∧
      ∀ left right : Element,
        ProductTable.standard.product left right =
            Standard.multiply left right ∧
          ProductTable.standard.productAt left.toNat right.toNat =
            .ok (Standard.multiply left right) := by
  refine ⟨?_, Guarded.products_eq,
    fun _ _ => ProductTable.generate_eq_generate_iff, ?_, ?_, ?_⟩
  · intro multiply left right
    have isProduct := ProductTable.product_generate multiply left right
    refine ⟨isProduct, ?_, ?_⟩
    · rw [ProductTable.productAt_toNat, isProduct]
    · rw [slotAt_toNat]
      exact congrArg Except.ok isProduct
  · intro polynomial field generated
    rw [(TabledField.tabulates_of_generate generated).arithmetic_eq]
  · intro first second sameTable
    have sameProducts :=
      ProductTable.generate_eq_generate_iff.mp sameTable 0x80 2
    rw [ShiftAddField.arithmetic_multiply, ShiftAddField.arithmetic_multiply,
      ShiftAdd.multiply_highest_two, ShiftAdd.multiply_highest_two]
      at sameProducts
    exact sameProducts
  · intro left right
    have isProduct :
        ProductTable.standard.product left right =
          Standard.multiply left right :=
      ProductTable.product_generate Standard.field.multiply left right
    refine ⟨isProduct, ?_⟩
    rw [ProductTable.productAt_toNat, isProduct]

/--
The last row of a multiplication that answers with its left factor holds 255
throughout and its last column does not; the standard field shares its table
with the computation under its polynomial, but not with that under 45.
-/
theorem table_of_products_left :
    (ProductTable.generate fun left _ => left).productAt 255 0 = .ok 255 ∧
      (ProductTable.generate fun left _ => left).productAt 0 255 = .ok 0 ∧
      ProductTable.generate Standard.field.arithmetic.multiply =
        ProductTable.generate
          (ShiftAddField.arithmetic ⟨defaultPolynomial⟩).multiply ∧
      ProductTable.generate
          (ShiftAddField.arithmetic ⟨defaultPolynomial⟩).multiply ≠
        ProductTable.generate (ShiftAddField.arithmetic ⟨45⟩).multiply := by
  obtain ⟨products, _, _, sameField, samePolynomial, _⟩ := table_of_products
  refine ⟨(products _ 255 0).2.1, (products _ 0 255).2.1,
    sameField _ _ Standard.generate_defaultPolynomial, ?_⟩
  intro sameTable
  have contradictory := samePolynomial _ _ sameTable
  revert contradictory
  decide

end ByteField
