import ByteField.Standard
import ByteField.Notice

namespace ByteField

/-!
# Tables of products

All 65536 products of a multiplication in a square: the left factor selects a
row, the right factor an entry of that row.
-/

/-- The products of every two elements. -/
structure ProductTable where
  rows : Vector (Vector Element fieldSize) fieldSize
  deriving DecidableEq

namespace ProductTable

/-- The table of any multiplication. -/
def generate
    (multiply : Element → Element → Element) :
    ProductTable where
  rows :=
    Vector.ofFn fun left =>
      Vector.ofFn fun right =>
        multiply (UInt8.ofNat left) (UInt8.ofNat right)

/-- What is reported when a table has been filled. -/
def builtNotice : Notice where
  level := .debug
  message :=
    "built " ++ Text.decimal fieldSize ++ "x" ++ Text.decimal fieldSize ++
      " multiplication table"

/-- All products with one left factor. -/
def row
    (table : ProductTable)
    (left : Element) :
    Vector Element fieldSize :=
  slotOf table.rows left

/-- The product of two elements. -/
def product
    (table : ProductTable)
    (left right : Element) :
    Element :=
  slotOf (table.row left) right

/-- An entry of a generated table is the product of its row and its column. -/
@[simp] theorem product_generate
    (multiply : Element → Element → Element)
    (left right : Element) :
    (generate multiply).product left right = multiply left right := by
  simp [product, row, generate]

/-- All products with one right factor, in ascending order of the left one. -/
def column
    (table : ProductTable)
    (right : Element) :
    Vector Element fieldSize :=
  table.rows.map fun products => slotOf products right

/-- The entry in a numbered row and column; the row number is judged first. -/
def productAt
    (table : ProductTable)
    (left right : Nat) :
    Except OutOfBounds Element :=
  match slotAt table.rows left with
  | .ok products => slotAt products right
  | .error refusal => .error refusal

/-- The products of the standard field. -/
def standard : ProductTable :=
  generate Standard.field.multiply

end ProductTable

end ByteField
