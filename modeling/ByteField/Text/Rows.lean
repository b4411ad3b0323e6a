namespace ByteField.Text

/-!
# Rows of cells

Cells are printed eight to a row, each moved to the right edge of a column
four characters wide.  Neighbours in a row are one blank apart, and every row
ends its line.
-/

namespace Rows

/-- How many cells stand in a full row. -/
def cellsPerRow : Nat :=
  8

/-- The width of a column, in characters. -/
def columnWidth : Nat :=
  4

/-- A cell with blanks before it up to the width of a column; a wider one is left as it is. -/
def alignRight
    (cell : String) :
    String :=
  String.ofList (List.replicate (columnWidth - cell.length) ' ') ++ cell

/-- Consecutive groups of the given positive size, the last one possibly shorter. -/
def groups
    {α : Type}
    (size : Nat) :
    List α → List (List α)
  | [] => []
  | item :: rest =>
      (item :: rest.take (size - 1)) :: groups size (rest.drop (size - 1))
  termination_by items => items.length
  decreasing_by
    simp only [List.length_drop, List.length_cons]
    omega

/-- Grouping loses nothing and keeps the order. -/
theorem flatten_groups
    {α : Type}
    (size : Nat)
    (items : List α) :
    (groups size items).flatten = items := by
  fun_induction groups size items with
  | case1 =>
      rfl
  | case2 item rest inductionHypothesis =>
      simp [inductionHypothesis]

/-- One row with the end of its line. -/
def row
    (cells : List String) :
    String :=
  " ".intercalate (cells.map alignRight) ++ "\n"

end Rows

/-- The printed rows of a list of cells. -/
def rows
    (cells : List String) :
    String :=
  String.join ((Rows.groups Rows.cellsPerRow cells).map Rows.row)

end ByteField.Text
