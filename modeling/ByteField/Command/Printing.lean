import ByteField.Text.Rows

namespace ByteField.Command

/-!
# Printing step by step

A run prints one text behind the other, and it may stop for a reason.  What it
has printed by then stays printed, and nothing more is: neither the printing
nor the stopping can be taken back.
-/

/-- A part of a run: what it prints, and its value or the reason why it stops. -/
structure Printing (Value : Type) where
  printed : String
  result : Except String Value

namespace Printing

variable {First Second Value Refused : Type}

/-- Go on with the value of a part and print behind it; behind a stop nothing is done. -/
def andThen
    (first : Printing First)
    (next : First → Printing Second) :
    Printing Second :=
  match first.result with
  | .ok value => {
      printed := first.printed ++ (next value).printed
      result := (next value).result
    }
  | .error reason => {
      printed := first.printed
      result := .error reason
    }

instance : Monad Printing where
  pure value := {
    printed := ""
    result := .ok value
  }
  bind := andThen

/-- Print a text. -/
def print
    (text : String) :
    Printing Unit where
  printed := text
  result := .ok ()

/-- Print a text on a line of its own. -/
def printLine
    (text : String) :
    Printing Unit :=
  print (text ++ "\n")

/-- Stop for a reason. -/
def stop
    (reason : String) :
    Printing Value where
  printed := ""
  result := .error reason

/-- Go on with a value if there is one, and stop for the reason of a refusal otherwise. -/
def orStop
    (reason : Refused → String) :
    Except Refused Value → Printing Value
  | .ok value => pure value
  | .error refused => stop (reason refused)

/-- Print cells in rows, one row after the other. -/
def printRows
    (cells : List String) :
    Printing Unit :=
  forM (Text.Rows.groups Text.Rows.cellsPerRow cells) fun group =>
    print (Text.Rows.row group)

/-! ## What is printed -/

/-- Behind a value that is at hand the rest is done as it stands. -/
theorem pure_andThen
    (value : First)
    (next : First → Printing Second) :
    andThen (pure value) next = next value := by
  change Printing.mk ("" ++ (next value).printed) (next value).result = next value
  rw [String.empty_append]

theorem andThen_pure
    (part : Printing Value) :
    part.andThen pure = part := by
  obtain ⟨printed, reason | value⟩ := part
  · rfl
  · change Printing.mk (printed ++ "") (.ok value) = _
    rw [String.append_empty]

theorem andThen_assoc
    {Third : Type}
    (first : Printing First)
    (next : First → Printing Second)
    (last : Second → Printing Third) :
    (first.andThen next).andThen last =
      first.andThen fun value => (next value).andThen last := by
  obtain ⟨printed, reason | value⟩ := first
  · rfl
  · cases middle : (next value).result with
    | error reason =>
        simp only [andThen, middle]
    | ok result =>
        simp only [andThen, middle, String.append_assoc]

instance : LawfulMonad Printing :=
  LawfulMonad.mk' Printing andThen_pure pure_andThen andThen_assoc

/-- What is printed stays printed, whatever comes behind. -/
theorem prefix_printed_bind
    (first : Printing First)
    (next : First → Printing Second) :
    first.printed.toList <+: (first >>= next).printed.toList := by
  obtain ⟨printed, reason | value⟩ := first
  · exact List.prefix_refl _
  · change printed.toList <+: (printed ++ (next value).printed).toList
    rw [String.toList_append]
    exact List.prefix_append _ _

@[simp] theorem stop_bind
    (reason : String)
    (next : First → Printing Second) :
    (stop reason : Printing First) >>= next = stop reason :=
  rfl

@[simp] theorem orStop_ok
    (reason : Refused → String)
    (value : Value) :
    orStop reason (.ok value) = pure value :=
  rfl

@[simp] theorem orStop_error
    (reason : Refused → String)
    (refused : Refused) :
    orStop reason (.error refused : Except Refused Value) =
      stop (reason refused) :=
  rfl

/-- Texts printed one behind the other are one text. -/
@[simp] theorem print_bind_print
    (first second : String) :
    (do
        print first
        print second) =
      print (first ++ second) :=
  rfl

/-- Printing something of each item prints all of it in their order. -/
theorem forM_print
    {Item : Type}
    (render : Item → String)
    (items : List Item) :
    (forM items fun item => print (render item)) =
      print (String.join (items.map render)) := by
  induction items with
  | nil =>
      rfl
  | cons item rest inductionHypothesis =>
      rw [List.forM_cons, inductionHypothesis, print_bind_print,
        List.map_cons, String.join_cons]

/-- The rows are printed as the text that they are. -/
theorem printRows_eq
    (cells : List String) :
    printRows cells = print (Text.rows cells) :=
  forM_print Text.Rows.row _

end Printing

end ByteField.Command
