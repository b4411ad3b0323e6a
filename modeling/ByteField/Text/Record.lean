namespace ByteField.Text

/-!
# Structural one-line forms

A value is described on one line by the name of its kind, followed by its
parts: named parts between braces, unnamed ones between parentheses, and the
items of a list between brackets.
-/

/-- A kind with named parts. -/
def record
    (name : String)
    (parts : List (String × String)) :
    String :=
  name ++ " \x7b " ++
    ", ".intercalate (parts.map fun (label, text) => label ++ ": " ++ text) ++
      " \x7d"

/-- A kind with unnamed parts. -/
def tuple
    (name : String)
    (parts : List String) :
    String :=
  name ++ "(" ++ ", ".intercalate parts ++ ")"

/-- A list of items. -/
def sequence
    (items : List String) :
    String :=
  "[" ++ ", ".intercalate items ++ "]"

end ByteField.Text
