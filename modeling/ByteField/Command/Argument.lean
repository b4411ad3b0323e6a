namespace ByteField.Command

/-!
# Shapes of arguments

An argument is told apart by its leading dashes: two dashes alone make every
later argument a plain one, two dashes with something behind them name an
option, one dash begins a cluster of letters.  A lone dash is plain.
-/

/-- What an argument looks like. -/
inductive Shape where
  | separator
  | long (name : String) (value : Option String)
  | short (first : Char)
  | plain
  deriving Repr, DecidableEq

namespace Shape

/-- Split at the first equals sign; behind it stands the value. -/
def splitValue
    (characters : List Char) :
    String × Option String :=
  let name := String.ofList (characters.takeWhile (· != '='))
  match characters.dropWhile (· != '=') with
  | [] => (name, none)
  | _ :: value => (name, some (String.ofList value))

/-- The shape of an argument. -/
def of
    (argument : String) :
    Shape :=
  match argument.toList with
  | ['-', '-'] => .separator
  | '-' :: '-' :: characters =>
      let (name, value) := splitValue characters
      .long name value
  | '-' :: first :: _ => .short first
  | _ => .plain

end Shape

end ByteField.Command
