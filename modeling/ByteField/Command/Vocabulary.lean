namespace ByteField.Command

/-!
# Words of the command line

The commands, and the slots that an argument can fill: operands by their
place, options by their name.
-/

/-- What the user can ask for. -/
inductive Verb where
  | polynomials
  | tables
  | multiply
  | divide
  | power
  | check
  deriving Repr, DecidableEq

/-- A place for a value on the command line. -/
inductive Slot where
  | polynomial
  | samples
  | left
  | right
  | exponent
  deriving Repr, DecidableEq

namespace Verb

/-- The command of a name, which has to be written in full. -/
def ofName? : String → Option Verb
  | "polynomials" => some .polynomials
  | "tables" => some .tables
  | "mul" => some .multiply
  | "div" => some .divide
  | "exp" => some .power
  | "check" => some .check
  | _ => none

/-- Whether a word starts a command, which the word for help does too. -/
def isName
    (word : String) :
    Bool :=
  word = "help" || (ofName? word).isSome

/-- The operands of a command, in their order. -/
def operands : Verb → List Slot
  | .multiply => [.left, .right]
  | .divide => [.left, .right]
  | .power => [.left, .exponent]
  | _ => []

/-- The option of a name behind a command. -/
def option? : Verb → String → Option Slot
  | _, "polynomial" => some .polynomial
  | .check, "samples" => some .samples
  | _, _ => none

end Verb

/-- The option of a name before the command. -/
def leadingOption? : String → Option Slot
  | "polynomial" => some .polynomial
  | _ => none

/-- How a slot is called in a message. -/
def Slot.label : Slot → String
  | .polynomial => "--polynomial <POLYNOMIAL>"
  | .samples => "--samples <SAMPLES>"
  | .left => "<A>"
  | .right => "<B>"
  | .exponent => "<N>"

end ByteField.Command
