import ByteField.Command.Vocabulary
import ByteField.Text.ControlSequence

namespace ByteField.Command

/-!
# Refused command lines

Arguments that make no sense are refused before anything is computed.  The
message names the argument or the slot at fault; what it repeats from the
command line is cleared of control sequences.

The wording, and the clearing, are the argument parser's and taken over as
documented; only the first line of what it writes is modelled, not the hints
behind it.  The program's own are the line that says what it is about, the names
of the slots and the reason why a byte is refused.
-/

/-- Why the arguments are refused. -/
inductive Refusal where
  | noArguments
  | missingCommand
  | unknownCommand (name : String)
  | unexpectedArgument (argument : String)
  | unexpectedHelpValue (value : String)
  | missingOperands
  | missingValue (slot : Slot)
  | repeatedOption (slot : Slot)
  | invalidValue (slot : Slot) (text reason : String)
  deriving Repr, DecidableEq

/-- What the program is about, in one line. -/
def about : String :=
  "GF(2^8) arithmetic and table diagnostics"

/-- The message of a refusal. -/
def Refusal.message : Refusal → String
  | .noArguments =>
      about
  | .missingCommand =>
      "error: 'galois' requires a subcommand but one was not provided"
  | .unknownCommand name =>
      "error: unrecognized subcommand '" ++
        Text.withoutControlSequences name ++ "'"
  | .unexpectedArgument argument =>
      "error: unexpected argument '" ++
        Text.withoutControlSequences argument ++ "' found"
  | .unexpectedHelpValue value =>
      "error: unexpected value '" ++
        Text.withoutControlSequences value ++
        "' for '--help' found; no more were expected"
  | .missingOperands =>
      "error: the following required arguments were not provided:"
  | .missingValue slot =>
      "error: a value is required for '" ++ slot.label ++
        "' but none was supplied"
  | .repeatedOption slot =>
      "error: the argument '" ++ slot.label ++
        "' cannot be used multiple times"
  | .invalidValue slot text reason =>
      "error: invalid value '" ++
        Text.withoutControlSequences text ++ "' for '" ++ slot.label ++
        "': " ++ reason

end ByteField.Command
