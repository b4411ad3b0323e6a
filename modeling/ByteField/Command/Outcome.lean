import ByteField.Agreement
import ByteField.Generators
import ByteField.Command.Printing
import ByteField.Command.Reading

namespace ByteField.Command

/-!
# Outcomes

A run of the program ends with an exit code and what it has written to its two
outputs.  A task prints step by step.  If it comes to its end, the code is 0;
if it stops, the code is 1 and the reason is reported; and if the arguments are
refused, no task is begun, the code is 2 and the refusal is reported.

Some of this is not decided here but taken over as documented: the argument
parser gives refused arguments their code and ends a question for help well,
and the error reporter gives a reason its code, the word in front of it and the
heading of its cause.  It is assumed besides that nobody listens to notices, as
nobody does unless the environment asks for them, and that both outputs take
all that is written to them.
-/

/-- How a run ends. -/
structure Outcome where
  code : Nat
  output : String
  errors : String
  deriving Repr, DecidableEq

namespace Outcome

/-- A run that does a task: what is printed goes to the output, and a reason to stop is reported. -/
def ofPrinting
    (task : Printing Unit) :
    Outcome where
  code :=
    match task.result with
    | .ok () => 0
    | .error _ => 1
  output := task.printed
  errors :=
    match task.result with
    | .ok () => ""
    | .error reason => "Error: " ++ reason ++ "\n"

/-- A run that is refused for its arguments. -/
def refused
    (refusal : Refusal) :
    Outcome where
  code := 2
  output := ""
  errors := refusal.message ++ "\n"

/-- A run that answers a question for help; the page, which the argument parser writes, is left out. -/
def helped : Outcome where
  code := 0
  output := ""
  errors := ""

end Outcome

/-! ## Tasks -/

/-- The list of the accepted polynomials. -/
def polynomialList : String :=
  ", ".intercalate
    (Generators.accepted.map fun polynomial => Text.decimal polynomial.toNat)

/-- The cell of a logarithm; an element without one has a dash. -/
def logarithmCell : Option UInt8 → String
  | some log => Text.decimal log.toNat
  | none => "-"

/-- Print an element on a line of its own. -/
def printElement
    (element : Element) :
    Printing Unit :=
  .printLine (Text.decimal element.toNat)

/-- Print both tables of a field, each under its name. -/
def printTables
    (field : TabledField) :
    Printing Unit := do
  .printLine "log:"
  .printRows (field.logarithms.logarithms.map logarithmCell)
  .printLine "exp:"
  .printRows (field.powers.powers.map fun power => Text.decimal power.toNat)

/-- Print nothing about samples that agree, and stop for those that do not. -/
def report : Agreement.Verdict → Printing Unit
  | .agree _ => pure ()
  | .disagree found samples => .stop (Agreement.complaint found samples)

/-- The reason why nothing is computed under a polynomial without tables. -/
def unusablePolynomial
    (polynomial : Element)
    (cause : FieldError) :
    String :=
  "polynomial " ++ Text.decimal polynomial.toNat ++
    " does not generate GF(2^8)\n\nCaused by:\n    " ++ cause.message

/-- Do a task in a field; samples to compare on come from the given sequence. -/
def performIn
    (field : TabledField)
    (draw : Nat → Sample) :
    FieldTask → Printing Unit
  | .tables =>
      printTables field
  | .multiply left right =>
      printElement (field.multiply left right)
  | .divide dividend divisor => do
      let quotient ← .orStop FieldError.message (field.divide dividend divisor)
      printElement quotient
  | .power base exponent =>
      printElement (field.power base exponent)
  | .check samples =>
      report (Agreement.check field draw samples)

/-- Carry out an invocation; a field is built only for a task that needs one. -/
def perform
    (draw : Nat → Sample)
    (invocation : Invocation) :
    Printing Unit :=
  match invocation.task with
  | .polynomials =>
      .printLine polynomialList
  | .inField task => do
      let field ←
        .orStop (unusablePolynomial invocation.polynomial)
          (TabledField.generate invocation.polynomial)
      performIn field draw task

/-- A whole run of the program. -/
def run
    (draw : Nat → Sample)
    (arguments : List String) :
    Outcome :=
  match Request.ofArguments arguments with
  | .error refusal => .refused refusal
  | .ok .help => .helped
  | .ok (.perform invocation) => .ofPrinting (perform draw invocation)

end ByteField.Command
