import ByteField.Command.Argument
import ByteField.Command.Invocation

namespace ByteField.Command

/-!
# Reading arguments

Arguments are read from left to right, first those before the command, then
those behind it.  A value is not judged where it stands but when the next
argument takes a place of its own, or at the end; so an argument that fits
nowhere is reported before a bad value right in front of it.  A value behind
an equals sign is judged at once.

The commands, their operands and options, the defaults and the reading of a
byte are the program's own.  The rest is the argument parser's, which is a
library, and is taken over as documented: the shapes of arguments, the order in
which values are judged, the separator, the questions for help, and the reading
of the numbers that are no bytes.
-/

/-- A slot opened by an argument; its text is missing while an option awaits its value. -/
structure Pending where
  slot : Slot
  text : Option String
  deriving Repr, DecidableEq

/-- How far the arguments before a command, or those behind it, have been read. -/
structure Reading where
  /-- The command whose arguments are read; none before the command. -/
  verb : Option Verb
  /-- The operands that are still to come. -/
  operands : List Slot
  /-- The values judged so far. -/
  values : Values
  /-- The slot that is not judged yet. -/
  pending : Option Pending
  /-- Whether dashes have lost their meaning. -/
  plainOnly : Bool
  deriving Repr, DecidableEq

namespace Reading

/-- Nothing read yet. -/
def start
    (verb : Option Verb) :
    Reading where
  verb := verb
  operands :=
    match verb with
    | some command => command.operands
    | none => []
  values := {}
  pending := none
  plainOnly := false

/-- Whether an option awaits its value. -/
def awaitsValue
    (reading : Reading) :
    Bool :=
  match reading.pending with
  | some ⟨_, none⟩ => true
  | _ => false

/-- Judge the pending slot. -/
def settle
    (reading : Reading) :
    Except Refusal Reading :=
  match reading.pending with
  | none => .ok reading
  | some ⟨slot, none⟩ => .error (.missingValue slot)
  | some ⟨slot, some text⟩ =>
      match reading.values.accept text slot with
      | .ok values => .ok { reading with values := values, pending := none }
      | .error refusal => .error refusal

/--
What is wrong with an argument that no operand is left for.  Before the command
it stands where a command should; but a command behind the separator is no
command any more, only an argument out of place.
-/
def superfluous
    (reading : Reading)
    (argument : String) :
    Refusal :=
  match reading.verb with
  | some _ => .unexpectedArgument argument
  | none =>
      if reading.plainOnly && Verb.isName argument then
        .unexpectedArgument argument
      else
        .unknownCommand argument

/-- Give the awaiting option its value, or the next operand its text. -/
def takePlain
    (reading : Reading)
    (argument : String) :
    Except Refusal Reading :=
  match reading.plainOnly, reading.pending with
  | false, some ⟨slot, none⟩ =>
      .ok { reading with pending := some ⟨slot, some argument⟩ }
  | _, _ =>
      match reading.operands with
      | slot :: rest =>
          match reading.settle with
          | .ok settled =>
              .ok {
                settled with
                operands := rest
                pending := some ⟨slot, some argument⟩
              }
          | .error refusal => .error refusal
      | [] => .error (reading.superfluous argument)

/-- Open the slot of an option; a value that comes with it is judged at once. -/
def takeOption
    (reading : Reading)
    (slot : Slot)
    (value : Option String) :
    Except Refusal Reading :=
  match reading.settle with
  | .error refusal => .error refusal
  | .ok settled =>
      let opened := { settled with pending := some ⟨slot, value⟩ }
      match value with
      | some _ => opened.settle
      | none => .ok opened

/-- The option of a name at this place. -/
def option?
    (reading : Reading)
    (name : String) :
    Option Slot :=
  match reading.verb with
  | some verb => verb.option? name
  | none => leadingOption? name

/-- What one argument leads to. -/
inductive Progress where
  | further (reading : Reading)
  | help
  deriving Repr, DecidableEq

/-- Stop for help, once the pending slot is judged. -/
def takeHelp
    (reading : Reading) :
    Except Refusal Progress :=
  match reading.settle with
  | .ok _ => .ok .help
  | .error refusal => .error refusal

/-- Read one argument that is not a command. -/
def take
    (reading : Reading)
    (argument : String) :
    Except Refusal Progress :=
  if reading.plainOnly then
    (reading.takePlain argument).map .further
  else
    match Shape.of argument with
    | .separator => .ok (.further { reading with plainOnly := true })
    | .plain => (reading.takePlain argument).map .further
    | .short first =>
        if first = 'h' then
          reading.takeHelp
        else
          .error (.unexpectedArgument (String.ofList ['-', first]))
    | .long name value =>
        if name = "help" then
          match value with
          | none => reading.takeHelp
          | some text => .error (.unexpectedHelpValue text)
        else
          match reading.option? name with
          | some slot => (reading.takeOption slot value).map .further
          | none => .error (.unexpectedArgument ("--" ++ name))

end Reading

/-- What a command line asks for. -/
inductive Request where
  | help
  | perform (invocation : Invocation)
  deriving Repr, DecidableEq

namespace Request

/-- Read the arguments behind a command; none means that help is asked for. -/
def readTrailing
    (reading : Reading) :
    List String → Except Refusal (Option Values)
  | [] =>
      match reading.settle with
      | .error refusal => .error refusal
      | .ok settled =>
          if settled.operands = [] then
            .ok (some settled.values)
          else
            .error .missingOperands
  | argument :: rest =>
      match reading.take argument with
      | .error refusal => .error refusal
      | .ok .help => .ok none
      | .ok (.further next) => readTrailing next rest

/-- Read a command's own arguments, then judge what is pending before the command. -/
def readCommand
    (leading : Reading)
    (verb : Verb)
    (arguments : List String) :
    Except Refusal Request :=
  match readTrailing (.start (some verb)) arguments with
  | .error refusal => .error refusal
  | .ok none => .ok .help
  | .ok (some trailing) =>
      match leading.settle with
      | .error refusal => .error refusal
      | .ok settled =>
          (Invocation.ofValues verb settled.values trailing).map .perform

/-- Read the topic that help is asked about: at most one command. -/
def readTopic : List String → Except Refusal Request
  | [] => .ok .help
  | [name] =>
      if Verb.isName name then
        .ok .help
      else
        .error (.unknownCommand name)
  | name :: next :: _ =>
      if Verb.isName name then
        .error (.unknownCommand next)
      else
        .error (.unknownCommand name)

/-- Read the arguments from a point before the command. -/
def readLeading
    (reading : Reading) :
    List String → Except Refusal Request
  | [] =>
      match reading.settle with
      | .error refusal => .error refusal
      | .ok settled =>
          if settled.values = {} then
            .error .noArguments
          else
            .error .missingCommand
  | argument :: rest =>
      if reading.plainOnly ∨ reading.awaitsValue then
        match reading.take argument with
        | .error refusal => .error refusal
        | .ok .help => .ok .help
        | .ok (.further next) => readLeading next rest
      else if argument = "help" then
        readTopic rest
      else
        match Verb.ofName? argument with
        | some verb => readCommand reading verb rest
        | none =>
            match reading.take argument with
            | .error refusal => .error refusal
            | .ok .help => .ok .help
            | .ok (.further next) => readLeading next rest

/-- What the arguments of the program ask for. -/
def ofArguments
    (arguments : List String) :
    Except Refusal Request :=
  readLeading (.start none) arguments

end Request

end ByteField.Command
