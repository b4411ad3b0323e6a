namespace ByteField.Text

/-!
# Control sequences

A terminal takes an escape character, and the characters that belong to it, as
an order instead of showing them.  Text from outside is cleared of such control
sequences and of single control characters, so that it cannot give orders to
the terminal that shows it.

Blanks keep their place also inside a short sequence.  The sequence is then
only interrupted: the characters up to the next control character are shown,
and the sequence goes on from there.
-/

namespace ControlSequence

/-- How far an open sequence has got. -/
inductive Sequence where
  /-- Right behind the escape character. -/
  | escape
  /-- Behind further characters that do not end an escape sequence. -/
  | intermediate
  /-- Among the parameters of a control sequence proper. -/
  | control
  /-- At the start of an order to a device. -/
  | deviceEntry
  /-- Among the parameters of an order to a device. -/
  | deviceParameter
  /-- Behind the parameters of an order to a device. -/
  | deviceIntermediate
  /-- In a string that lasts up to a string terminator. -/
  | string
  /-- In a command to the operating system, which a bell ends. -/
  | command
  deriving Repr, DecidableEq

/-- Whether the characters of a text are being shown or taken as an order. -/
inductive Mode where
  | showing (interrupted : Option Sequence)
  | inside (sequence : Sequence)
  deriving Repr, DecidableEq

/-- The kinds of characters that a terminal tells apart. -/
inductive Kind where
  | escape
  | cancel
  | blank
  | control
  | visible
  | beyondAscii
  deriving Repr, DecidableEq

/-- The kind of a character. -/
def Kind.of
    (character : Char) :
    Kind :=
  if character = '\x1b' then .escape
  else if character = '\x18' ∨ character = '\x1a' then .cancel
  else if ['\t', '\n', '\x0c', '\r'].contains character then .blank
  else if character < ' ' ∨ character = '\x7f' then .control
  else if character < '\x7f' then .visible
  else .beyondAscii

namespace Sequence

/-- The sequence behind a visible character of it; none if the character ends it. -/
def next?
    (sequence : Sequence)
    (character : Char) :
    Option Sequence :=
  match sequence with
  | .escape =>
      if character < '0' then some .intermediate
      else if character = '[' then some .control
      else if character = ']' then some .command
      else if character = 'P' then some .deviceEntry
      else if ['X', '^', '_'].contains character then some .string
      else none
  | .intermediate =>
      if character < '0' then some .intermediate else none
  | .control =>
      if character < '@' then some .control else none
  | .deviceEntry =>
      if character < '0' then some .deviceIntermediate
      else if character < '@' then some .deviceParameter
      else some .string
  | .deviceParameter =>
      if character < '0' then some .deviceIntermediate
      else if character < '<' then some .deviceParameter
      else some .string
  | .deviceIntermediate =>
      if character < '0' then some .deviceIntermediate else some .string
  | .string => some .string
  | .command => some .command

/-- Whether blanks inside the sequence are shown. -/
def showsBlanks : Sequence → Bool
  | .escape | .intermediate | .control => true
  | _ => false

/-- The byte that ends a string. -/
def stringTerminator : UInt8 :=
  0x9C

/--
Whether a character that is not visible ends the sequence.  A bell ends a
command, and a string ends at the terminator byte, be it alone or a part of a
longer character.
-/
def endsAt
    (sequence : Sequence)
    (character : Char) :
    Bool :=
  match sequence with
  | .command => character = '\x07'
  | .string => (String.utf8EncodeChar character).contains stringTerminator
  | _ => false

end Sequence

namespace Mode

/-- Whether a character is shown. -/
def shows
    (mode : Mode)
    (character : Char) :
    Bool :=
  match Kind.of character, mode with
  | .visible, .showing _ => true
  | .beyondAscii, .showing _ => true
  | .blank, .showing _ => true
  | .blank, .inside sequence => sequence.showsBlanks
  | _, _ => false

/-- The mode behind a character. -/
def after
    (mode : Mode)
    (character : Char) :
    Mode :=
  match Kind.of character, mode with
  | .escape, _ => .inside .escape
  | .cancel, _ => .showing none
  | .beyondAscii, .showing _ => .showing none
  | .control, .showing (some sequence) => .inside sequence
  | _, .showing interrupted => .showing interrupted
  | .visible, .inside sequence =>
      match sequence.next? character with
      | some next => .inside next
      | none => .showing none
  | .blank, .inside sequence =>
      if sequence.showsBlanks then
        .showing (some sequence)
      else
        .inside sequence
  | _, .inside sequence =>
      if sequence.endsAt character then
        .showing none
      else
        .inside sequence

end Mode

/-- The characters that are shown, from a mode on. -/
def shown :
    Mode →
    List Char →
    List Char
  | _, [] => []
  | mode, character :: rest =>
      if mode.shows character then
        character :: shown (mode.after character) rest
      else
        shown (mode.after character) rest

end ControlSequence

/-- A text as a terminal may show it, cleared of control sequences. -/
def withoutControlSequences
    (text : String) :
    String :=
  String.ofList (ControlSequence.shown (.showing none) text.toList)

end ByteField.Text
