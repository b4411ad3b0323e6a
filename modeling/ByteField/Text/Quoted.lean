import ByteField.Text.Unprintable
import ByteField.Text.GraphemeExtender
import ByteField.Text.Ignorable

namespace ByteField.Text

/-!
# Quoted text

Text is shown between double quotes.  A quote and a backslash inside it get a
backslash, the usual blanks have letters of their own, and a character that a
reader could not see, or would see merged with its neighbour, is named by its
code point.  So the quoted form is one line of visible characters.
-/

namespace Quoted

/-- A character named by its code point: lower-case hexadecimal without leading zeros. -/
def codePoint
    (character : Char) :
    List Char :=
  '\\' :: 'u' :: '\x7b' :: Nat.toDigits 16 character.toNat ++ ['\x7d']

/--
Whether a character is a halfwidth sound mark.  These two extend a grapheme,
yet they are letters with a column of their own.
-/
def isSoundMark
    (character : Char) :
    Bool :=
  character = '\uff9e' || character = '\uff9f'

/-- Whether a character is named by its code point for want of a form of its own. -/
def isHidden
    (character : Char) :
    Bool :=
  isUnprintable character ||
    (isGraphemeExtender character && !isSoundMark character) ||
    isIgnorable character

/-- What stands for one character between the quotes. -/
def escape
    (character : Char) :
    List Char :=
  if character = '"' then ['\\', '"']
  else if character = '\\' then ['\\', '\\']
  else if character = '\t' then ['\\', 't']
  else if character = '\r' then ['\\', 'r']
  else if character = '\n' then ['\\', 'n']
  else if character = '\x00' then ['\\', '0']
  else if isHidden character then codePoint character
  else [character]

end Quoted

/-- The text between double quotes, every character in its visible form. -/
def quoted
    (text : String) :
    String :=
  String.ofList ('"' :: text.toList.flatMap Quoted.escape ++ ['"'])

end ByteField.Text
