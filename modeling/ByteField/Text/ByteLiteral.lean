import ByteField.Text.Numeral
import ByteField.Text.Quoted

namespace ByteField.Text

/-!
# Byte literals

A byte is written as a decimal numeral, or as a hexadecimal one behind `0x` or
`0X`.  A text that is no byte literal is quoted whole in the complaint, with
the reason behind it.
-/

namespace ByteLiteral

/-- The radix of a literal, and its numeral without the mark of the radix. -/
def radixAndNumeral : List Char → Nat × List Char
  | '0' :: 'x' :: numeral => (16, numeral)
  | '0' :: 'X' :: numeral => (16, numeral)
  | numeral => (10, numeral)

/-- The value of a literal, or the fault of its numeral. -/
def read
    (text : String) :
    Except NumeralFault UInt8 :=
  let (radix, numeral) := radixAndNumeral text.toList
  (Numeral.readUnsigned radix 255 numeral).map UInt8.ofNat

/-- The complaint about a text that is no byte literal. -/
def complaint
    (text : String)
    (fault : NumeralFault) :
    String :=
  quoted text ++ " is not a byte value: " ++ fault.message

/-- The value of a literal, or the complaint about it. -/
def parse
    (text : String) :
    Except String UInt8 :=
  (read text).mapError (complaint text)

end ByteLiteral

end ByteField.Text
