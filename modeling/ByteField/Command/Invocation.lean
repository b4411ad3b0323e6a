import ByteField.Element
import ByteField.Command.Refusal
import ByteField.Text.ByteLiteral

namespace ByteField.Command

/-!
# Invocations

The arguments of a command line add up to one task and a polynomial.  Values
are collected slot by slot, each text judged as it is put into its slot; a
slot takes one value only.
-/

/-- The values put into the slots so far. -/
structure Values where
  polynomial : Option Element := none
  samples : Option Nat := none
  left : Option Element := none
  right : Option Element := none
  exponent : Option UInt32 := none
  deriving Repr, DecidableEq

/-- The largest number of samples, the largest 64-bit word. -/
def largestSampleCount : Nat :=
  0xFFFFFFFFFFFFFFFF

/-- How many samples are compared when no number is given. -/
def defaultSampleCount : Nat :=
  100000

/-- The largest exponent, the largest 32-bit word. -/
def largestExponent : Nat :=
  0xFFFFFFFF

/-- Read a number of samples. -/
def readSampleCount
    (text : String) :
    Except String Nat :=
  (Text.Numeral.readUnsigned 10 largestSampleCount text.toList).mapError
    Text.NumeralFault.message

/-- Read an exponent: a signed 64-bit number first, which then has to be an exponent. -/
def readExponent
    (text : String) :
    Except String UInt32 :=
  match Text.Numeral.readSigned 10 0x8000000000000000 0x7FFFFFFFFFFFFFFF text.toList with
  | .error fault => .error fault.message
  | .ok number =>
      if 0 ≤ number ∧ number ≤ largestExponent then
        .ok (UInt32.ofNat number.toNat)
      else
        .error
          (Text.signedDecimal number ++ " is not in 0..=" ++
            Text.decimal largestExponent)

namespace Values

/-- Put a value that has been read into its slot, or refuse its text. -/
def store
    {α : Type}
    (slot : Slot)
    (text : String)
    (occupant : Option α)
    (read : String → Except String α)
    (put : α → Values) :
    Except Refusal Values :=
  match occupant with
  | some _ => .error (.repeatedOption slot)
  | none =>
      match read text with
      | .ok value => .ok (put value)
      | .error reason => .error (.invalidValue slot text reason)

/-- Read a text for a slot. -/
def accept
    (values : Values)
    (text : String) :
    Slot → Except Refusal Values
  | .polynomial =>
      store .polynomial text values.polynomial Text.ByteLiteral.parse
        fun value => { values with polynomial := some value }
  | .samples =>
      store .samples text values.samples readSampleCount
        fun value => { values with samples := some value }
  | .left =>
      store .left text values.left Text.ByteLiteral.parse
        fun value => { values with left := some value }
  | .right =>
      store .right text values.right Text.ByteLiteral.parse
        fun value => { values with right := some value }
  | .exponent =>
      store .exponent text values.exponent readExponent
        fun value => { values with exponent := some value }

end Values

/-- What is to be done in the field of a polynomial. -/
inductive FieldTask where
  | tables
  | multiply (left right : Element)
  | divide (left right : Element)
  | power (base : Element) (exponent : UInt32)
  | check (samples : Nat)
  deriving Repr, DecidableEq

/-- What is to be done; the list of polynomials does not depend on one of them. -/
inductive Task where
  | polynomials
  | inField (task : FieldTask)
  deriving Repr, DecidableEq

/-- The task of a command with its operands, if none is missing. -/
def Task.ofValues? : Verb → Values → Option Task
  | .polynomials, _ => some .polynomials
  | .tables, _ => some (.inField .tables)
  | .multiply, values => do
      some (.inField (.multiply (← values.left) (← values.right)))
  | .divide, values => do
      some (.inField (.divide (← values.left) (← values.right)))
  | .power, values => do
      some (.inField (.power (← values.left) (← values.exponent)))
  | .check, values =>
      some (.inField (.check (values.samples.getD defaultSampleCount)))

/-- A task and the polynomial to do it under. -/
structure Invocation where
  task : Task
  polynomial : Element
  deriving Repr, DecidableEq

/--
The invocation that the values before and behind a command add up to.

A polynomial behind the command counts more than one before it.
-/
def Invocation.ofValues
    (verb : Verb)
    (leading trailing : Values) :
    Except Refusal Invocation :=
  match Task.ofValues? verb trailing with
  | none => .error .missingOperands
  | some task =>
      .ok {
        task := task
        polynomial :=
          (trailing.polynomial <|> leading.polynomial).getD defaultPolynomial
      }

end ByteField.Command
