import ByteField.ShiftAdd
import ByteField.TabledField
import ByteField.Notice

namespace ByteField

/-!
# Comparing lookup with computation

The operations by table lookup are compared with those computed without
tables, on samples of two elements and an exponent.  The samples come from
outside; the comparison counts those on which the results differ.
-/

/-- Two elements and an exponent to compare the operations on. -/
structure Sample where
  left : Element
  right : Element
  exponent : UInt32
  deriving Repr, DecidableEq

namespace Sample

/-- The sample that a word spells: two bytes, then an exponent below 1024. -/
def ofWord
    (word : UInt64) :
    Sample where
  left := word.toUInt8
  right := (word >>> 8).toUInt8
  exponent := ((word >>> 16) &&& 1023).toUInt32

/-- Spread the bits of a word over the whole of it. -/
def scramble
    (word : UInt64) :
    UInt64 :=
  let first := (word ^^^ (word >>> 30)) * 0xBF58476D1CE4E5B9
  let second := (first ^^^ (first >>> 27)) * 0x94D049BB133111EB
  second ^^^ (second >>> 31)

/-- The sequence of samples that a seed begins. -/
def sequence
    (seed : UInt64)
    (position : Nat) :
    Sample :=
  .ofWord (scramble (seed + UInt64.ofNat (position + 1) * 0x9E3779B97F4A7C15))

end Sample

namespace Agreement

/-- Whether two arithmetics differ in the product, the quotient or the power of a sample. -/
def differsOn
    (first second : Arithmetic)
    (sample : Sample) :
    Bool :=
  first.multiply sample.left sample.right !=
      second.multiply sample.left sample.right ||
    (first.divide sample.left sample.right).toOption !=
      (second.divide sample.left sample.right).toOption ||
    first.power sample.left sample.exponent !=
      second.power sample.left sample.exponent

/-- On how many of the first samples of a sequence two arithmetics differ. -/
def differences
    (first second : Arithmetic)
    (draw : Nat → Sample)
    (count : Nat) :
    Nat :=
  count.fold
    (fun index _ found =>
      if differsOn first second (draw index) then found + 1 else found)
    0

/-- How a comparison ends. -/
inductive Verdict where
  | agree
      (samples : Nat)
  | disagree
      (found samples : Nat)
  deriving Repr, DecidableEq

/-- Compare a tabled field with the computation under the same polynomial. -/
def check
    (field : TabledField)
    (draw : Nat → Sample)
    (count : Nat) :
    Verdict :=
  let computed : ShiftAddField := ⟨field.polynomial⟩
  let found := differences field.arithmetic computed.arithmetic draw count
  if 0 < found then
    .disagree found count
  else
    .agree count

/-- What is reported of samples that all agree. -/
def agreementNotice
    (samples : Nat) :
    Notice where
  level := .info
  message := Text.decimal samples ++ " samples agree"

/-- The complaint about samples that disagree. -/
def complaint
    (found samples : Nat) :
    String :=
  Text.decimal found ++ " of " ++ Text.decimal samples ++ " samples disagree"

end Agreement

end ByteField
