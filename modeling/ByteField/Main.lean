import ByteField.Command.Outcome

/-!
# The program

The arguments decide everything but the samples of a comparison, whose seed is
drawn at random.
-/

/-- Run the program on its arguments and report through the exit code. -/
def main
    (arguments : List String) :
    IO UInt32 := do
  let seed ← IO.rand 0 0xFFFFFFFFFFFFFFFF
  let outcome :=
    ByteField.Command.run (ByteField.Sample.sequence (UInt64.ofNat seed)) arguments
  IO.print outcome.output
  IO.eprint outcome.errors
  return outcome.code.toUInt32
