import ByteField.Operation
import ByteField.ShiftAdd
import ByteField.TabledField

namespace ByteField

/-!
# Programs on registers

A program is a list of instructions.  Each one computes from the registers
and writes its result into one of them, so results serve as operands of later
instructions.  An instruction that fails leaves every register as it was, and
the program goes on with the next one.
-/

/-- What a program computes with: an arithmetic, and the tables behind it if there are any. -/
structure Engine where
  arithmetic : Arithmetic
  tables : Option TabledField

namespace Engine

/-- Computing by table lookup. -/
def ofTabled
    (field : TabledField) :
    Engine where
  arithmetic := field.arithmetic
  tables := some field

/-- Computing without tables. -/
def ofShiftAdd
    (field : ShiftAddField) :
    Engine where
  arithmetic := field.arithmetic
  tables := none

/-- Computing with what a multiplication determines. -/
def ofMultiplication
    (multiply : Element → Element → Element) :
    Engine where
  arithmetic := .ofMultiplication multiply
  tables := none

end Engine

/-- Why an instruction has no result. -/
inductive InstructionFault where
  | refused (reason : FieldError)
  | noLogarithm
  | noTables
  deriving Repr, DecidableEq

/-- What an instruction computes from its operands. -/
inductive Computation (Operand : Type) where
  | apply (operation : Operation Operand)
  | logarithm (operand : Operand)
  | powerOfTwo (exponent : Operand)
  deriving Repr, DecidableEq

namespace Computation

/-- The same computation on operands looked up elsewhere. -/
def map
    {First Second : Type}
    (lookup : First → Second) :
    Computation First → Computation Second
  | .apply operation => .apply (operation.map lookup)
  | .logarithm operand => .logarithm (lookup operand)
  | .powerOfTwo exponent => .powerOfTwo (lookup exponent)

/-- The result of a computation on elements. -/
def evaluate
    (engine : Engine) :
    Computation Element → Except InstructionFault Element
  | .apply operation =>
      (operation.evaluate engine.arithmetic).mapError .refused
  | .logarithm operand =>
      match engine.tables with
      | none => .error .noTables
      | some field =>
          match field.logarithms.log? operand with
          | none => .error .noLogarithm
          | some log => .ok log
  | .powerOfTwo exponent =>
      match engine.tables with
      | none => .error .noTables
      | some field => .ok (field.powers.power exponent.toNat)

end Computation

/-- A number of registers, each holding an element. -/
abbrev Registers (count : Nat) :=
  Vector Element count

/-- A computation on registers, and the register its result is written to. -/
structure Instruction (count : Nat) where
  target : Fin count
  computation : Computation (Fin count)
  deriving Repr, DecidableEq

/-- What an instruction comes to: its result, and all registers behind it. -/
structure Step (count : Nat) where
  result : Except InstructionFault Element
  registers : Registers count

namespace Instruction

/-- Carry out one instruction. -/
def perform
    {count : Nat}
    (engine : Engine)
    (registers : Registers count)
    (instruction : Instruction count) :
    Step count :=
  let operands := instruction.computation.map registers.get
  match operands.evaluate engine with
  | .ok value => ⟨.ok value, registers.set instruction.target value⟩
  | .error fault => ⟨.error fault, registers⟩

/-- The result of an instruction is that of its computation on the registers. -/
theorem result_perform
    {count : Nat}
    (engine : Engine)
    (registers : Registers count)
    (instruction : Instruction count) :
    (instruction.perform engine registers).result =
      (instruction.computation.map registers.get).evaluate engine := by
  unfold perform
  dsimp only
  cases (instruction.computation.map registers.get).evaluate engine <;> rfl

/-- Behind an instruction its target holds its result, and any other register what it held before. -/
theorem get_perform
    {count : Nat}
    (engine : Engine)
    (registers : Registers count)
    (instruction : Instruction count)
    (register : Fin count) :
    (instruction.perform engine registers).registers.get register =
      match (instruction.perform engine registers).result with
      | .ok value =>
          if instruction.target = register then
            value
          else
            registers.get register
      | .error _ => registers.get register := by
  rw [result_perform]
  unfold perform
  dsimp only
  cases (instruction.computation.map registers.get).evaluate engine with
  | error fault =>
      rfl
  | ok value =>
      simp only [Fin.ext_iff]
      exact Vector.getElem_set instruction.target.isLt register.isLt

end Instruction

namespace Program

/-- Carry out the instructions of a program one after the other. -/
def run
    {count : Nat}
    (engine : Engine) :
    Registers count → List (Instruction count) → List (Step count)
  | _, [] => []
  | registers, instruction :: rest =>
      let step := instruction.perform engine registers
      step :: run engine step.registers rest

end Program

end ByteField
