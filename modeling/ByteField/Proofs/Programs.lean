import ByteField.Agreement
import ByteField.Program
import ByteField.Proofs.Lookup
import ByteField.Standard

namespace ByteField

/-!
# Programs cannot tell lookup from computation

What an operation does is decided by the arithmetic alone.  So two engines
with equal arithmetics take every program of operations through the same
results and the same registers, and a comparison of the two on samples finds
nothing.
-/

/-- Write the result of an operation on registers into one of them. -/
def Instruction.ofOperation
    {count : Nat}
    (step : Fin count × Operation (Fin count)) :
    Instruction count where
  target := step.1
  computation := .apply step.2

/-- An operation on registers does the same under equal arithmetics. -/
theorem Instruction.perform_congr
    {count : Nat}
    {first second : Engine}
    (same : first.arithmetic = second.arithmetic)
    (registers : Registers count)
    (step : Fin count × Operation (Fin count)) :
    (Instruction.ofOperation step).perform first registers =
      (Instruction.ofOperation step).perform second registers := by
  have sameResult
      (operands : Operation Element) :
      Computation.evaluate first (.apply operands) =
        Computation.evaluate second (.apply operands) := by
    simp only [Computation.evaluate, same]
  simp only [perform, ofOperation, Computation.map, sameResult]

/-- A program of operations takes the same course under equal arithmetics. -/
theorem Program.run_congr
    {count : Nat}
    {first second : Engine}
    (same : first.arithmetic = second.arithmetic)
    (registers : Registers count)
    (program : List (Fin count × Operation (Fin count))) :
    Program.run first registers (program.map Instruction.ofOperation) =
      Program.run second registers (program.map Instruction.ofOperation) := by
  induction program generalizing registers with
  | nil =>
      rfl
  | cons step rest inductionHypothesis =>
      simp only [List.map_cons, Program.run]
      rw [Instruction.perform_congr same, inductionHypothesis]

/-- A register that no instruction writes to keeps its element all along a program. -/
theorem Program.get_of_not_target
    {count : Nat}
    {engine : Engine}
    {registers : Registers count}
    {program : List (Instruction count)}
    {register : Fin count}
    (notWritten :
      ∀ instruction ∈ program, instruction.target ≠ register)
    {step : Step count}
    (reached : step ∈ Program.run engine registers program) :
    step.registers.get register = registers.get register := by
  induction program generalizing registers with
  | nil =>
      cases reached
  | cons instruction rest inductionHypothesis =>
      obtain ⟨notHere, notLater⟩ := List.forall_mem_cons.mp notWritten
      have kept :
          (instruction.perform engine registers).registers.get register =
            registers.get register := by
        rw [Instruction.get_perform]
        split
        case h_1 =>
          exact if_neg notHere
        case h_2 =>
          rfl
      rcases List.mem_cons.mp reached with isFirst | isLater
      · rw [isFirst]
        exact kept
      · rw [inductionHypothesis notLater isLater]
        exact kept

namespace Agreement

/-- An arithmetic does not differ from itself on any sample. -/
theorem differsOn_self
    (arithmetic : Arithmetic)
    (sample : Sample) :
    differsOn arithmetic arithmetic sample = false := by
  simp [differsOn]

/-- However many samples are drawn, an arithmetic differs from itself on none. -/
theorem differences_self
    (arithmetic : Arithmetic)
    (draw : Nat → Sample)
    (count : Nat) :
    differences arithmetic arithmetic draw count = 0 := by
  induction count with
  | zero =>
      rfl
  | succ count inductionHypothesis =>
      unfold differences at inductionHypothesis ⊢
      rw [Nat.fold_succ, inductionHypothesis, differsOn_self]
      rfl

/-- A field whose tables belong to its polynomial passes every comparison. -/
theorem check_eq_agree
    {field : TabledField}
    (tabulates : field.Tabulates field.polynomial)
    (draw : Nat → Sample)
    (count : Nat) :
    check field draw count = .agree count := by
  have none :
      differences field.arithmetic
        (ShiftAddField.arithmetic ⟨field.polynomial⟩) draw count = 0 := by
    rw [tabulates.arithmetic_eq]
    exact differences_self _ draw count
  simp [check, none]

end Agreement

/--
The field that an accepted polynomial generates and the residue ring computed
without tables cannot be told apart: all operations agree, with the same
refusals; every program of operations has the same result and leaves the same
registers at each step; and a comparison finds no difference on any samples.
-/
theorem lookup_indistinguishable
    {polynomial : Element}
    {field : TabledField}
    (generated : TabledField.generate polynomial = .ok field) :
    field.arithmetic = ShiftAddField.arithmetic ⟨polynomial⟩ ∧
      (∀ {count : Nat} (registers : Registers count)
          (program : List (Fin count × Operation (Fin count))),
        Program.run (.ofTabled field) registers
            (program.map Instruction.ofOperation) =
          Program.run (.ofShiftAdd ⟨polynomial⟩) registers
            (program.map Instruction.ofOperation)) ∧
      (∀ (draw : Nat → Sample) (samples : Nat),
        Agreement.check field draw samples = .agree samples) := by
  have tabulates := TabledField.tabulates_of_generate generated
  have same : field.arithmetic = ShiftAddField.arithmetic ⟨polynomial⟩ :=
    tabulates.arithmetic_eq
  refine ⟨same, ?_, ?_⟩
  · intro count registers program
    exact Program.run_congr same registers program
  · intro draw samples
    have own : field.Tabulates field.polynomial := by
      rw [tabulates.polynomial_eq]
      exact tabulates
    exact Agreement.check_eq_agree own draw samples

/--
The standard field divides nine by seven, and passes a comparison on many
samples.  In a program, the quotient and a difference are operands of what
follows them, and a division by a zero that was computed leaves all registers.
-/
theorem lookup_indistinguishable_standard :
    TabledField.generate defaultPolynomial = .ok Standard.field ∧
      Standard.field.arithmetic.divide 9 7 = .ok 3 ∧
      Agreement.check Standard.field (Sample.sequence 0) 100000 =
        .agree 100000 ∧
      let program : List (Fin 3 × Operation (Fin 3)) :=
        [(2, .divide 0 1), (1, .subtract 1 1), (0, .divide 2 1),
          (0, .multiply 2 2)]
      (Program.run (.ofTabled Standard.field) #v[9, 7, 0]
            (program.map Instruction.ofOperation)).map
          (fun step => (step.result.toOption, step.registers)) =
        [(some 3, #v[9, 7, 3]), (some 0, #v[9, 0, 3]), (none, #v[9, 0, 3]),
          (some 5, #v[5, 0, 3])] := by
  have generated := Standard.generate_defaultPolynomial
  refine ⟨generated, ?quotient, ?samples, ?program⟩
  case quotient =>
    rw [(lookup_indistinguishable generated).1]
    decide
  case samples =>
    exact (lookup_indistinguishable generated).2.2 (Sample.sequence 0) 100000
  case program =>
    intro program
    rw [(lookup_indistinguishable generated).2.1]
    decide +kernel

end ByteField
