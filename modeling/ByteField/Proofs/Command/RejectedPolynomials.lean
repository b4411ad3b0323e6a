import ByteField.Proofs.Command.Endings
import ByteField.Proofs.Logarithms

namespace ByteField.Command

/-!
# The polynomial is judged first

Every task but one begins with the tables of the polynomial.  So under a
polynomial without tables two runs cannot be told apart by anything else that
they are asked for, a quotient by zero included.  The list of polynomials needs
no tables, and it is the same under every polynomial.
-/

/-- The whole complaint about a polynomial under which a power of two repeats. -/
theorem error_unusablePolynomial
    (polynomial element log : Element) :
    "Error: " ++
          unusablePolynomial polynomial
            (.duplicateLogarithm polynomial element log) ++
        "\n" =
      "Error: polynomial " ++ Text.decimal polynomial.toNat ++
        " does not generate GF(2^8)\n\n" ++
        "Caused by:\n    duplicate logarithm " ++ Text.decimal log.toNat ++
        " for element " ++ Text.decimal element.toNat ++
        " (bad polynomial " ++ Text.decimal polynomial.toNat ++ "?)\n" := by
  unfold unusablePolynomial FieldError.message
  dsimp only
  -- The numerals are the same on both sides; what is left is how the text between them is cut.
  generalize Text.decimal polynomial.toNat = polynomialText
  generalize Text.decimal element.toNat = elementText
  generalize Text.decimal log.toNat = logText
  apply String.toList_inj.mp
  simp

/-- A run for a task under a polynomial without logarithms only gives the reason. -/
theorem run_of_rejected
    {polynomial : Element}
    {cause : FieldError}
    (rejected : LogarithmTable.generate polynomial = .error cause)
    (draw : Nat → Sample)
    {arguments : List String}
    {task : Task}
    (needsField : task ≠ .polynomials)
    (request :
      Request.ofArguments arguments = .ok (.perform ⟨task, polynomial⟩)) :
    run draw arguments =
      .ofPrinting (.stop (unusablePolynomial polynomial cause)) := by
  cases task with
  | polynomials =>
      exact (needsField rfl).elim
  | inField task =>
      rw [run, request]
      exact congrArg Outcome.ofPrinting (perform_of_rejected rejected draw task)

/-- A run for the list of polynomials prints it, whatever polynomial it is given. -/
theorem run_of_polynomials
    (draw : Nat → Sample)
    {arguments : List String}
    {polynomial : Element}
    (request :
      Request.ofArguments arguments =
        .ok (.perform ⟨.polynomials, polynomial⟩)) :
    run draw arguments = .ofPrinting (.printLine polynomialList) := by
  rw [run, request]
  rfl

/--
Two runs that are asked for tasks under one polynomial without logarithms end
alike, whatever the tasks, the ways of writing them and the samples are: with
the reason, which names the polynomial, the first power of two that repeats and
its number.  Two runs that are asked for the list of polynomials print the same
list, whatever polynomials they are given.
-/
theorem rejected_polynomial_decides_run
    (firstDraw secondDraw : Nat → Sample)
    {first second : List String}
    {firstTask secondTask : Task}
    {firstPolynomial secondPolynomial : Element}
    (firstAsked :
      Request.ofArguments first =
        .ok (.perform ⟨firstTask, firstPolynomial⟩))
    (secondAsked :
      Request.ofArguments second =
        .ok (.perform ⟨secondTask, secondPolynomial⟩)) :
    (∀ {cause : FieldError},
        firstTask ≠ .polynomials →
          secondTask ≠ .polynomials →
            firstPolynomial = secondPolynomial →
              LogarithmTable.generate firstPolynomial = .error cause →
                run firstDraw first = run secondDraw second ∧
                  ∃ element log,
                    cause = .duplicateLogarithm firstPolynomial element log ∧
                      run firstDraw first =
                        {
                          code := 1
                          output := ""
                          errors :=
                            "Error: polynomial " ++
                              Text.decimal firstPolynomial.toNat ++
                              " does not generate GF(2^8)\n\n" ++
                              "Caused by:\n    duplicate logarithm " ++
                              Text.decimal log.toNat ++ " for element " ++
                              Text.decimal element.toNat ++
                              " (bad polynomial " ++
                              Text.decimal firstPolynomial.toNat ++ "?)\n"
                        }) ∧
      (firstTask = .polynomials →
        secondTask = .polynomials →
          run firstDraw first = run secondDraw second ∧
            run firstDraw first =
              {
                code := 0
                output :=
                  ", ".intercalate
                      (Generators.accepted.map fun polynomial =>
                        Text.decimal polynomial.toNat) ++
                    "\n"
                errors := ""
              }) := by
  refine ⟨?rejected, ?lists⟩
  case rejected =>
    intro cause firstNeeds secondNeeds same rejected
    rw [← same] at secondAsked
    have firstRun :=
      run_of_rejected rejected firstDraw firstNeeds firstAsked
    have secondRun :=
      run_of_rejected rejected secondDraw secondNeeds secondAsked
    obtain ⟨element, log, named⟩ :
        ∃ element log,
          cause = .duplicateLogarithm firstPolynomial element log := by
      obtain ⟨number, _, _, _, named⟩ :=
        LogarithmTable.firstRepeated_of_generate rejected
      exact ⟨_, _, named⟩
    refine ⟨firstRun.trans secondRun.symm, element, log, named, ?_⟩
    rw [firstRun, named, ← error_unusablePolynomial]
    rfl
  case lists =>
    intro firstLists secondLists
    rw [firstLists] at firstAsked
    rw [secondLists] at secondAsked
    have firstRun := run_of_polynomials firstDraw firstAsked
    have secondRun := run_of_polynomials secondDraw secondAsked
    refine ⟨firstRun.trans secondRun.symm, ?_⟩
    rw [firstRun]
    rfl

/--
Under the polynomial 27 the power of two number 51 is one again, so a quotient
by zero and a comparison end alike, with this reason; and sixteen polynomials
are listed under the polynomial 0 as under the default one.
-/
theorem rejected_polynomial_decides_run_standard :
    let firstDraw := Sample.sequence 0
    let secondDraw := Sample.sequence 1
    (LogarithmTable.generate 27 = .error (.duplicateLogarithm 27 1 51) ∧
        run firstDraw ["--polynomial", "27", "div", "1", "0"] =
          run secondDraw ["check", "--samples=5", "--polynomial=0x1b"] ∧
        run firstDraw ["--polynomial", "27", "div", "1", "0"] =
          {
            code := 1
            output := ""
            errors :=
              "Error: polynomial 27 does not generate GF(2^8)\n\nCaused by:\n    duplicate logarithm 51 for element 1 (bad polynomial 27?)\n"
          }) ∧
      run firstDraw ["polynomials", "--polynomial=0"] =
          run secondDraw ["polynomials"] ∧
        run firstDraw ["polynomials", "--polynomial=0"] =
          {
            code := 0
            output :=
              "29, 43, 45, 77, 95, 99, 101, 105, 113, 135, 141, 169, 195, 207, 231, 245\n"
            errors := ""
          } := by
  intro firstDraw secondDraw
  constructor
  · have rejected :
        LogarithmTable.generate 27 =
          .error (.duplicateLogarithm 27 1 51) := by
      decide +kernel
    have divides :
        Request.ofArguments ["--polynomial", "27", "div", "1", "0"] =
          .ok (.perform ⟨.inField (.divide 1 0), 27⟩) :=
      rfl
    have compares :
        Request.ofArguments ["check", "--samples=5", "--polynomial=0x1b"] =
          .ok (.perform ⟨.inField (.check 5), 27⟩) :=
      rfl
    obtain ⟨alike, element, log, named, printed⟩ :=
      (rejected_polynomial_decides_run firstDraw secondDraw divides
        compares).1 (by simp) (by simp) rfl rejected
    cases named
    refine ⟨rejected, alike, ?_⟩
    rw [printed, Outcome.mk.injEq]
    exact ⟨rfl, rfl, by decide +kernel⟩
  · have underZero :
        Request.ofArguments ["polynomials", "--polynomial=0"] =
          .ok (.perform ⟨.polynomials, 0⟩) :=
      rfl
    have underDefault :
        Request.ofArguments ["polynomials"] =
          .ok (.perform ⟨.polynomials, defaultPolynomial⟩) :=
      rfl
    obtain ⟨alike, printed⟩ :=
      (rejected_polynomial_decides_run firstDraw secondDraw underZero
        underDefault).2 rfl rfl
    refine ⟨alike, ?_⟩
    rw [printed, accepted_eq, Outcome.mk.injEq]
    exact ⟨rfl, by decide +kernel, rfl⟩

end ByteField.Command
