import ByteField.Command.Outcome
import ByteField.Proofs.Command.Lines
import ByteField.Proofs.ReducedPowers

namespace ByteField.Command

/-!
# Printed results

From the texts of the operands to the printed numeral: a product, a quotient
or a power is printed as it comes out without tables, under the polynomial
that the options choose, however the operands and the options are written and
wherever the options stand.
-/

/-- Two byte literals fill the slots of a product or a quotient. -/
theorem Fills.ofByteLiterals
    {leftText rightText : String}
    {left right : Element}
    (leftRead : Text.ByteLiteral.parse leftText = .ok left)
    (rightRead : Text.ByteLiteral.parse rightText = .ok right) :
    Fills ([leftText, rightText].map .operand) [.left, .right] {}
      { left := some left, right := some right } :=
  .operand (Shape.of_byteLiteral leftRead)
    (Values.store_eq_ok_iff.mpr ⟨rfl, left, leftRead, rfl⟩)
    (.operand (Shape.of_byteLiteral rightRead)
      (Values.store_eq_ok_iff.mpr ⟨rfl, right, rightRead, rfl⟩)
      (.done _))

/-- A byte literal and a decimal numeral fill the slots of a power. -/
theorem Fills.ofPower
    {baseText : String}
    {base : Element}
    (baseRead : Text.ByteLiteral.parse baseText = .ok base)
    (exponent : UInt32) :
    Fills ([baseText, Text.decimal exponent.toNat].map .operand)
      [.left, .exponent] {}
      { left := some base, exponent := some exponent } :=
  .operand (Shape.of_byteLiteral baseRead)
    (Values.store_eq_ok_iff.mpr ⟨rfl, base, baseRead, rfl⟩)
    (.operand (Shape.of_decimal _)
      (Values.store_eq_ok_iff.mpr
        ⟨rfl, exponent, readExponent_decimal exponent, rfl⟩)
      (.done _))

section Results

variable {polynomial : Element} {field : TabledField}

/-- A task under an accepted polynomial is done in its field. -/
theorem perform_of_generated
    (generated : TabledField.generate polynomial = .ok field)
    (draw : Nat → Sample)
    (task : FieldTask) :
    perform draw ⟨.inField task, polynomial⟩ = performIn field draw task := by
  simp only [perform, generated, Printing.orStop_ok, pure_bind]

/-- Arguments that ask for a task under an accepted polynomial have it done in its field. -/
theorem run_of_request
    (generated : TabledField.generate polynomial = .ok field)
    (draw : Nat → Sample)
    {arguments : List String}
    {task : FieldTask}
    (request :
      Request.ofArguments arguments =
        .ok (.perform ⟨.inField task, polynomial⟩)) :
    run draw arguments = .ofPrinting (performIn field draw task) := by
  rw [run, request]
  exact congrArg Outcome.ofPrinting (perform_of_generated generated draw task)

/-- A quotient by a nonzero divisor is the only solution of its equation. -/
theorem exists_quotient
    (tabulates : field.Tabulates polynomial)
    (dividend : Element)
    {divisor : Element}
    (nonzero : divisor ≠ 0) :
    ∃ quotient,
      field.divide dividend divisor = .ok quotient ∧
        ∀ candidate,
          ShiftAdd.multiply polynomial candidate divisor = dividend ↔
            candidate = quotient := by
  obtain ⟨inverse, found, _⟩ :=
    tabulates.inverts.generates.exists_inverse nonzero
  rw [tabulates.divide_eq]
  exact (ShiftAdd.monoidWithZeroLaws polynomial).exists_quotient found dividend

end Results

/--
Under an accepted polynomial that the options choose, whichever way they are
written and wherever they stand, the program prints a product, a quotient by a
nonzero divisor and a power on one line and ends well.  The numbers are those
computed without tables: the product itself, the only solution of the equation
that a quotient stands for, and the product of as many copies of the base as
the exponent says.
-/
theorem run_prints_results
    {polynomial : Element}
    {field : TabledField}
    (generated : TabledField.generate polynomial = .ok field)
    {leading : Option PolynomialOption}
    {trailing : Option (PolynomialOption × Nat)}
    (chosen : Chooses leading trailing polynomial)
    (draw : Nat → Sample)
    {leftText : String}
    {left : Element}
    (leftRead : Text.ByteLiteral.parse leftText = .ok left) :
    (∀ {rightText : String} {right : Element},
        Text.ByteLiteral.parse rightText = .ok right →
          run draw (commandLine leading "mul" [leftText, rightText] trailing) =
            {
              code := 0
              output :=
                Text.decimal
                    ((ShiftAddField.arithmetic ⟨polynomial⟩).multiply
                      left right).toNat ++
                  "\n"
              errors := ""
            }) ∧
      (∀ {rightText : String} {right : Element},
        Text.ByteLiteral.parse rightText = .ok right →
          right ≠ 0 →
            ∃ quotient,
              (∀ candidate,
                (ShiftAddField.arithmetic ⟨polynomial⟩).multiply
                      candidate right =
                    left ↔
                  candidate = quotient) ∧
                run draw
                    (commandLine leading "div" [leftText, rightText]
                      trailing) =
                  {
                    code := 0
                    output := Text.decimal quotient.toNat ++ "\n"
                    errors := ""
                  }) ∧
      ∀ exponent : UInt32,
        run draw
            (commandLine leading "exp"
              [leftText, Text.decimal exponent.toNat] trailing) =
          {
            code := 0
            output :=
              Text.decimal
                  (Arithmetic.productOfCopies
                    (ShiftAddField.arithmetic ⟨polynomial⟩).multiply
                    left exponent.toNat).toNat ++
                "\n"
            errors := ""
          } := by
  have tabulates := TabledField.tabulates_of_generate generated
  refine ⟨?product, ?quotient, ?power⟩
  case product =>
    intro rightText right rightRead
    have named : Verb.ofName? "mul" = some .multiply :=
      rfl
    have request :=
      Request.ofArguments_commandLine chosen named
        (.ofByteLiterals leftRead rightRead) rfl rfl
    rw [run_of_request generated draw request, performIn,
      tabulates.multiply_eq]
    rfl
  case quotient =>
    intro rightText right rightRead nonzero
    have named : Verb.ofName? "div" = some .divide :=
      rfl
    have request :=
      Request.ofArguments_commandLine chosen named
        (.ofByteLiterals leftRead rightRead) rfl rfl
    obtain ⟨quotient, divided, unique⟩ :=
      exists_quotient tabulates left nonzero
    refine ⟨quotient, unique, ?_⟩
    rw [run_of_request generated draw request, performIn, divided,
      Printing.orStop_ok, pure_bind]
    rfl
  case power =>
    intro exponent
    have named : Verb.ofName? "exp" = some .power :=
      rfl
    have request :=
      Request.ofArguments_commandLine chosen named
        (.ofPower leftRead exponent) rfl rfl
    rw [run_of_request generated draw request, performIn,
      power_eq_productOfCopies tabulates]
    rfl

/--
Behind the option for a polynomial without a field the one for the default
polynomial counts, so nine divided by seven is three, and the eighth power of
two is 29; without any option three times seven is nine.
-/
theorem run_prints_results_standard :
    let draw := Sample.sequence 0
    run draw ["mul", "3", "0x07"] =
        { code := 0, output := "9\n", errors := "" } ∧
      run draw
          ["--polynomial=0", "div", "0X9", "--polynomial", "029", "+7"] =
        { code := 0, output := "3\n", errors := "" } ∧
      run draw ["--polynomial", "0", "exp", "2", "8", "--polynomial=0x1D"] =
        { code := 0, output := "29\n", errors := "" } := by
  intro draw
  have generated := Standard.generate_defaultPolynomial
  have zero : Text.ByteLiteral.parse "0" = .ok 0 :=
    rfl
  have unasked : Chooses none none defaultPolynomial :=
    ⟨by simp, rfl⟩
  have overruled
      {trailing : PolynomialOption}
      (names : trailing.Names defaultPolynomial)
      (joined : Bool)
      (position : Nat) :
      Chooses (some ⟨"0", joined⟩) (some (trailing, position))
        defaultPolynomial := by
    refine ⟨?_, names⟩
    rintro option ⟨⟩
    exact ⟨0, zero⟩
  refine ⟨?product, ?quotient, ?power⟩
  case product =>
    have three : Text.ByteLiteral.parse "3" = .ok 3 :=
      rfl
    have seven : Text.ByteLiteral.parse "0x07" = .ok 7 :=
      rfl
    exact (run_prints_results generated unasked draw three).1 seven
  case quotient =>
    have nine : Text.ByteLiteral.parse "0X9" = .ok 9 :=
      rfl
    have seven : Text.ByteLiteral.parse "+7" = .ok 7 :=
      rfl
    have option : PolynomialOption.Names ⟨"029", false⟩ defaultPolynomial :=
      rfl
    obtain ⟨quotient, unique, printed⟩ :=
      (run_prints_results generated (overruled option true 1) draw nine).2.1
        seven (by decide)
    have isThree : 3 = quotient :=
      (unique 3).mp (by decide)
    rw [← isThree] at printed
    exact printed
  case power =>
    have two : Text.ByteLiteral.parse "2" = .ok 2 :=
      rfl
    have option : PolynomialOption.Names ⟨"0x1D", true⟩ defaultPolynomial :=
      rfl
    exact (run_prints_results generated (overruled option false 2) draw
      two).2.2 8

end ByteField.Command
