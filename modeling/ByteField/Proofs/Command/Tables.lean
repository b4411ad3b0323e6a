import ByteField.Proofs.Command.Endings
import ByteField.Proofs.Logarithms
import ByteField.Proofs.Rows

namespace ByteField.Command

/-!
# Printed tables

Both tables of an accepted polynomial are printed whole, and each cell holds
the number that doubling comes to.  The names of the tables and the cells are
the words of the text, so the text tells which polynomial it belongs to: this
is the eighth power of two.
-/

/-! ## Cells -/

/-- A numeral has no white space in it. -/
theorem isWord_decimal
    (number : Nat) :
    Text.IsWord Char.isWhitespace (Text.decimal number) := by
  constructor
  · intro empty
    have noDigits := congrArg String.toList empty
    rw [Text.decimal, String.toList_ofList] at noDigits
    exact Nat.toDigits_ne_nil noDigits
  · intro character member
    rw [Text.decimal, String.toList_ofList] at member
    have isDigit : character.isDigit = true :=
      Nat.isDigit_of_mem_toDigits (by decide) (by decide) member
    rw [Bool.eq_false_iff]
    intro isWhite
    simp only [Char.isWhitespace, Bool.or_eq_true, decide_eq_true_eq,
      or_assoc] at isWhite
    rcases isWhite with rfl | rfl | rfl | rfl <;>
      revert isDigit <;>
        decide

theorem isWord_logarithmCell
    (log : Option UInt8) :
    Text.IsWord Char.isWhitespace (logarithmCell log) := by
  cases log with
  | none =>
      decide
  | some log =>
      exact isWord_decimal log.toNat

/--
Cells with the tables of a polynomial: for each element the exponent below 255
with which it is a power of two, zero having none, and for each exponent below
510 the power of two.
-/
structure AreTables
    (polynomial : Element)
    (logs powers : List String) :
    Prop where
  length_logs :
    logs.length = 256
  log_zero :
    logs[0]? = some "-"
  log_powerOfTwo :
    ∀ exponent < 255,
      logs[(powerOfTwo polynomial exponent).toNat]? =
        some (Text.decimal exponent)
  length_powers :
    powers.length = 510
  power_eq :
    ∀ exponent < 510,
      powers[exponent]? =
        some (Text.decimal (powerOfTwo polynomial exponent).toNat)

/-- The cell of an element is that of its logarithm. -/
theorem getElem?_logarithms
    (table : LogarithmTable)
    (element : Element) :
    (table.logarithms.map logarithmCell)[element.toNat]? =
      some (logarithmCell (table.log? element)) := by
  have listed : allElements[element.toNat]? = some element := by
    have inside := element.toNat_lt
    simp [allElements, fieldSize, inside]
  rw [LogarithmTable.logarithms, List.getElem?_map, List.getElem?_map,
    listed]
  rfl

/-- The cell of an exponent is that of its power. -/
theorem getElem?_powers
    (table : PowerTable)
    {exponent : Nat}
    (inside : exponent < powerTableSize) :
    (table.powers.map fun power => Text.decimal power.toNat)[exponent]? =
      some (Text.decimal (table.power exponent).toNat) := by
  simp [PowerTable.powers, PowerTable.power, Vector.getD, Array.getD, inside]

/-- The printed cells of a field are the tables of its polynomial. -/
theorem areTables
    {field : TabledField}
    {polynomial : Element}
    (tabulates : field.Tabulates polynomial) :
    AreTables polynomial
      (field.logarithms.logarithms.map logarithmCell)
      (field.powers.powers.map fun power => Text.decimal power.toNat) where
  length_logs := by
    simp [LogarithmTable.logarithms, allElements, fieldSize]
  log_zero := by
    exact getElem?_logarithms field.logarithms 0
  log_powerOfTwo := by
    intro exponent below
    have logarithm :=
      (tabulates.inverts.log?_eq_some_iff _ exponent).mpr rfl
    have remainder : exponent % multiplicativeOrder = exponent :=
      Nat.mod_eq_of_lt below
    rw [getElem?_logarithms, logarithm, logarithmCell, remainder,
      toNat_ofNat_of_lt_order below]
  length_powers := by
    rw [List.length_map]
    exact field.powers.slots.length_toList
  power_eq := by
    intro exponent below
    rw [getElem?_powers _ below, tabulates.power_eq below]

/-! ## The printed text -/

/-- Under the names of the tables stand their cells, as the words of the text. -/
theorem words_tables
    {logs powers : List String}
    (logsAreWords : ∀ cell ∈ logs, Text.IsWord Char.isWhitespace cell)
    (powersAreWords : ∀ cell ∈ powers, Text.IsWord Char.isWhitespace cell) :
    Text.words Char.isWhitespace
        ("log:\n" ++ (Text.rows logs ++ ("exp:\n" ++ Text.rows powers))).toList =
      "log:" :: logs ++ "exp:" :: powers := by
  have logName :
      Text.words Char.isWhitespace "log:".toList = ["log:"] :=
    Text.IsWord.words_toList (by decide)
  have powerName :
      Text.words Char.isWhitespace "exp:".toList = ["exp:"] :=
    Text.IsWord.words_toList (by decide)
  have text :
      ("log:\n" ++
          (Text.rows logs ++ ("exp:\n" ++ Text.rows powers))).toList =
        "log:".toList ++
          '\n' ::
            ((Text.rows logs).toList ++
              ("exp:".toList ++ '\n' :: (Text.rows powers).toList)) := by
    simp
  rw [text, Text.words_append_cons (by decide), logName,
    Text.words_rows_append (by decide) (by decide) logsAreWords,
    Text.words_append_cons (by decide), powerName,
    Text.words_rows (by decide) (by decide) powersAreWords]
  rfl

/-- Cells are the tables of one polynomial only. -/
theorem AreTables.unique
    {first second : Element}
    {logs otherLogs powers : List String}
    (ofFirst : AreTables first logs powers)
    (ofSecond : AreTables second otherLogs powers) :
    first = second := by
  have firstCell := ofFirst.power_eq 8 (by decide)
  rw [ofSecond.power_eq 8 (by decide), powerOfTwo_eight, powerOfTwo_eight,
    Option.some.injEq] at firstCell
  exact (UInt8.toNat_inj.mp (Text.decimal_injective firstCell)).symm

/--
Under an accepted polynomial that the options choose, whichever way they are
written and wherever they stand, the program prints the tables of the
polynomial and ends well.  The text consists of the names and the cells, in
rows of eight, and its words are these names and cells.
-/
theorem run_prints_tables
    {polynomial : Element}
    {field : TabledField}
    (generated : TabledField.generate polynomial = .ok field)
    {leading : Option PolynomialOption}
    {trailing : Option (PolynomialOption × Nat)}
    (chosen : Chooses leading trailing polynomial)
    (draw : Nat → Sample) :
    ∃ logs powers output,
      AreTables polynomial logs powers ∧
        output =
          "log:\n" ++ (Text.rows logs ++ ("exp:\n" ++ Text.rows powers)) ∧
        Text.words Char.isWhitespace output.toList =
          "log:" :: logs ++ "exp:" :: powers ∧
        run draw (commandLine leading "tables" [] trailing) =
          { code := 0, output := output, errors := "" } := by
  have named : Verb.ofName? "tables" = some .tables :=
    rfl
  have noOperands :
      Fills (([] : List String).map .operand) Verb.tables.operands {} {} :=
    .done {}
  have request :=
    Request.ofArguments_commandLine chosen named noOperands rfl rfl
  have areWords :
      ∀ cell ∈ field.logarithms.logarithms.map logarithmCell,
        Text.IsWord Char.isWhitespace cell := by
    intro cell listed
    obtain ⟨log, _, rfl⟩ := List.mem_map.mp listed
    exact isWord_logarithmCell log
  have powersAreWords :
      ∀ cell ∈ field.powers.powers.map fun power => Text.decimal power.toNat,
        Text.IsWord Char.isWhitespace cell := by
    intro cell listed
    obtain ⟨power, _, rfl⟩ := List.mem_map.mp listed
    exact isWord_decimal power.toNat
  refine ⟨_, _, _, areTables (TabledField.tabulates_of_generate generated),
    rfl, words_tables areWords powersAreWords, ?_⟩
  rw [run_of_request generated draw request, performIn, printTables_eq]
  rfl

/-- Runs that print the same tables are under the same polynomial. -/
theorem polynomial_eq_of_tables_eq
    {first second : Element}
    {firstField secondField : TabledField}
    (firstGenerated : TabledField.generate first = .ok firstField)
    (secondGenerated : TabledField.generate second = .ok secondField)
    {firstLeading secondLeading : Option PolynomialOption}
    {firstTrailing secondTrailing : Option (PolynomialOption × Nat)}
    (firstChosen : Chooses firstLeading firstTrailing first)
    (secondChosen : Chooses secondLeading secondTrailing second)
    (firstDraw secondDraw : Nat → Sample)
    (same :
      (run firstDraw
          (commandLine firstLeading "tables" [] firstTrailing)).output =
        (run secondDraw
          (commandLine secondLeading "tables" [] secondTrailing)).output) :
    first = second := by
  obtain ⟨firstLogs, firstPowers, firstOutput, areFirst, _, firstWords, firstRun⟩ :=
    run_prints_tables firstGenerated firstChosen firstDraw
  obtain ⟨secondLogs, secondPowers, secondOutput, areSecond, _, secondWords,
      secondRun⟩ :=
    run_prints_tables secondGenerated secondChosen secondDraw
  rw [firstRun, secondRun] at same
  have sameOutput : firstOutput = secondOutput :=
    same
  rw [sameOutput, secondWords] at firstWords
  have sameLength :
      ("log:" :: secondLogs).length = ("log:" :: firstLogs).length := by
    rw [List.length_cons, List.length_cons, areFirst.length_logs,
      areSecond.length_logs]
  have samePowers : secondPowers = firstPowers :=
    List.tail_eq_of_cons_eq (List.append_inj_right firstWords sameLength)
  rw [samePowers] at areSecond
  exact areFirst.unique areSecond

end ByteField.Command
