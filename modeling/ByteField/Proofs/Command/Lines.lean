import ByteField.Command.Reading
import ByteField.Proofs.Decimals

namespace ByteField.Command

/-!
# Command lines that are understood

Operands fill their slots from left to right, and the option for the
polynomial may stand before the command or anywhere behind it, in either way
of writing.  Values are judged late, so what is followed through the reading
is not its values but those it has once the pending slot is judged.
-/

/-- The option for the polynomial, its text joined to it or standing behind it. -/
structure PolynomialOption where
  text : String
  joined : Bool
  deriving Repr, DecidableEq

namespace PolynomialOption

/-- The arguments that the option is written with. -/
def arguments
    (option : PolynomialOption) :
    List String :=
  if option.joined then
    ["--polynomial=" ++ option.text]
  else
    ["--polynomial", option.text]

/-- The text of the option is a literal of the polynomial. -/
def Names
    (option : PolynomialOption)
    (polynomial : Element) :
    Prop :=
  Text.ByteLiteral.parse option.text = .ok polynomial

/-- The polynomial that the text of the option is a literal of, if there is one. -/
def value?
    (option : PolynomialOption) :
    Option Element :=
  (Text.ByteLiteral.parse option.text).toOption

theorem Names.value?_eq
    {option : PolynomialOption}
    {polynomial : Element}
    (names : option.Names polynomial) :
    option.value? = some polynomial := by
  unfold Names at names
  rw [value?, names]
  rfl

end PolynomialOption

/-- What stands behind a command. -/
inductive Item where
  | operand (text : String)
  | polynomial (option : PolynomialOption)
  deriving Repr, DecidableEq

/-- The arguments that an item is written with. -/
def Item.arguments : Item → List String
  | .operand text => [text]
  | .polynomial option => option.arguments

/-- Operands with an option in front of the one at a position, or behind all of them. -/
def itemsOf
    (operands : List String) :
    Option (PolynomialOption × Nat) → List Item
  | none => operands.map .operand
  | some (option, position) =>
      (operands.take position).map .operand ++
        .polynomial option :: (operands.drop position).map .operand

/-- The arguments of a command with its operands, and with options before and behind it. -/
def commandLine
    (leading : Option PolynomialOption)
    (name : String)
    (operands : List String)
    (trailing : Option (PolynomialOption × Nat)) :
    List String :=
  (leading.map PolynomialOption.arguments).getD [] ++
    name :: (itemsOf operands trailing).flatMap Item.arguments

/--
A polynomial is the one that the options choose: that of the option behind the
command, else that of the option before it, else the default.  An option that
is not the one to count has to name some polynomial nevertheless.
-/
def Chooses
    (leading : Option PolynomialOption)
    (trailing : Option (PolynomialOption × Nat))
    (polynomial : Element) :
    Prop :=
  (∀ option ∈ leading, ∃ other, option.Names other) ∧
    match trailing, leading with
    | some (option, _), _ => option.Names polynomial
    | none, some option => option.Names polynomial
    | none, none => polynomial = defaultPolynomial

/-! ## The shapes of texts -/

/-- A text that does not begin with a dash is a plain argument. -/
theorem Shape.of_eq_plain
    {text : String}
    (noDash : text.toList.head? ≠ some '-') :
    Shape.of text = .plain := by
  unfold Shape.of
  split <;> simp_all

/-- A byte literal does not begin with a dash. -/
theorem Shape.of_byteLiteral
    {text : String}
    {value : UInt8}
    (parsed : Text.ByteLiteral.parse text = .ok value) :
    Shape.of text = .plain := by
  apply Shape.of_eq_plain
  intro dash
  obtain ⟨rest, characters⟩ : ∃ rest, text.toList = '-' :: rest := by
    cases shape : text.toList with
    | nil =>
        simp [shape] at dash
    | cons first rest =>
        simp only [shape, List.head?_cons, Option.some.injEq] at dash
        exact ⟨rest, by rw [dash]⟩
  -- The dash is no mark of a radix, no sign and no digit.
  have refused : Text.ByteLiteral.read text = .error .invalidDigit := by
    rw [Text.ByteLiteral.read, characters]
    rfl
  rw [Text.ByteLiteral.parse, refused] at parsed
  cases parsed

theorem Shape.of_decimal
    (number : Nat) :
    Shape.of (Text.decimal number) = .plain := by
  apply Shape.of_eq_plain
  obtain ⟨first, rest, digits, isDigit⟩ :=
    Text.Numeral.exists_toDigits_eq_cons number
  rw [Text.decimal, String.toList_ofList, digits, List.head?_cons]
  rintro ⟨rfl⟩
  revert isDigit
  decide

theorem Shape.of_joined
    (text : String) :
    Shape.of ("--polynomial=" ++ text) =
      .long "polynomial" (some text) := by
  simp [Shape.of, Shape.splitValue]

/-- The name of a command does not begin with a dash. -/
theorem Verb.ofName?_eq_none
    {word : String}
    (dash : word.toList.head? = some '-') :
    Verb.ofName? word = none := by
  unfold Verb.ofName?
  split <;> simp_all

/-! ## Readings that can be settled -/

namespace Reading

/-- What a reading comes to once its pending slot is judged, while dashes have their meaning. -/
def ReadyAt
    (reading : Reading)
    (verb : Option Verb)
    (operands : List Slot)
    (values : Values) :
    Prop :=
  reading.settle = .ok ⟨verb, operands, values, none, false⟩

/-- Judging the pending slot changes nothing else. -/
theorem settle_eq_ok
    {reading settled : Reading}
    (judged : reading.settle = .ok settled) :
    settled.verb = reading.verb ∧
      settled.operands = reading.operands ∧
      settled.plainOnly = reading.plainOnly ∧
      reading.awaitsValue = false := by
  unfold settle at judged
  unfold awaitsValue
  split at judged
  case h_1 none =>
    cases judged
    simp [none]
  case h_2 =>
    cases judged
  case h_3 slot text open_ =>
    cases accepted : reading.values.accept text slot with
    | error refusal =>
        rw [accepted] at judged
        cases judged
    | ok values =>
        rw [accepted] at judged
        cases judged
        simp [open_]

/-- Arguments that, taken one after the other, lead from one reading to another. -/
inductive Leads : Reading → List String → Reading → Prop where
  | refl
      (reading : Reading) :
      Leads reading [] reading
  | step
      {reading next last : Reading}
      {argument : String}
      {rest : List String}
      (taken : reading.take argument = .ok (.further next))
      (further : Leads next rest last) :
      Leads reading (argument :: rest) last

namespace ReadyAt

variable
  {reading : Reading} {verb : Option Verb} {operands : List Slot}
  {values next : Values} {slot : Slot} {text : String}

theorem plainOnly_eq
    (ready : reading.ReadyAt verb operands values) :
    reading.plainOnly = false :=
  (settle_eq_ok ready).2.2.1.symm

theorem awaitsValue_eq
    (ready : reading.ReadyAt verb operands values) :
    reading.awaitsValue = false :=
  (settle_eq_ok ready).2.2.2

/-- A slot that has just got its text is judged by whether the text is accepted. -/
theorem of_pending
    (accepted : values.accept text slot = .ok next) :
    (Reading.mk verb operands values (some ⟨slot, some text⟩) false).ReadyAt
      verb operands next := by
  unfold ReadyAt settle
  simp only [accepted]

/-- A plain argument is given to the next operand. -/
theorem takePlain_operand
    (ready : reading.ReadyAt verb (slot :: operands) values) :
    reading.takePlain text =
      .ok ⟨verb, operands, values, some ⟨slot, some text⟩, false⟩ := by
  have slots : reading.operands = slot :: operands :=
    (settle_eq_ok ready).2.1.symm
  have noneAwaits := ready.awaitsValue_eq
  unfold ReadyAt at ready
  unfold takePlain
  split
  case h_1 awaiting =>
    simp [awaitsValue, awaiting] at noneAwaits
  case h_2 =>
    simp only [slots, ready]

theorem leads_operand
    (ready : reading.ReadyAt verb (slot :: operands) values)
    (plain : Shape.of text = .plain)
    (accepted : values.accept text slot = .ok next) :
    ∃ last,
      Leads reading [text] last ∧ last.ReadyAt verb operands next := by
  refine ⟨_, .step ?_ (.refl _), of_pending accepted⟩
  unfold take
  rw [ready.plainOnly_eq, plain, ready.takePlain_operand]
  rfl

/-- The name of the option is known before and behind every command. -/
theorem option?_polynomial
    (reading : Reading) :
    reading.option? "polynomial" = some .polynomial := by
  unfold option?
  split
  case h_1 verb _ =>
    cases verb <;> rfl
  case h_2 =>
    rfl

theorem take_joined
    (ready : reading.ReadyAt verb operands values)
    (accepted : values.accept text .polynomial = .ok next) :
    reading.take ("--polynomial=" ++ text) =
      .ok (.further ⟨verb, operands, next, none, false⟩) := by
  have judged :
      reading.takeOption .polynomial (some text) =
        .ok ⟨verb, operands, next, none, false⟩ := by
    unfold ReadyAt at ready
    rw [takeOption, ready]
    exact of_pending accepted
  unfold take
  rw [ready.plainOnly_eq, Shape.of_joined]
  simp only [option?_polynomial, judged]
  rfl

theorem take_separate
    (ready : reading.ReadyAt verb operands values) :
    reading.take "--polynomial" =
      .ok (.further
        ⟨verb, operands, values, some ⟨.polynomial, none⟩, false⟩) := by
  have opened :
      reading.takeOption .polynomial none =
        .ok ⟨verb, operands, values, some ⟨.polynomial, none⟩, false⟩ := by
    unfold ReadyAt at ready
    rw [takeOption, ready]
  have shape : Shape.of "--polynomial" = .long "polynomial" none := by
    rfl
  unfold take
  rw [ready.plainOnly_eq, shape]
  simp only [option?_polynomial, opened]
  rfl

/-- An option that awaits its value takes the next plain argument. -/
theorem take_awaited
    (plain : Shape.of text = .plain) :
    (Reading.mk verb operands values (some ⟨slot, none⟩) false).take text =
      .ok (.further
        ⟨verb, operands, values, some ⟨slot, some text⟩, false⟩) := by
  unfold take
  rw [plain]
  rfl

theorem leads_option
    (ready : reading.ReadyAt verb operands values)
    {option : PolynomialOption}
    (plain : Shape.of option.text = .plain)
    (accepted : values.accept option.text .polynomial = .ok next) :
    ∃ last,
      Leads reading option.arguments last ∧
        last.ReadyAt verb operands next := by
  unfold PolynomialOption.arguments
  cases option.joined with
  | true =>
      exact ⟨_, .step (ready.take_joined accepted) (.refl _), rfl⟩
  | false =>
      exact ⟨_, .step ready.take_separate
        (.step (take_awaited plain) (.refl _)), of_pending accepted⟩

end ReadyAt

end Reading

/-! ## Values put into slots -/

namespace Values

/-- A text is put into a slot exactly if the slot is free and the text can be read. -/
theorem store_eq_ok_iff
    {α : Type}
    {slot : Slot}
    {text : String}
    {occupant : Option α}
    {read : String → Except String α}
    {put : α → Values}
    {next : Values} :
    store slot text occupant read put = .ok next ↔
      occupant = none ∧ ∃ value, read text = .ok value ∧ put value = next := by
  unfold store
  cases occupant with
  | some value =>
      simp
  | none =>
      cases read text <;> simp

/-- The polynomial is put into its slot if the slot is free. -/
theorem accept_polynomial
    {values : Values}
    {option : PolynomialOption}
    {polynomial : Element}
    (free : values.polynomial = none)
    (names : option.Names polynomial) :
    values.accept option.text .polynomial =
      .ok { values with polynomial := some polynomial } := by
  exact store_eq_ok_iff.mpr ⟨free, polynomial, names, rfl⟩

/-- Whether the text of an operand is accepted does not depend on the polynomial. -/
theorem accept_operand
    {values next : Values}
    {text : String}
    {slot : Slot}
    (isOperand : slot ≠ .polynomial)
    (accepted : values.accept text slot = .ok next)
    (polynomial : Option Element) :
    { values with polynomial := polynomial }.accept text slot =
      .ok { next with polynomial := polynomial } := by
  cases slot with
  | polynomial =>
      exact (isOperand rfl).elim
  | samples | left | right | exponent =>
      obtain ⟨free, value, isRead, rfl⟩ := store_eq_ok_iff.mp accepted
      exact store_eq_ok_iff.mpr ⟨free, value, isRead, rfl⟩

/-- Accepting the text of an operand leaves the polynomial as it is. -/
theorem polynomial_eq_of_accept
    {values next : Values}
    {text : String}
    {slot : Slot}
    (isOperand : slot ≠ .polynomial)
    (accepted : values.accept text slot = .ok next) :
    next.polynomial = values.polynomial := by
  have same := accept_operand isOperand accepted values.polynomial
  rw [accepted] at same
  have unchanged := Except.ok.inj same
  rw [unchanged]

end Values

/--
Items that fill the slots of the operands, one operand to a slot, and change
the values from first to last.
-/
inductive Fills : List Item → List Slot → Values → Values → Prop where
  | done
      (values : Values) :
      Fills [] [] values values
  | operand
      {text : String}
      {slot : Slot}
      {items : List Item}
      {slots : List Slot}
      {values next last : Values}
      (plain : Shape.of text = .plain)
      (accepted : values.accept text slot = .ok next)
      (rest : Fills items slots next last) :
      Fills (.operand text :: items) (slot :: slots) values last
  | polynomial
      {option : PolynomialOption}
      {items : List Item}
      {slots : List Slot}
      {values next last : Values}
      (plain : Shape.of option.text = .plain)
      (accepted : values.accept option.text .polynomial = .ok next)
      (rest : Fills items slots next last) :
      Fills (.polynomial option :: items) slots values last

namespace Fills

variable
  {operands : List String} {slots : List Slot} {values last : Values}

/-- Operands fill their slots in the same way under every polynomial. -/
theorem withPolynomial
    (fills : Fills (operands.map .operand) slots values last)
    (noOption : .polynomial ∉ slots)
    (polynomial : Option Element) :
    Fills (operands.map .operand) slots
      { values with polynomial := polynomial }
      { last with polynomial := polynomial } := by
  induction operands generalizing slots values with
  | nil =>
      cases fills
      exact .done _
  | cons text rest inductionHypothesis =>
      cases fills with
      | operand plain accepted further =>
          rw [List.mem_cons, not_or] at noOption
          exact .operand plain
            (Values.accept_operand (Ne.symm noOption.1) accepted polynomial)
            (inductionHypothesis further noOption.2)

/-- The option for the polynomial may stand before operands that fill their slots. -/
theorem consPolynomial
    (fills : Fills (operands.map .operand) slots values last)
    (noOption : .polynomial ∉ slots)
    (free : values.polynomial = none)
    {option : PolynomialOption}
    {polynomial : Element}
    (names : option.Names polynomial) :
    Fills (.polynomial option :: operands.map .operand) slots values
      { last with polynomial := some polynomial } :=
  .polynomial (Shape.of_byteLiteral names)
    (Values.accept_polynomial free names)
    (fills.withPolynomial noOption _)

/-- The option may stand at any place among the operands. -/
theorem insertPolynomial
    (fills : Fills (operands.map .operand) slots values last)
    (noOption : .polynomial ∉ slots)
    (free : values.polynomial = none)
    {option : PolynomialOption}
    {polynomial : Element}
    (names : option.Names polynomial)
    (position : Nat) :
    Fills (itemsOf operands (some (option, position))) slots values
      { last with polynomial := some polynomial } := by
  induction operands generalizing slots values position with
  | nil =>
      simpa [itemsOf] using fills.consPolynomial noOption free names
  | cons text rest inductionHypothesis =>
      cases position with
      | zero =>
          exact fills.consPolynomial noOption free names
      | succ position =>
          cases fills with
          | operand plain accepted further =>
              rw [List.mem_cons, not_or] at noOption
              have nextFree :=
                (Values.polynomial_eq_of_accept
                  (Ne.symm noOption.1) accepted).trans free
              exact .operand plain accepted
                (inductionHypothesis further noOption.2 nextFree position)

end Fills

namespace Request

/-- Reading goes on behind the arguments that have been taken. -/
theorem readTrailing_append
    {reading last : Reading}
    {arguments : List String}
    (leads : reading.Leads arguments last)
    (rest : List String) :
    readTrailing reading (arguments ++ rest) = readTrailing last rest := by
  induction leads with
  | refl reading =>
      rfl
  | step taken _ inductionHypothesis =>
      rw [List.cons_append, readTrailing, taken]
      exact inductionHypothesis

/-- Items that fill all slots are read as the values they fill them with. -/
theorem readTrailing_of_fills
    {items : List Item}
    {operands : List Slot}
    {values last : Values}
    (fills : Fills items operands values last)
    {reading : Reading}
    {verb : Option Verb}
    (ready : reading.ReadyAt verb operands values) :
    readTrailing reading (items.flatMap Item.arguments) =
      .ok (some last) := by
  induction fills generalizing reading with
  | done values =>
      unfold Reading.ReadyAt at ready
      rw [List.flatMap_nil, readTrailing, ready]
      rfl
  | operand plain accepted _ inductionHypothesis =>
      obtain ⟨next, leads, readyNext⟩ := ready.leads_operand plain accepted
      rw [List.flatMap_cons, Item.arguments, readTrailing_append leads]
      exact inductionHypothesis readyNext
  | polynomial plain accepted _ inductionHypothesis =>
      obtain ⟨next, leads, readyNext⟩ := ready.leads_option plain accepted
      rw [List.flatMap_cons, Item.arguments, readTrailing_append leads]
      exact inductionHypothesis readyNext

/-- Before the command, a taken argument that is no command is read past. -/
theorem readLeading_cons
    {reading next : Reading}
    {argument : String}
    (taken : reading.take argument = .ok (.further next))
    (noCommand :
      reading.awaitsValue = true ∨ argument.toList.head? = some '-')
    (rest : List String) :
    readLeading reading (argument :: rest) = readLeading next rest := by
  rw [readLeading]
  by_cases unnamed : reading.plainOnly = true ∨ reading.awaitsValue = true
  · rw [if_pos unnamed, taken]
  · have dash := noCommand.resolve_left fun awaits => unnamed (Or.inr awaits)
    have notHelp : argument ≠ "help" := by
      rintro rfl
      revert dash
      decide
    rw [if_neg unnamed, if_neg notHelp, Verb.ofName?_eq_none dash, taken]

/-- The option before the command is read past with its polynomial as a value. -/
theorem readLeading_option
    {option : PolynomialOption}
    {polynomial : Element}
    (names : option.Names polynomial)
    (rest : List String) :
    ∃ last,
      readLeading (.start none) (option.arguments ++ rest) =
          readLeading last rest ∧
        last.ReadyAt none [] { polynomial := some polynomial } := by
  have ready : (Reading.start none).ReadyAt none [] {} :=
    rfl
  have accepted :
      ({} : Values).accept option.text .polynomial =
        .ok { polynomial := some polynomial } :=
    Values.accept_polynomial rfl names
  unfold PolynomialOption.arguments
  cases option.joined with
  | true =>
      refine ⟨_, readLeading_cons (ready.take_joined accepted) ?_ rest, rfl⟩
      exact Or.inr (by simp)
  | false =>
      have opened :=
        readLeading_cons ready.take_separate (Or.inr (by decide))
          (option.text :: rest)
      let awaiting : Reading :=
        ⟨none, [], {}, some ⟨.polynomial, none⟩, false⟩
      have taken :
          awaiting.take option.text =
            .ok (.further
              { awaiting with pending := some ⟨.polynomial, option.text⟩ }) :=
        Reading.ReadyAt.take_awaited (Shape.of_byteLiteral names)
      exact ⟨_, opened.trans (readLeading_cons taken (Or.inl rfl) rest),
        Reading.ReadyAt.of_pending accepted⟩

/-- At a command, what stands before it is complete, and its own arguments follow. -/
theorem readLeading_command
    {reading : Reading}
    {operands : List Slot}
    {values : Values}
    (ready : reading.ReadyAt none operands values)
    {name : String}
    {verb : Verb}
    (named : Verb.ofName? name = some verb)
    (rest : List String) :
    readLeading reading (name :: rest) = readCommand reading verb rest := by
  have notHelp : name ≠ "help" := by
    rintro rfl
    cases named
  rw [readLeading,
    if_neg (by simp [ready.plainOnly_eq, ready.awaitsValue_eq]),
    if_neg notHelp, named]

/-- A command is read with the values of its own items and those before it. -/
theorem readCommand_of_fills
    {leading : Reading}
    {operands : List Slot}
    {before behind : Values}
    (ready : leading.ReadyAt none operands before)
    {verb : Verb}
    {items : List Item}
    (fills : Fills items verb.operands {} behind) :
    readCommand leading verb (items.flatMap Item.arguments) =
      (Invocation.ofValues verb before behind).map .perform := by
  have trailing :
      readTrailing (.start (some verb)) (items.flatMap Item.arguments) =
        .ok (some behind) := by
    have ready :
        (Reading.start (some verb)).ReadyAt (some verb) verb.operands {} :=
      rfl
    exact readTrailing_of_fills fills ready
  unfold Reading.ReadyAt at ready
  rw [readCommand, trailing, ready]

end Request

/-- No command has the polynomial among its operands. -/
theorem Verb.polynomial_notMem_operands
    (verb : Verb) :
    .polynomial ∉ verb.operands := by
  cases verb <;> decide

/-- The task of a command does not depend on the polynomial. -/
theorem Task.ofValues?_withPolynomial
    (verb : Verb)
    (values : Values)
    (polynomial : Option Element) :
    Task.ofValues? verb { values with polynomial := polynomial } =
      Task.ofValues? verb values := by
  cases verb <;> rfl

/-- What the options choose is the value of the later one, or the default where there is none. -/
theorem Chooses.polynomial_eq
    {leading : Option PolynomialOption}
    {trailing : Option (PolynomialOption × Nat)}
    {polynomial : Element}
    (chosen : Chooses leading trailing polynomial) :
    ((trailing.bind fun placed => placed.1.value?) <|>
          leading.bind PolynomialOption.value?).getD defaultPolynomial =
      polynomial := by
  obtain ⟨_, counts⟩ := chosen
  cases trailing with
  | some placed =>
      simp [PolynomialOption.Names.value?_eq counts]
  | none =>
      cases leading with
      | some option =>
          simp [PolynomialOption.Names.value?_eq counts]
      | none =>
          simp only at counts
          simp [counts]

/-- Operands that fill the slots of a command do so with the option among them. -/
theorem Fills.withTrailing
    {verb : Verb}
    {operands : List String}
    {values : Values}
    (fills : Fills (operands.map .operand) verb.operands {} values)
    (unnamed : values.polynomial = none)
    {leading : Option PolynomialOption}
    {trailing : Option (PolynomialOption × Nat)}
    {polynomial : Element}
    (chosen : Chooses leading trailing polynomial) :
    Fills (itemsOf operands trailing) verb.operands {}
      { values with
        polynomial := trailing.bind fun placed => placed.1.value? } := by
  obtain ⟨_, counts⟩ := chosen
  cases trailing with
  | some placed =>
      obtain ⟨option, position⟩ := placed
      have named : option.Names polynomial := counts
      simp only [Option.bind_some, named.value?_eq]
      exact fills.insertPolynomial verb.polynomial_notMem_operands rfl
        named position
  | none =>
      have same : { values with polynomial := none } = values := by
        rw [← unnamed]
      rw [Option.bind_none, same]
      exact fills

/-- What stands before the command is read past with the value of the option there. -/
theorem Request.readLeading_leading
    {leading : Option PolynomialOption}
    (valid : ∀ option ∈ leading, ∃ other, option.Names other)
    (rest : List String) :
    ∃ reading,
      readLeading (.start none)
            ((leading.map PolynomialOption.arguments).getD [] ++ rest) =
          readLeading reading rest ∧
        reading.ReadyAt none []
          { polynomial := leading.bind PolynomialOption.value? } := by
  cases leading with
  | none =>
      exact ⟨.start none, rfl, rfl⟩
  | some option =>
      obtain ⟨other, names⟩ := valid option rfl
      rw [Option.bind_some, names.value?_eq]
      exact readLeading_option names rest

/--
A command whose operands fill its slots is understood wherever the option for
the polynomial stands and however it is written: it asks for the task of the
operands under the polynomial that the options choose.
-/
theorem Request.ofArguments_commandLine
    {leading : Option PolynomialOption}
    {trailing : Option (PolynomialOption × Nat)}
    {polynomial : Element}
    (chosen : Chooses leading trailing polynomial)
    {name : String}
    {verb : Verb}
    (named : Verb.ofName? name = some verb)
    {operands : List String}
    {values : Values}
    (fills : Fills (operands.map .operand) verb.operands {} values)
    (unnamed : values.polynomial = none)
    {task : Task}
    (complete : Task.ofValues? verb values = some task) :
    ofArguments (commandLine leading name operands trailing) =
      .ok (.perform ⟨task, polynomial⟩) := by
  obtain ⟨reading, readPast, ready⟩ :=
    readLeading_leading chosen.1
      (name :: (itemsOf operands trailing).flatMap Item.arguments)
  rw [ofArguments, commandLine, readPast, readLeading_command ready named,
    readCommand_of_fills ready (fills.withTrailing unnamed chosen),
    Invocation.ofValues, Task.ofValues?_withPolynomial, complete]
  simp only [chosen.polynomial_eq]
  rfl

end ByteField.Command
