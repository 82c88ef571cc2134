import Vix75.DoubleSizingChecks
import Vix75.RiskGateCore

/-! When the risk gate answers a signal: for every content of the snapshot keys. -/

namespace Vix75

open WhileLoop

namespace Gate

def Huge (number : ℤ) : Prop := 2 ^ 1024 - 2 ^ 970 ≤ number.natAbs

structure Field where
  name : String
  integral : Bool := false

def accountFields : List Field := [{ name := "balance" }, { name := "equity" },
  { name := "margin_free" }]

def specFields : List Field :=
  Risk.requiredSpecFields.map fun name => { name := name, integral := name = "stops_level_points" }

namespace Field

variable (consumer : RiskConsumer) (data : Json) (field : Field)

def Overflows : Prop :=
  if field.integral then
    data.item? field.name = some (.float .posInf) ∨ data.item? field.name = some (.float .negInf)
  else ∃ number, data.item? field.name = some (.int number) ∧ Huge number

def Converts : Prop :=
  if field.integral then
    ∃ number, (item data field.name >>= intOfJson consumer.codec.intOf) = .ok number
  else ∃ number, consumer.float data field.name = .ok number

end Field

/-- The fields convert in turn until one of them is refused, and none overflows before. -/
def Readable (consumer : RiskConsumer) (data : Json) : List Field → Prop
  | [] => True
  | field :: later =>
      ¬field.Overflows data ∧ (field.Converts consumer data → Readable consumer data later)

section Snapshots

variable (consumer : RiskConsumer)

/-- The text makes its reader give up in another way than as malformed, as one that nests too
deeply does. -/
def Unloadable (raw : Option String) : Prop :=
  ∃ text error, raw = some text ∧ consumer.codec.loads text = .error error ∧
    error.malformed = false

def Loads (raw : Option String) (data : Json) : Prop :=
  ∃ text, raw = some text ∧ consumer.codec.loads text = .ok data

def AccountReadable (contents : Contents) : Prop :=
  ¬Unloadable consumer (contents.get Risk.accountKey) ∧
    ∀ data, Loads consumer (contents.get Risk.accountKey) data →
      Readable consumer data accountFields

def SpecReadable (contents : Contents) (symbol : String) : Prop :=
  ¬Unloadable consumer (contents.get (Risk.symbolKey symbol)) ∧
    ∀ data, Loads consumer (contents.get (Risk.symbolKey symbol)) data →
      (∀ name ∈ Risk.requiredSpecFields, data.item? name ≠ none) →
        Readable consumer data specFields

end Snapshots

section Readable

variable {consumer : RiskConsumer} {data : Json} {α β : Type}

def Caught (read : Except PyError α) : Prop := ∃ result, Risk.unlessMalformed read = .ok result

@[simp] theorem caught_ok (value : α) : Caught (.ok value : Except PyError α) := ⟨some value, rfl⟩

@[simp] theorem caught_error (error : PyError) :
    Caught (.error error : Except PyError α) ↔ error.malformed = true := by
  cases malformed : error.malformed <;> simp [Caught, Risk.unlessMalformed, malformed]

theorem caught_bind {first : Except PyError α} {rest : α → Except PyError β}
    {overflows converts later : Prop} (caught : Caught first ↔ ¬overflows)
    (ok : (∃ value, first = .ok value) ↔ converts) (tail : ∀ value, Caught (rest value) ↔ later) :
    Caught (first >>= rest) ↔ ¬overflows ∧ (converts → later) := by
  rw [← caught, ← ok]
  cases first with
  | ok value =>
      refine (tail value).trans ?_
      simp [caught_ok]
  | error error =>
      have failed : (Except.error error >>= rest) = .error error := rfl
      simp [failed]

theorem floatOfInt_ok_iff (number : ℤ) :
    (∃ value, floatOfInt number = .ok value) ↔ ¬Huge number := by
  unfold floatOfInt Huge
  split
  · rename_i small
    exact iff_of_true ⟨_, rfl⟩ (not_le.mpr small)
  · rename_i huge
    exact iff_of_false nofun (not_not.mpr (not_lt.mp huge))

theorem caught_item_bind (name : String) (convert : Json → Except PyError α) :
    Caught (item data name >>= convert) ↔ ∀ value, data.item? name = some value →
      Caught (convert value) := by
  cases data with
  | dict entries =>
      simp only [item, Json.item?]
      cases entries.lookup name with
      | none => exact iff_of_true ((caught_error _).mpr rfl) (by simp)
      | some value =>
          change Caught (convert value) ↔ _
          simp
  | _ => exact iff_of_true ((caught_error _).mpr rfl) (by simp [Json.item?])

theorem caught_float_iff (parse : String → Option PyFloat) (value : Json) :
    Caught (floatOfJson parse value) ↔ ¬∃ number, value = .int number ∧ Huge number := by
  cases value with
  | int number =>
      simp only [Json.int.injEq, exists_eq_left', floatOfJson, floatOfInt, Huge]
      split
      · rename_i small
        exact iff_of_true ⟨_, rfl⟩ (not_le.mpr small)
      · rename_i huge
        exact iff_of_false nofun (not_not.mpr (not_lt.mp huge))
  | str raw =>
      cases read : parse raw <;>
        simp [floatOfJson, read, PyError.malformed, PyError.isValueError]
  | _ => simp [floatOfJson, PyError.malformed]

theorem caught_int_iff (parse : String → Option ℤ) (value : Json) :
    Caught (intOfJson parse value) ↔ ¬(value = .float .posInf ∨ value = .float .negInf) := by
  cases value with
  | float number =>
      cases number <;> simp [intOfJson, PyError.malformed, PyError.isValueError]
  | str raw =>
      cases read : parse raw <;>
        simp [intOfJson, read, PyError.malformed, PyError.isValueError]
  | _ => simp [intOfJson, PyError.malformed]

theorem caught_map {first : Except PyError α} (convert : α → β) :
    Caught (first >>= fun value => .ok (convert value)) ↔ Caught first := by
  cases first with
  | ok value => exact iff_of_true (caught_ok _) (caught_ok _)
  | error error => simp [bind, Except.bind]

theorem field_caught_iff (consumer : RiskConsumer) (data : Json) (name : String) :
    Caught (consumer.float data name) ↔ ¬Field.Overflows data { name := name } := by
  refine (caught_item_bind name _).trans ?_
  simp only [caught_map, caught_float_iff, Field.Overflows, Bool.false_eq_true, if_false]
  constructor
  · rintro small ⟨number, found, huge⟩
    exact small _ found ⟨number, rfl, huge⟩
  · rintro small _ found ⟨number, rfl, huge⟩
    exact small ⟨number, found, huge⟩

theorem int_field_caught_iff (consumer : RiskConsumer) (data : Json) (name : String) :
    Caught (item data name >>= intOfJson consumer.codec.intOf) ↔
      ¬Field.Overflows data { name := name, integral := true } := by
  refine (caught_item_bind name _).trans ?_
  simp only [caught_int_iff, Field.Overflows, if_true]
  constructor
  · rintro bounded (above | below)
    · exact bounded _ above (.inl rfl)
    · exact bounded _ below (.inr rfl)
  · rintro bounded _ found (rfl | rfl)
    · exact bounded (.inl found)
    · exact bounded (.inr found)

theorem float_bind_caught {name : String} {rest : PyFloat → Except PyError β} {later : Prop}
    (tail : ∀ value, Caught (rest value) ↔ later) :
    Caught (consumer.float data name >>= rest) ↔
      ¬Field.Overflows data { name := name } ∧
        (Field.Converts consumer data { name := name } → later) :=
  caught_bind (field_caught_iff consumer data name) (by simp [Field.Converts]) tail

theorem account_caught_iff :
    Caught (consumer.account data) ↔ Readable consumer data accountFields :=
  float_bind_caught fun _ => float_bind_caught fun _ => float_bind_caught fun _ =>
    iff_of_true (caught_ok _) trivial

theorem constraints_caught_iff :
    Caught (consumer.constraints data) ↔ Readable consumer data specFields := by
  refine float_bind_caught fun _ => float_bind_caught fun _ => float_bind_caught fun _ =>
    float_bind_caught fun _ => float_bind_caught fun _ => float_bind_caught fun _ => ?_
  rw [← bind_assoc]
  refine caught_bind (int_field_caught_iff consumer data _) (by simp [Field.Converts]) fun _ => ?_
  exact float_bind_caught fun _ => iff_of_true (caught_ok _) trivial

theorem document_bind_ok_iff (raw : Option String) (rest : Json → Except PyError (Option β)) :
    (∃ value, (do
        match ← Risk.document consumer.codec raw with
        | none => .ok none
        | some data => rest data) = .ok value) ↔
      ¬Unloadable consumer raw ∧
        ∀ data, Loads consumer raw data → ∃ value, rest data = .ok value := by
  cases raw with
  | none => exact iff_of_true ⟨none, rfl⟩ ⟨by simp [Unloadable], by simp [Loads]⟩
  | some text =>
      cases loaded : consumer.codec.loads text with
      | ok data =>
          simp [Risk.document, Risk.unlessMalformed, Unloadable, Loads, loaded, bind, Except.bind]
      | error error =>
          cases malformed : error.malformed <;>
            simp [Risk.document, Risk.unlessMalformed, Unloadable, Loads, loaded, malformed, bind,
              Except.bind]

theorem loadAccount_ok_iff (contents : Contents) :
    (∃ account, consumer.loadAccount contents = .ok account) ↔
      AccountReadable consumer contents := by
  refine (document_bind_ok_iff _ _).trans (and_congr_right fun _ => ?_)
  exact forall₂_congr fun data _ => account_caught_iff

theorem ok_of_bind {first : Except PyError α} {rest : α → Except PyError β} {result : β}
    (ended : (first >>= rest) = .ok result) :
    ∃ value, first = .ok value ∧ rest value = .ok result := by
  cases first with
  | ok value => exact ⟨value, rfl, ended⟩
  | error error => cases ended

theorem float_double {name : String} {value : PyFloat}
    (read : consumer.float data name = .ok value) : value.double = value := by
  obtain ⟨found, _, read⟩ := ok_of_bind read
  obtain ⟨number, _, read⟩ := ok_of_bind read
  cases read
  exact PyFloat.double_double number

theorem volumeStep_double {constraints : SymbolConstraints PyFloat}
    (read : consumer.constraints data = .ok constraints) :
    constraints.volumeStep.double = constraints.volumeStep := by
  obtain ⟨volumeMin, _, read⟩ := ok_of_bind read
  obtain ⟨volumeMax, _, read⟩ := ok_of_bind read
  obtain ⟨volumeStep, step, read⟩ := ok_of_bind read
  obtain ⟨tickSize, _, read⟩ := ok_of_bind read
  obtain ⟨tickValue, _, read⟩ := ok_of_bind read
  obtain ⟨point, _, read⟩ := ok_of_bind read
  obtain ⟨level, _, read⟩ := ok_of_bind read
  obtain ⟨points, _, read⟩ := ok_of_bind read
  obtain ⟨marginPerLot, _, read⟩ := ok_of_bind read
  cases read
  exact float_double step

theorem loadedStep_double {contents : Contents} {symbol : String}
    {constraints : SymbolConstraints PyFloat}
    (loaded : consumer.loadSymbolConstraints contents symbol = .ok (some constraints)) :
    constraints.volumeStep.double = constraints.volumeStep := by
  obtain ⟨document, _, loaded⟩ := ok_of_bind loaded
  cases document with
  | none => cases loaded
  | some data =>
      dsimp only at loaded
      split at loaded
      · cases loaded
      · cases read : consumer.constraints data with
        | ok constraints =>
            rw [read] at loaded
            cases loaded
            exact volumeStep_double read
        | error error =>
            simp only [read, Risk.unlessMalformed] at loaded
            split at loaded <;> cases loaded

theorem loadSymbolConstraints_ok_iff (contents : Contents) (symbol : String) :
    (∃ constraints, consumer.loadSymbolConstraints contents symbol = .ok constraints) ↔
      SpecReadable consumer contents symbol := by
  refine (document_bind_ok_iff _ _).trans (and_congr_right fun _ => ?_)
  refine forall₂_congr fun data _ => ?_
  by_cases complete : ∀ name ∈ Risk.requiredSpecFields, data.item? name ≠ none
  · have missing : ¬(Risk.requiredSpecFields.any fun name => (data.item? name).isNone) := by
      simpa using complete
    simp only [if_neg missing]
    exact constraints_caught_iff.trans ⟨fun readable _ => readable, fun all => all complete⟩
  · have missing : Risk.requiredSpecFields.any fun name => (data.item? name).isNone := by
      simpa using complete
    simp only [if_pos missing]
    exact iff_of_true ⟨none, rfl⟩ fun all => absurd all complete

end Readable

/-! The gates -/

section Answers

variable (consumer : RiskConsumer) (contents : Contents) (signal : Signal PyFloat)

def Usable : Prop :=
  (∃ account, consumer.loadAccount contents = .ok (some account)) ∧
    ∃ constraints, consumer.loadSymbolConstraints contents signal.symbol = .ok (some constraints)

def Exhausted : Prop :=
  ∀ account, consumer.loadAccount contents = .ok account →
    (consumer.preflightReason ((account.map AccountSnapshot.balance).getD .posInf)
      contents.openPositions).isSome

/-- The gates behind the snapshots have a decision for their numbers. -/
def Tradable (account : AccountSnapshot PyFloat) (constraints : SymbolConstraints PyFloat) : Prop :=
  let args := Risk.sizingArgs consumer.settings signal account constraints
  ¬Huge constraints.stopsLevelPoints ∧ (args.Checked → PyFloat.Sizable args account.marginFree)

def Answerable : Prop :=
  AccountReadable consumer contents ∧
    (Exhausted consumer contents ∨
      SpecReadable consumer contents signal.symbol ∧ ∀ account constraints,
        consumer.loadAccount contents = .ok (some account) →
          consumer.loadSymbolConstraints contents signal.symbol = .ok (some constraints) →
            Tradable consumer signal account constraints)

inductive Write.Answers (signal : Signal PyFloat) (usable : Prop) : Write → Prop
  | order (order : OrderRequest PyFloat) (correlationId : String) :
      usable → order.signalId = signal.id → Answers signal usable (.approved order correlationId)
  | rejection (entry : SignalRejection) (reason : RejectionReason) :
      entry.signalId = signal.id → entry.rejectedReason = reason.value →
        Answers signal usable (.rejected entry)

def Write.published : Write → Bool
  | .registered _ => false
  | _ => true

/-- The handler ends without raising, and one entry answers the signal. -/
def AnsweredOnce (fields : Fields) : Prop :=
  ∃ rounds writes, consumer.handle contents fields rounds = .returned writes ∧
    ∃ entry, writes.filter Write.published = [entry] ∧
      entry.Answers signal (Usable consumer contents signal)

variable {consumer contents signal}

theorem checkStops_of_small {constraints : SymbolConstraints PyFloat}
    (small : ¬Huge constraints.stopsLevelPoints) :
    RiskConsumer.checkStops signal constraints =
      .ok (validateStopDistances signal.entry signal.sl signal.tp1 constraints) := by
  obtain ⟨value, level⟩ := (floatOfInt_ok_iff _).mpr small
  rw [RiskConsumer.checkStops, level]
  rfl

theorem checkStops_of_huge (signal : Signal PyFloat) {constraints : SymbolConstraints PyFloat}
    (huge : Huge constraints.stopsLevelPoints) :
    ∃ error, RiskConsumer.checkStops signal constraints = .error error := by
  cases level : floatOfInt constraints.stopsLevelPoints with
  | ok value => exact absurd huge ((floatOfInt_ok_iff _).mp ⟨value, level⟩)
  | error error => exact ⟨error, by rw [RiskConsumer.checkStops, level]; rfl⟩

theorem decideFunded_returns_iff (account : AccountSnapshot PyFloat)
    {constraints : SymbolConstraints PyFloat}
    (real : constraints.volumeStep.double = constraints.volumeStep) :
    (∃ rounds decision, consumer.decideFunded signal account constraints rounds =
        .returned decision) ↔
      Tradable consumer signal account constraints := by
  have known : (Risk.sizingArgs consumer.settings signal account constraints).freeMargin =
      some account.marginFree := rfl
  have sized := PyFloat.computeLots_returns_iff known real
  unfold RiskConsumer.decideFunded Tradable
  by_cases huge : Huge constraints.stopsLevelPoints
  · obtain ⟨error, raised⟩ := checkStops_of_huge signal huge
    refine iff_of_false ?_ (fun all => all.1 huge)
    rintro ⟨_, _, returned⟩
    rw [raised] at returned
    cases returned
  · simp only [checkStops_of_small huge, Outcome.ofExcept_ok, Outcome.returned_bind]
    cases stops : validateStopDistances signal.entry signal.sl signal.tp1 constraints with
    | some detail =>
        refine iff_of_true ⟨0, _, rfl⟩ ⟨huge, fun checked => ?_⟩
        exact absurd (stops.symm.trans checked.stops) (Option.some_ne_none _)
    | none =>
        refine (exists_congr fun rounds => Outcome.bind_returns_iff fun _ => ⟨_, rfl⟩).trans ?_
        rw [sized]
        exact ⟨fun sizable => ⟨huge, sizable⟩, And.right⟩

theorem decide_returns_iff :
    (∃ rounds decision, consumer.decide contents signal rounds = .returned decision) ↔
      Answerable consumer contents signal := by
  unfold RiskConsumer.decide
  cases loaded : consumer.loadAccount contents with
  | error error =>
      have unreadable : ¬AccountReadable consumer contents := by
        intro readable
        obtain ⟨account, ok⟩ := (loadAccount_ok_iff contents).mpr readable
        simp [loaded] at ok
      refine iff_of_false ?_ (fun all => unreadable all.1)
      rintro ⟨_, _, raised⟩
      cases raised
  | ok hint =>
      have readable : AccountReadable consumer contents :=
        (loadAccount_ok_iff contents).mp ⟨hint, loaded⟩
      simp only [Outcome.ofExcept_ok, Outcome.returned_bind, Answerable, readable, true_and,
        Exhausted, loaded, Except.ok.injEq, forall_eq']
      cases gate : consumer.preflightReason ((hint.map AccountSnapshot.balance).getD .posInf)
          contents.openPositions with
      | some reason => simp
      | none =>
          simp only [Option.isSome_none, Bool.false_eq_true, false_or]
          cases spec : consumer.loadSymbolConstraints contents signal.symbol with
          | error error =>
              have unreadable : ¬SpecReadable consumer contents signal.symbol := by
                intro readable
                obtain ⟨constraints, ok⟩ :=
                  (loadSymbolConstraints_ok_iff contents signal.symbol).mpr readable
                simp [spec] at ok
              refine iff_of_false ?_ (fun all => unreadable all.1)
              rintro ⟨_, _, raised⟩
              cases raised
          | ok constraints =>
              have specReadable : SpecReadable consumer contents signal.symbol :=
                (loadSymbolConstraints_ok_iff contents signal.symbol).mp ⟨constraints, spec⟩
              simp only [Outcome.ofExcept_ok, Outcome.returned_bind, specReadable, true_and,
                Except.ok.injEq]
              cases hint with
              | none => simp
              | some account =>
                  cases constraints with
                  | none => simp
                  | some constraints =>
                      simpa using decideFunded_returns_iff account (loadedStep_double spec)

theorem decideFunded_justified {account : AccountSnapshot PyFloat}
    {constraints : SymbolConstraints PyFloat} {rounds : ℕ} {decision : Risk.Decision PyFloat}
    (decided : consumer.decideFunded signal account constraints rounds = .returned decision) :
    decision.approved ∨ decision.reason.isSome := by
  obtain ⟨stops, _, decided⟩ := Outcome.bind_eq_returned.mp decided
  cases stops with
  | some detail =>
      cases decided
      exact .inr rfl
  | none =>
      obtain ⟨result, _, decided⟩ := Outcome.bind_eq_returned.mp decided
      cases decided
      unfold Risk.decideSized
      split
      · exact .inl rfl
      · exact .inr rfl

theorem decide_justified {rounds : ℕ} {decision : Risk.Decision PyFloat}
    (decided : consumer.decide contents signal rounds = .returned decision) :
    decision.approved = true ∧ Usable consumer contents signal ∨
      decision.approved = false ∧ ∃ reason, decision.reason = some reason := by
  obtain ⟨hint, _, decided⟩ := Outcome.bind_eq_returned.mp decided
  split at decided
  · cases decided
    exact .inr ⟨rfl, _, rfl⟩
  · obtain ⟨account, loaded, decided⟩ := Outcome.bind_eq_returned.mp decided
    obtain ⟨constraints, spec, decided⟩ := Outcome.bind_eq_returned.mp decided
    rw [Outcome.ofExcept_eq_returned] at loaded spec
    split at decided
    · cases approved : decision.approved with
      | true => exact .inl ⟨rfl, ⟨_, loaded⟩, _, spec⟩
      | false =>
          have reason := (decideFunded_justified decided).resolve_left (by simp [approved])
          exact .inr ⟨rfl, Option.isSome_iff_exists.mp reason⟩
    · cases decided
      exact .inr ⟨rfl, _, rfl⟩

theorem report_answers {decision : Risk.Decision PyFloat} (correlationId : String)
    (justified : decision.approved = true ∧ Usable consumer contents signal ∨
      decision.approved = false ∧ ∃ reason, decision.reason = some reason) :
    ∃ writes, RiskConsumer.report signal decision correlationId = .returned writes ∧
      ∃ entry, writes.filter Write.published = [entry] ∧
        entry.Answers signal (Usable consumer contents signal) := by
  unfold RiskConsumer.report
  rcases justified with ⟨approved, usable⟩ | ⟨refused, reason, known⟩
  · rw [if_pos approved]
    exact ⟨_, rfl, _, rfl, .order _ _ usable rfl⟩
  · rw [if_neg (by simp [refused]), known]
    exact ⟨_, rfl, _, rfl, .rejection _ reason rfl rfl⟩

/-- Every signal is answered once unless a number of a snapshot overflows, the sizing has no steps
to count or its margin loop is stuck. -/
theorem signal_answered_iff (consumer : RiskConsumer) (contents : Contents) (fields : Fields)
    (signal : Signal PyFloat) (read : consumer.parseSignal fields = .ok (some signal)) :
    AnsweredOnce consumer contents signal fields ↔ Answerable consumer contents signal := by
  rw [← decide_returns_iff]
  simp only [AnsweredOnce, RiskConsumer.handle, read]
  constructor
  · rintro ⟨rounds, writes, returned, _⟩
    obtain ⟨decision, decided, _⟩ := Outcome.bind_eq_returned.mp returned
    exact ⟨rounds, decision, decided⟩
  · rintro ⟨rounds, decision, decided⟩
    obtain ⟨writes, reported, answers⟩ := report_answers (fields.correlationId.getD contents.uuid)
      (decide_justified decided)
    exact ⟨rounds, writes, Outcome.bind_eq_returned.mpr ⟨decision, decided, reported⟩, answers⟩

end Answers

namespace Sample

def accountText : String :=
  "\x7b\"balance\": 10000.0, \"equity\": 10000.0, \"margin_free\": 9000.0\x7d"

def specText : String :=
  "\x7b\"volume_min\": 0.01, \"volume_max\": 5.0, \"volume_step\": 0, \"tick_size\": 0.01, " ++
    "\"tick_value\": 0.01, \"point\": 0.01, \"stops_level_points\": 0, \"margin_per_lot\": 100\x7d"

def accountData : Json :=
  .dict [("balance", .float (.finite 10000)), ("equity", .float (.finite 10000)),
    ("margin_free", .float (.finite 9000))]

def hundredth : PyFloat := (PyFloat.finite (1 / 100)).double

def specData : Json :=
  .dict [("volume_min", .float hundredth), ("volume_max", .float (.finite 5)),
    ("volume_step", .int 0), ("tick_size", .float hundredth), ("tick_value", .float hundredth),
    ("point", .float hundredth), ("stops_level_points", .int 0), ("margin_per_lot", .int 100)]

def account : AccountSnapshot PyFloat where
  balance := .finite 10000
  equity := .finite 10000
  marginFree := .finite 9000

def constraints : SymbolConstraints PyFloat where
  volumeMin := hundredth
  volumeMax := .finite 5
  volumeStep := .finite 0
  tickSize := hundredth
  tickValue := hundredth
  point := hundredth
  stopsLevelPoints := 0
  marginPerLot := .finite 100

def signalText : String := "\x7b\"id\": \"s1\"\x7d"

def loads (raw : String) : Except PyError Json :=
  if raw = accountText then .ok accountData
  else if raw = specText then .ok specData
  else if raw = signalText then .ok (.dict [("id", .str "s1")])
  else .error (.jsonDecodeError "Expecting value")

def signal : Signal PyFloat where
  id := "s1"
  createdTs := 0
  symbol := "Volatility 75 Index"
  ltfTimeframe := "M15"
  direction := .buy
  entry := .finite 100
  sl := .finite 99
  tp1 := .finite 102
  tp2 := .finite 103
  score := 7
  maxScore := 7
  components := {}

def consumer : RiskConsumer where
  settings := {}
  codec := ⟨loads, fun _ => none, fun _ => some signal⟩
  floatOf := fun _ => none

def fields : Fields := [("signal", signalText), ("correlation_id", "c1")]

def contents (key : String) : Option String :=
  if key = Risk.accountKey then some accountText
  else if key = Risk.symbolKey signal.symbol then some specText
  else none

end Sample

theorem signal_answered_iff_empty :
    AnsweredOnce Sample.consumer { get := fun _ => none } Sample.signal Sample.fields := by
  have missing : Sample.consumer.loadAccount { get := fun _ => none } = .ok none := rfl
  refine (signal_answered_iff Sample.consumer _ Sample.fields Sample.signal (by decide)).mpr ?_
  refine ⟨⟨by simp [Unloadable], by simp [Loads]⟩, .inr
    ⟨⟨by simp [Unloadable], by simp [Loads]⟩, ?_⟩⟩
  simp [missing]

/-- At a volume step of zero the handler raises. -/
theorem signal_unanswered : ¬∀ consumer contents fields signal,
    consumer.parseSignal fields = .ok (some signal) →
      AnsweredOnce consumer contents signal fields := by
  intro answered
  obtain ⟨rounds, writes, returned, _⟩ := answered Sample.consumer { get := Sample.contents }
    Sample.fields Sample.signal (by decide)
  have loaded : Sample.consumer.loadAccount { get := Sample.contents } =
      .ok (some Sample.account) := by decide +kernel
  have spec : Sample.consumer.loadSymbolConstraints { get := Sample.contents }
      Sample.signal.symbol = .ok (some Sample.constraints) := by decide +kernel
  have parsed : Sample.consumer.parseSignal Sample.fields = .ok (some Sample.signal) := by decide
  simp only [RiskConsumer.handle, parsed] at returned
  obtain ⟨decision, decided, _⟩ := Outcome.bind_eq_returned.mp returned
  obtain ⟨_, exhausted | ⟨_, tradable⟩⟩ := decide_returns_iff.mp ⟨rounds, decision, decided⟩
  · have admitted : Sample.consumer.preflightReason Sample.account.balance [] = none := by
      decide +kernel
    have full := exhausted _ loaded
    rw [Option.map_some, Option.getD_some, admitted] at full
    exact absurd full Bool.false_ne_true
  · have checked : (Risk.sizingArgs Sample.consumer.settings Sample.signal Sample.account
        Sample.constraints).Checked := by
      constructor <;> decide +kernel
    exact absurd ((tradable _ _ loaded spec).2 checked).step (by decide +kernel)

end Gate

end Vix75
