import Mathlib.Data.List.Basic
import Vix75.RiskGateCore
import Vix75.WireFormats

/-! What the services write for one another is read back as it was. -/

namespace Vix75

open Json

theorem Direction.value_injective : Function.Injective Direction.value := by
  intro direction other
  cases direction <;> cases other <;> decide

theorem SignalStatus.value_injective : Function.Injective SignalStatus.value := by
  intro status other
  cases status <;> cases other <;> decide

theorem ZoneKind.value_injective : Function.Injective ZoneKind.value := by
  intro kind other
  cases kind <;> cases other <;> decide

theorem ZoneState.value_injective : Function.Injective ZoneState.value := by
  intro state other
  cases state <;> cases other <;> decide

namespace TextFormats

variable (formats : TextFormats)

def FiniteFloat (value : PyFloat) : Prop :=
  ∃ number, value = .finite number ∧ (formats.floatText value).isSome = true

def IsDatetime (ts : Timestamp) : Prop := -62135596800000000 ≤ ts ∧ ts ≤ 253402300799999999

/-- What is assumed of Python and pydantic: texts are read back as the values they are of, and an
integer that is a float converts to it. -/
structure Inverse : Prop where
  json : ∀ document text, formats.dumps document = some text → formats.loads text = .ok document
  int : ∀ value text, formats.intText value = some text → formats.int text = some value
  laxInt : ∀ value text, formats.intText value = some text → formats.laxInt text = some value
  laxFloat : ∀ value text, formats.FiniteFloat value → formats.floatText value = some text →
    formats.laxFloat text = some value
  laxDatetime : ∀ ts, IsDatetime ts → formats.laxDatetime (.str (formats.isoformat ts)) = some ts
  float : ∀ value : ℤ, formats.FiniteFloat (.finite value) →
    formats.float value = some (.finite value)

structure Scalars (hop : Json → Json → Prop) : Prop where
  text : ∀ text arrived, hop (.str text) arrived → arrived = .str text
  int : ∀ value, Reads hop (.int value) formats.readInt value
  float : ∀ value, formats.FiniteFloat value → Reads hop (.float value) formats.readFloat value

structure Nested (hop : Json → Json → Prop) : Prop extends Scalars formats hop where
  null : ∀ arrived, hop .null arrived → arrived = .null
  bool : ∀ value, Reads hop (.bool value) readBool value
  dict : ∀ given arrived, hop (.dict given) arrived →
    ∃ kept, arrived = .dict kept ∧ Carried hop given kept

variable {formats}

theorem Inverse.stored (inverse : formats.Inverse) : formats.Nested Stored where
  text := by
    rintro text _ ⟨⟩
    rfl
  int := by
    rintro value _ ⟨⟩
    rfl
  float := by
    rintro value finite _ (_ | _)
    · rfl
    · exact inverse.float _ finite
  null := by
    rintro _ ⟨⟩
    rfl
  bool := by
    rintro value _ ⟨⟩
    rfl
  dict := fun _ _ stored => stored.of_dict

/-! Validation after a hop -/

variable {hop : Json → Json → Prop} {kept : List (String × Json)}

theorem Scalars.str (scalars : formats.Scalars hop) (text : String) :
    Reads hop (.str text) readStr text := by
  intro arrived hopped
  rw [scalars.text text arrived hopped, readStr]

theorem Scalars.direction (scalars : formats.Scalars hop) (direction : Direction) :
    Reads hop (.str direction.value) (enumeration Direction.value [.buy, .sell]) direction :=
  .enumeration scalars.text Direction.value_injective (by cases direction <;> decide)

theorem Scalars.status (scalars : formats.Scalars hop) (status : SignalStatus) :
    Reads hop (.str status.value) (enumeration SignalStatus.value
      [.proposed, .approved, .rejected, .executed, .shadowFilled]) status :=
  .enumeration scalars.text SignalStatus.value_injective (by cases status <;> decide)

theorem Scalars.kind (scalars : formats.Scalars hop) (kind : ZoneKind) :
    Reads hop (.str kind.value) (enumeration ZoneKind.value [.supply, .demand]) kind :=
  .enumeration scalars.text ZoneKind.value_injective (by cases kind <;> decide)

theorem Scalars.state (scalars : formats.Scalars hop) (state : ZoneState) :
    Reads hop (.str state.value)
      (enumeration ZoneState.value [.fresh, .tested, .mitigated, .broken]) state :=
  .enumeration scalars.text ZoneState.value_injective (by cases state <;> decide)

variable (formats)

def FiniteSignal (signal : Signal PyFloat) : Prop :=
  ∀ value ∈ [signal.entry, signal.sl, signal.tp1, signal.tp2] ++ signal.pWin.toList,
    formats.FiniteFloat value

variable {formats}

theorem validateComponents_carried (nested : formats.Nested hop)
    {components : ConfluenceComponents} (carried : Carried hop components.modelDump kept) :
    validateComponents (.dict kept) = some components := by
  have trend := carried.defaulted (nested.bool components.htfTrendAligned)
    (show components.modelDump.lookup "htf_trend_aligned" = _ from rfl) false
  have zone := carried.defaulted (nested.bool components.zoneTouch)
    (show components.modelDump.lookup "zone_touch" = _ from rfl) false
  have bbma := carried.defaulted (nested.bool components.bbmaConfirm)
    (show components.modelDump.lookup "bbma_confirm" = _ from rfl) false
  have divergence := carried.defaulted (nested.bool components.rsiDivergence)
    (show components.modelDump.lookup "rsi_divergence" = _ from rfl) false
  have regime := carried.defaulted (nested.bool components.regimeOk)
    (show components.modelDump.lookup "regime_ok" = _ from rfl) false
  have label := carried.defaulted (nested.bool components.metaLabelOk)
    (show components.modelDump.lookup "meta_label_ok" = _ from rfl) false
  refine then_some (carried.strict _ (by simp [ConfluenceComponents.modelDump])) ?_
  refine then_some trend (then_some zone (then_some bbma ?_))
  exact then_some divergence (then_some regime (then_some label rfl))

theorem Nested.components (nested : formats.Nested hop) (components : ConfluenceComponents) :
    Reads hop (.dict components.modelDump) validateComponents components := by
  intro arrived hopped
  obtain ⟨kept, rfl, carried⟩ := nested.dict _ arrived hopped
  exact validateComponents_carried nested carried

theorem Nested.pWin (nested : formats.Nested hop) {signal : Signal PyFloat}
    (finite : formats.FiniteSignal signal) :
    Reads hop (pWinJson signal.pWin) (optional formats.readFloat) signal.pWin := by
  cases present : signal.pWin with
  | none =>
      intro arrived hopped
      rw [nested.null arrived hopped, Json.optional]
  | some pWin =>
      exact (nested.float pWin (finite pWin (by simp [present]))).optional rfl

end TextFormats

theorem lookup_of_texts {str : Json → Option String} {payload : List (String × Json)}
    {fields : Fields} (written : List.Forall₂ (fun entry field => (str entry.2).map
      (fun text => (entry.1, text)) = some field) payload fields) (name : String) :
    fields.lookup name = (payload.lookup name).bind str := by
  induction written with
  | nil => rfl
  | @cons entry field payload fields first _ ih =>
      obtain ⟨text, known, rfl⟩ := Option.map_eq_some_iff.mp first
      rw [List.lookup_cons, List.lookup_cons, ih]
      cases name == entry.1 with
      | true => simp [known]
      | false => simp

theorem keys_of_texts {str : Json → Option String} {payload : List (String × Json)}
    {fields : Fields} (written : List.Forall₂ (fun entry field => (str entry.2).map
      (fun text => (entry.1, text)) = some field) payload fields) :
    fields.map Prod.fst = payload.map Prod.fst := by
  induction written with
  | nil => rfl
  | cons first _ ih =>
      obtain ⟨text, _, rfl⟩ := Option.map_eq_some_iff.mp first
      rw [List.map_cons, List.map_cons, ih]

theorem lookup_map_set (fields : Fields) (name value other : String) :
    (fields.map fun entry => if entry.1 = name then (name, value) else entry).lookup other =
      (fields.lookup other).map fun old => if other = name then value else old := by
  induction fields with
  | nil => rfl
  | cons entry rest ih =>
      rw [List.map_cons, List.lookup_cons, List.lookup_cons, ih]
      by_cases here : other = entry.1
      · subst here
        by_cases same : entry.1 = name <;> simp [same]
      · have apart : (other == entry.1) = false := beq_false_of_ne here
        by_cases same : entry.1 = name
        · subst same
          simp [apart]
        · simp [same, apart]

theorem Fields.get?_set (fields : Fields) (name value other : String) :
    (fields.set name value).get? other =
      if other = name then some value else fields.get? other := by
  unfold set get?
  by_cases same : other = name
  · subst same
    cases present : fields.lookup other with
    | none => simp [List.lookup_append, present]
    | some old => simp [lookup_map_set, present]
  · split
    · rw [lookup_map_set]
      simp [same]
    · rw [List.lookup_append, List.lookup_singleton]
      simp [same]

namespace TextFormats

variable {formats : TextFormats}

theorem text_of_streamFields {uuid : String} {correlationId : Option String}
    {payload : List (String × Json)} {fields : Fields}
    (published : formats.streamFields uuid payload correlationId = some fields) {name : String}
    {document : Json} (here : payload.lookup name = some document) :
    ∃ text, formats.str document = some text := by
  simp only [streamFields, Option.bind_eq_bind, Option.bind_eq_some_iff] at published
  obtain ⟨texts, written, _⟩ := published
  have all := mapM_eq_some_iff.mp written
  have read := lookup_of_texts all name
  rw [here, Option.bind_some] at read
  rw [← Option.isSome_iff_exists, ← read, Option.isSome_iff_ne_none, ne_eq, lookup_eq_none_iff_keys,
    keys_of_texts all, ← lookup_eq_none_iff_keys, here]
  simp

variable (formats)

variable {formats}

end TextFormats

namespace TextFormats.Sample

def order : OrderRequest PyFloat where
  idempotencyKey := "5f0c"
  signalId := "5f0c"
  symbol := "Volatility 75 Index"
  direction := .buy
  lots := .finite (1 / 4)
  entry := .finite 100
  sl := .finite (199 / 2)
  tp := .finite 101

def signal : Signal PyFloat where
  id := "5f0c"
  createdTs := 1704067200000000
  symbol := "Volatility 75 Index"
  ltfTimeframe := "M5"
  direction := .buy
  entry := .finite 100
  sl := .finite (199 / 2)
  tp1 := .finite 101
  tp2 := .finite (203 / 2)
  score := 7
  maxScore := 7
  components := { zoneTouch := true, regimeOk := true }

def zone : Zone PyFloat where
  id := "9e1b"
  kind := .demand
  top := .finite 100
  bottom := .finite (199 / 2)
  createdTs := 1704067200000000
  score := 4

def signalJson : Json :=
  .dict [("id", .str "5f0c"), ("created_ts", .str "2024-01-01T00:00:00Z"),
    ("symbol", .str "Volatility 75 Index"), ("ltf_timeframe", .str "M5"), ("direction", .str "BUY"),
    ("entry", .float (.finite 100)), ("sl", .float (.finite (199 / 2))),
    ("tp1", .float (.finite 101)), ("tp2", .float (.finite (203 / 2))), ("score", .int 7),
    ("max_score", .int 7),
    ("components", .dict [("htf_trend_aligned", .bool false), ("zone_touch", .bool true),
      ("bbma_confirm", .bool false), ("rsi_divergence", .bool false), ("regime_ok", .bool true),
      ("meta_label_ok", .bool false)]),
    ("p_win", .null), ("status", .str "proposed")]

def signalText : String :=
  "\x7b\"id\": \"5f0c\", \"created_ts\": \"2024-01-01T00:00:00Z\", " ++
    "\"symbol\": \"Volatility 75 Index\", \"ltf_timeframe\": \"M5\", \"direction\": \"BUY\", " ++
    "\"entry\": 100.0, \"sl\": 99.5, \"tp1\": 101.0, \"tp2\": 101.5, \"score\": 7, " ++
    "\"max_score\": 7, \"components\": \x7b\"htf_trend_aligned\": false, " ++
    "\"zone_touch\": true, \"bbma_confirm\": false, \"rsi_divergence\": false, " ++
    "\"regime_ok\": true, \"meta_label_ok\": false\x7d, \"p_win\": null, " ++
    "\"status\": \"proposed\"\x7d"

def zoneFields : List (String × Json) :=
  [("id", .str "9e1b"), ("top", .float (.finite 100)), ("kind", .str "demand"), ("score", .int 4),
    ("state", .str "fresh"), ("bottom", .float (.finite (199 / 2))), ("touches", .int 0),
    ("created_ts", .str "2024-01-01T00:00:00Z")]

def floats : List (ℚ × String) :=
  [(1 / 4, "0.25"), (199 / 2, "99.5"), (100, "100.0"), (101, "101.0"), (203 / 2, "101.5")]

def isoformat (ts : Timestamp) : String :=
  if ts = 1704067200000000 then "2024-01-01T00:00:00Z"
  else String.ofList ((if ts < 0 then '-' else '+') :: List.replicate ts.natAbs 'I')

def laxDatetime : Json → Option Timestamp
  | .str text =>
      match text.toList with
      | '-' :: strokes => some (-strokes.length)
      | '+' :: strokes => some strokes.length
      | _ => if text = "2024-01-01T00:00:00Z" then some 1704067200000000 else none
  | _ => none

open Classical in
noncomputable def formats : TextFormats where
  dumps := fun document => if document = signalJson then some signalText else none
  loads := fun text =>
    if text = signalText then .ok signalJson else .error (.jsonDecodeError "Expecting value")
  intText := fun value => if value = 30 then some "30" else none
  floatText := fun
    | .finite value => floats.lookup value
    | _ => none
  repr := fun _ => none
  int := fun text => if text = "30" then some 30 else none
  float := fun value => some (.finite value)
  isoformat := isoformat
  laxInt := fun text => if text = "30" then some 30 else none
  laxFloat := fun text =>
    (floats.find? fun entry => entry.2 = text).map fun entry => .finite entry.1
  laxDatetime := laxDatetime

theorem inverse : formats.Inverse where
  json := by
    intro document text dumped
    simp only [formats, Option.ite_none_right_eq_some, Option.some.injEq] at dumped ⊢
    rw [if_pos dumped.2.symm, dumped.1]
  int := by
    intro value text written
    simp only [formats, Option.ite_none_right_eq_some, Option.some.injEq] at written ⊢
    exact ⟨written.2.symm, written.1.symm⟩
  laxInt := by
    intro value text written
    simp only [formats, Option.ite_none_right_eq_some, Option.some.injEq] at written ⊢
    exact ⟨written.2.symm, written.1.symm⟩
  laxFloat := by
    rintro _ text ⟨value, rfl, _⟩ written
    have known : (value, text) ∈ floats := by
      obtain ⟨before, after, same, _⟩ := List.lookup_eq_some_iff.mp written
      rw [same]
      simp
    simp only [floats, List.mem_cons, Prod.mk.injEq, List.not_mem_nil, or_false] at known
    rcases known with ⟨rfl, rfl⟩ | ⟨rfl, rfl⟩ | ⟨rfl, rfl⟩ | ⟨rfl, rfl⟩ | ⟨rfl, rfl⟩ <;> rfl
  laxDatetime := by
    intro ts _
    by_cases same : ts = 1704067200000000
    · subst same
      rfl
    · by_cases early : ts < 0
      · have size : -(ts.natAbs : ℤ) = ts := by
          rw [Int.ofNat_natAbs_of_nonpos early.le, neg_neg]
        simpa [formats, isoformat, laxDatetime, same, early] using size
      · have size : (ts.natAbs : ℤ) = ts := Int.natAbs_of_nonneg (not_lt.mp early)
        simpa [formats, isoformat, laxDatetime, same, early] using size
  float := fun _ _ => rfl

def fields : Fields :=
  [("idempotency_key", "5f0c"), ("signal_id", "5f0c"), ("symbol", "Volatility 75 Index"),
    ("direction", "BUY"), ("lots", "0.25"), ("entry", "100.0"), ("sl", "99.5"), ("tp", "101.0"),
    ("deviation_points", "30"), ("correlation_id", "c1")]

noncomputable def consumer : Gate.RiskConsumer where
  settings := {}
  codec := formats.signalCodec "e2"
  floatOf := formats.laxFloat

def row : FeatureRow where
  ts := 1704067200000000
  close := some (.finite 100)
  atr := some (.finite 1)
  rsi := some (.finite 50)
  ema50 := some (.finite 100)
  ema200 := some (.finite 100)
  zones := .list [.dict zoneFields]

end TextFormats.Sample

end Vix75
