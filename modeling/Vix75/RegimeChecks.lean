import Vix75.ProgramRuns
import Vix75.RegimeCore
import Vix75.SignalConsumer

/-! The regime contract between ml-service and signal-service: what the worker caches and
what signal-service reads out of it. -/

namespace Vix75

open EffectProgram

namespace Inference

theorem argmaxFrom_lt (best : PyFloat) {bestIndex index : ℕ} (rest : List PyFloat)
    (earlier : bestIndex < index) :
    argmaxFrom best bestIndex index rest < index + rest.length := by
  induction rest generalizing best bestIndex index with
  | nil => simpa [argmaxFrom] using earlier
  | cons value rest ih =>
      rw [argmaxFrom, List.length_cons]
      split
      · have bound := ih value (Nat.lt_add_one index)
        omega
      · have bound := ih best (Nat.lt_add_right 1 earlier)
        omega

theorem argmax_lt {values : List PyFloat} (nonempty : values ≠ []) :
    argmax values < values.length := by
  cases values with
  | nil => exact absurd rfl nonempty
  | cons first rest =>
      have bound := argmaxFrom_lt first rest Nat.zero_lt_one
      rw [argmax, List.length_cons]
      omega

theorem Posterior.argmax_lt_three (posterior : Posterior) :
    argmax posterior.probabilities < 3 := by
  have nonempty : posterior.probabilities ≠ [] := by
    intro empty
    have size := posterior.size
    simp [empty] at size
  have bound := argmax_lt nonempty
  rwa [posterior.size] at bound

namespace RegimeOrder

variable (order : RegimeOrder)

theorem entry_of_state {state : ℕ} (known : state < 3) :
    ∃ entry ∈ order.entries, entry.2 = state := by
  have mapped : state ∈ order.entries.map Prod.snd := by
    refine order.states.mem_iff.mpr ?_
    simp only [List.mem_cons, List.not_mem_nil, or_false]
    omega
  exact List.mem_map.mp mapped

theorem label_of_state {state : ℕ} (known : state < 3) :
    ∃ label ∈ ["S0", "S1", "S2"], order.labelByState state = some label := by
  obtain ⟨entry, member, rfl⟩ := order.entry_of_state known
  have found : (order.entries.reverse.find? fun other => other.2 = entry.2).isSome = true :=
    List.find?_isSome.mpr ⟨entry, List.mem_reverse.mpr member, by simp⟩
  obtain ⟨chosen, first⟩ := Option.isSome_iff_exists.mp found
  have inside : chosen ∈ order.entries := List.mem_reverse.mp (List.mem_of_find?_eq_some first)
  refine ⟨chosen.1, order.labels.mem_iff.mp (List.mem_map_of_mem inside), ?_⟩
  rw [labelByState, first, Option.map_some]

theorem state_of_label (label : String) (known : label ∈ ["S0", "S1", "S2"]) :
    ∃ state, order.state label = .ok state := by
  have mapped : label ∈ order.entries.map Prod.fst := order.labels.mem_iff.mpr known
  unfold state
  cases found : order.entries.lookup label with
  | some state => exact ⟨state, rfl⟩
  | none =>
      obtain ⟨entry, member, rfl⟩ := List.mem_map.mp mapped
      have missing := List.lookup_eq_none_iff.mp found entry member
      simp at missing

theorem probabilities_ok (posterior : Posterior) :
    ∃ probabilities, order.probabilities posterior = .ok probabilities := by
  obtain ⟨range, atRange⟩ := order.state_of_label "S0" (by simp)
  obtain ⟨up, atUp⟩ := order.state_of_label "S1" (by simp)
  obtain ⟨down, atDown⟩ := order.state_of_label "S2" (by simp)
  refine ⟨[posterior.at range, posterior.at up, posterior.at down], ?_⟩
  simp [probabilities, atRange, atUp, atDown, bind, Except.bind]

end RegimeOrder

theorem predictRegime_regime (order : RegimeOrder) (posterior : Posterior) :
    ∃ (state : RegimeState) (probabilities : List PyFloat), predictRegime order posterior =
      .ok (state.value, argmax posterior.probabilities, probabilities) := by
  obtain ⟨label, known, labelled⟩ := order.label_of_state posterior.argmax_lt_three
  obtain ⟨probabilities, found⟩ := order.probabilities_ok posterior
  have named : ∃ state, shortToRegime.lookup label = some state := by
    simp only [List.mem_cons, List.not_mem_nil, or_false] at known
    rcases known with rfl | rfl | rfl
    · exact ⟨.s0Range, by decide⟩
    · exact ⟨.s1TrendUp, by decide⟩
    · exact ⟨.s2TrendDown, by decide⟩
  obtain ⟨state, is⟩ := named
  exact ⟨state, probabilities, by simp [predictRegime, labelled, found, is, bind, Except.bind]⟩

theorem regimeEntry_label (order : RegimeOrder) (posterior : Posterior)
    (symbol timeframe tsIso correlationId : String) :
    ∃ entries, regimeEntry order posterior symbol timeframe tsIso correlationId =
        .ok (.dict entries) ∧
      ∃ label ∈ ["S0", "S1", "S2"], entries.lookup "regime" = some (.str label) := by
  obtain ⟨label, known, labelled⟩ := order.label_of_state posterior.argmax_lt_three
  obtain ⟨probabilities, found⟩ := order.probabilities_ok posterior
  refine ⟨_, by simp [regimeEntry, labelled, found, bind, Except.bind]; rfl, label, known, ?_⟩
  simp [List.lookup_cons]

section Runs

/-- What the commands may answer, where `latest` is what the newest row is read from, and the
documents that have been sent to redis since. -/
def answers (latest : String → String → Except PyError (Option InferenceRow))
    (written : List (String × Json)) :
    (effect : InferenceEffect) → Except PyError effect.Reply → List (String × Json) → Prop
  | .uuid4, _, after => after = written
  | .latestFeatureRow symbol timeframe, reply, after => after = written ∧
      (reply = latest symbol timeframe ∨ ∃ error, reply = .error error)
  | .set key document, _, after => after = written ++ [(key, document)]

variable {latest : String → String → Except PyError (Option InferenceRow)} {order : RegimeOrder}
variable {metaBundle : Option MetaBundle} {bundle : MetaBundle} {decoded : Fields}
variable {row : InferenceRow} {written after : List (String × Json)}

theorem runs_getOrCreateCorrelationId {result : Except PyError String}
    (ran : Prog.Runs (answers latest) written (getOrCreateCorrelationId decoded) result after) :
    after = written := by
  unfold getOrCreateCorrelationId at ran
  split at ran
  next raw _ => exact ran.2
  next => exact Prog.runs_perform.mp ran

theorem runs_cache {symbol timeframe correlationId : String} {result : Except PyError Unit}
    {document : Json} (ran : Prog.Runs (answers latest) [] (InferenceWorker.cache order bundle row
      symbol timeframe correlationId) result after) (sent : (regimeKey, document) ∈ after) :
    (∃ prediction, bundle.predict row = .ok prediction) ∧
      regimeEntry order (row.probs.getLast?.getD .zeros) symbol timeframe row.tsIso correlationId =
        .ok document := by
  unfold InferenceWorker.cache at ran
  dsimp only at ran
  cases predicted : bundle.predict row with
  | error error =>
      rw [predicted] at ran
      obtain ⟨_, rfl⟩ := ran
      cases sent
  | ok prediction =>
      refine ⟨⟨prediction, rfl⟩, ?_⟩
      rw [predicted] at ran
      cases encoded : regimeEntry order (row.probs.getLast?.getD .zeros) symbol timeframe row.tsIso
          correlationId with
      | error error =>
          rw [encoded] at ran
          obtain ⟨_, rfl⟩ := ran
          cases sent
      | ok entry =>
          rw [encoded] at ran
          have apart : regimeKey ≠ metaKey := by decide
          have first : ∀ middle, middle = [] ++ [(regimeKey, entry)] →
              (regimeKey, document) ∈ middle → document = entry := by
            rintro middle rfl member
            exact (Prod.mk.inj (List.mem_singleton.mp member)).2
          refine congrArg Except.ok ?_
          rcases Prog.runs_perform_bind.mp ran with ⟨_, middle, here, ran⟩ | ⟨_, here, _⟩
          · have last := Prog.runs_perform.mp ran
            subst last
            rcases List.mem_append.mp sent with earlier | later
            · exact (first middle here earlier).symm
            · exact absurd (Prod.mk.inj (List.mem_singleton.mp later)).1 apart
          · exact (first after here sent).symm

theorem runs_handle {result : Except PyError Unit} {document : Json}
    (ran : Prog.Runs (answers latest) [] (InferenceWorker.handle ⟨some order, metaBundle⟩ decoded)
      result after) (sent : (regimeKey, document) ∈ after) :
    (decoded.get? "timeframe").getD "" ∈ inferenceTimeframes ∧
      ∃ symbol bundle row prediction correlationId, decoded.get? "symbol" = some symbol ∧
        metaBundle = some bundle ∧
        latest symbol ((decoded.get? "timeframe").getD "") = .ok (some row) ∧
        bundle.predict row = .ok prediction ∧
        regimeEntry order (row.probs.getLast?.getD .zeros) symbol
          ((decoded.get? "timeframe").getD "") row.tsIso correlationId = .ok document := by
  unfold InferenceWorker.handle at ran
  rcases Prog.runs_bind.mp ran with ⟨correlationId, middle, drawn, ran⟩ | ⟨_, drawn, _⟩
  swap
  · rw [runs_getOrCreateCorrelationId drawn] at sent
    cases sent
  have fresh := runs_getOrCreateCorrelationId drawn
  subst fresh
  dsimp only at ran
  split at ran
  next other =>
    obtain ⟨_, rfl⟩ := ran
    cases sent
  next wanted =>
    refine ⟨not_not.mp wanted, ?_⟩
    cases metaBundle with
    | none =>
        obtain ⟨_, rfl⟩ := ran
        cases sent
    | some bundle =>
        cases named : decoded.get? "symbol" with
        | none =>
            rw [named] at ran
            obtain ⟨_, rfl⟩ := ran
            cases sent
        | some symbol =>
            rw [named] at ran
            rcases Prog.runs_perform_bind.mp ran with ⟨row, middle, ⟨rfl, read⟩, ran⟩ |
              ⟨_, ⟨rfl, _⟩, _⟩
            swap
            · cases sent
            cases row with
            | none =>
                obtain ⟨_, rfl⟩ := ran
                cases sent
            | some row =>
                have read : latest symbol ((decoded.get? "timeframe").getD "") =
                    .ok (some row) := by
                  rcases read with same | ⟨error, failed⟩
                  · exact same.symm
                  · cases failed
                obtain ⟨⟨prediction, predicted⟩, encoded⟩ := runs_cache ran sent
                exact ⟨symbol, bundle, row, prediction, correlationId, rfl, rfl, read, predicted,
                  encoded⟩

theorem exists_write {symbol : String} {prediction : PyFloat × PyFloat}
    (wanted : (decoded.get? "timeframe").getD "" ∈ inferenceTimeframes)
    (named : decoded.get? "symbol" = some symbol)
    (read : latest symbol ((decoded.get? "timeframe").getD "") = .ok (some row))
    (predicted : bundle.predict row = .ok prediction) :
    ∃ result after document, Prog.Runs (answers latest) []
      (InferenceWorker.handle ⟨some order, some bundle⟩ decoded) result after ∧
        (regimeKey, document) ∈ after := by
  obtain ⟨correlationId, drawn⟩ : ∃ correlationId, Prog.Runs (answers latest) []
      (getOrCreateCorrelationId decoded) (.ok correlationId) [] := by
    unfold getOrCreateCorrelationId
    split
    next raw _ => exact ⟨raw, rfl, rfl⟩
    next =>
      have given : answers latest [] .uuid4 (.ok "c") [] := rfl
      exact ⟨"c", Prog.runs_perform.mpr given⟩
  obtain ⟨probabilities, found⟩ := order.probabilities_ok (row.probs.getLast?.getD .zeros)
  obtain ⟨document, encoded⟩ : ∃ document, regimeEntry order (row.probs.getLast?.getD .zeros) symbol
      ((decoded.get? "timeframe").getD "") row.tsIso correlationId = .ok document := by
    rw [regimeEntry, found]
    exact ⟨_, rfl⟩
  refine ⟨.ok (), [] ++ [(regimeKey, document)] ++ [(metaKey, metaEntry symbol
    ((decoded.get? "timeframe").getD "") prediction)], document, ?_, by simp⟩
  unfold InferenceWorker.handle
  refine Prog.runs_bind.mpr (.inl ⟨correlationId, [], drawn, ?_⟩)
  dsimp only
  rw [if_neg (not_not.mpr wanted), named]
  refine Prog.runs_perform_bind.mpr (.inl ⟨some row, [], ⟨rfl, .inl read.symm⟩, ?_⟩)
  dsimp only [InferenceWorker.cache]
  rw [predicted, encoded]
  have regimeSent : answers latest [] (.set regimeKey document) (.ok ())
    ([] ++ [(regimeKey, document)]) := rfl
  exact Prog.runs_perform_bind.mpr (.inl ⟨(), _, regimeSent, Prog.runs_perform.mpr rfl⟩)

end Runs

end Inference

theorem short_label_unknown {label : String} (short : label ∈ ["S0", "S1", "S2"]) :
    RegimeState.ofValue label = none := by
  simp only [List.mem_cons, List.not_mem_nil, or_false] at short
  rcases short with rfl | rfl | rfl <;> decide

open Inference in
/-- Whatever the order and the posterior of the row that the worker handles an event by,
signal-service reads an unknown regime out of the entry it caches, where `predict_regime` names
one. -/
theorem cached_regime_unknown {worker : InferenceWorker} {order : RegimeOrder}
    {latest : String → String → Except PyError (Option InferenceRow)} {decoded : Fields}
    {result : Except PyError Unit} {after : List (String × Json)} {raw : String} {entry : Json}
    {loads : String → Except PyError Json} (loaded : worker.regimeBundle = some order)
    (handled : Prog.Runs (answers latest) [] (worker.handle decoded) result after)
    (cached : (regimeKey, entry) ∈ after) (written : loads raw = .ok entry) :
    ∃ (row : InferenceRow) (state : RegimeState) (probabilities : List PyFloat),
      latest ((decoded.get? "symbol").getD "") ((decoded.get? "timeframe").getD "") =
        .ok (some row) ∧
      predictRegime order (row.probs.getLast?.getD .zeros) =
        .ok (state.value, argmax (row.probs.getLast?.getD .zeros).probabilities, probabilities) ∧
      Signalling.regimeOf loads (some raw) = .ok "unknown" ∧ resolveRegime "unknown" = none := by
  obtain ⟨_, metaBundle⟩ := worker
  subst loaded
  obtain ⟨_, symbol, _, row, _, correlationId, named, _, read, _, encoded⟩ :=
    runs_handle handled cached
  obtain ⟨state, probabilities, predicted⟩ :=
    predictRegime_regime order (row.probs.getLast?.getD .zeros)
  obtain ⟨entries, published, label, known, labelled⟩ :=
    regimeEntry_label order (row.probs.getLast?.getD .zeros) symbol
      ((decoded.get? "timeframe").getD "") row.tsIso correlationId
  rw [encoded, Except.ok.injEq] at published
  subst published
  refine ⟨row, state, probabilities, by rw [named]; exact read, predicted, ?_, by decide⟩
  simp [Signalling.regimeOf, Signalling.document, written, bind, Except.bind, Json.item?, labelled,
    short_label_unknown known]

namespace Sample

open Inference

def regimeOrder : RegimeOrder where
  entries := [("S2", 0), ("S0", 1), ("S1", 2)]
  labels := by decide
  states := by decide

def upTrend : Posterior :=
  ⟨[.finite (1 / 10), .finite (2 / 10), .finite (7 / 10)], rfl⟩

def regimeText : String :=
  "\x7b\"symbol\": \"Volatility 75 Index\", \"timeframe\": \"M15\", " ++
  "\"ts\": \"2025-01-01T00:00:00\", \"regime\": \"S1\", \"state\": 2, " ++
  "\"probabilities\": [0.2, 0.7, 0.1], \"correlation_id\": \"c-1\"\x7d"

def regimeJson : Json :=
  .dict [("symbol", .str "Volatility 75 Index"), ("timeframe", .str "M15"),
    ("ts", .str "2025-01-01T00:00:00"), ("regime", .str "S1"), ("state", .int 2),
    ("probabilities", .list [.float (.finite (2 / 10)), .float (.finite (7 / 10)),
      .float (.finite (1 / 10))]), ("correlation_id", .str "c-1")]

def regimeLoads (raw : String) : Except PyError Json :=
  if raw = regimeText then .ok regimeJson else .error (.jsonDecodeError "Expecting value")

theorem regimeJson_cached : regimeEntry regimeOrder upTrend "Volatility 75 Index" "M15"
    "2025-01-01T00:00:00" "c-1" = .ok regimeJson := by
  have best : argmax upTrend.probabilities = 2 := by decide +kernel
  have label : regimeOrder.labelByState 2 = some "S1" := by decide +kernel
  simp only [regimeEntry, best, label, Option.getD_some]
  rfl

def evenOdds : MetaBundle where
  predict := fun _ => .ok (.finite (1 / 2), .finite (1 / 2))

def regimeWorker : InferenceWorker := ⟨some regimeOrder, some evenOdds⟩

def upTrendRow : InferenceRow where
  tsIso := "2025-01-01T00:00:00"
  matrix := []
  probs := [upTrend]

def upTrendEvent : Fields :=
  [("symbol", "Volatility 75 Index"), ("timeframe", "M15"), ("correlation_id", "c-1")]

theorem upTrend_handled :
    Prog.Runs (answers fun _ _ => .ok (some upTrendRow)) [] (regimeWorker.handle upTrendEvent)
      (.ok ()) [(regimeKey, regimeJson), (metaKey, metaEntry "Volatility 75 Index" "M15"
        (.finite (1 / 2), .finite (1 / 2)))] := by
  have drawn : Inference.getOrCreateCorrelationId upTrendEvent = .done "c-1" := by
    have given : upTrendEvent.correlationId = some "c-1" := by decide +kernel
    rw [Inference.getOrCreateCorrelationId, given]
  have wanted : (upTrendEvent.get? "timeframe").getD "" = "M15" := by decide
  have named : upTrendEvent.get? "symbol" = some "Volatility 75 Index" := by decide
  have listed : "M15" ∈ inferenceTimeframes := by decide
  unfold InferenceWorker.handle
  rw [drawn, Prog.done_bind]
  dsimp only
  rw [wanted, if_neg (not_not.mpr listed), named]
  refine Prog.runs_perform_bind.mpr (.inl ⟨some upTrendRow, [], ⟨rfl, .inl rfl⟩, ?_⟩)
  have encoded : regimeEntry regimeOrder (upTrendRow.probs.getLast?.getD .zeros)
      "Volatility 75 Index" "M15" upTrendRow.tsIso "c-1" = .ok regimeJson := regimeJson_cached
  dsimp only [InferenceWorker.cache]
  rw [encoded]
  exact Prog.runs_perform_bind.mpr (.inl ⟨(), _, rfl, Prog.runs_perform.mpr rfl⟩)

end Sample

theorem cached_regime_unknown_upTrend :
    ∃ (state : RegimeState) (probabilities : List PyFloat),
      Inference.predictRegime Sample.regimeOrder Sample.upTrend =
        .ok (state.value, Inference.argmax Sample.upTrend.probabilities, probabilities) ∧
      Signalling.regimeOf Sample.regimeLoads (some Sample.regimeText) = .ok "unknown" ∧
      resolveRegime "unknown" = none := by
  have bundle : Sample.regimeWorker.regimeBundle = some Sample.regimeOrder := rfl
  have written : Sample.regimeLoads Sample.regimeText = .ok Sample.regimeJson := by
    simp [Sample.regimeLoads]
  obtain ⟨row, state, probabilities, read, predicted, unknown⟩ :=
    cached_regime_unknown bundle Sample.upTrend_handled (List.mem_cons_self ..) written
  obtain rfl := Option.some.inj (Except.ok.inj read)
  exact ⟨state, probabilities, predicted, unknown⟩

/-- `predict_regime` says S1_trend_up where signal-service sees an unknown regime. -/
theorem predicted_regime_lost :
    Inference.predictRegime Sample.regimeOrder Sample.upTrend = .ok ("S1_trend_up", 2,
      [.finite (2 / 10), .finite (7 / 10), .finite (1 / 10)]) ∧
    Inference.regimeEntry Sample.regimeOrder Sample.upTrend "Volatility 75 Index" "M15"
      "2025-01-01T00:00:00" "c-1" = .ok Sample.regimeJson ∧
    Signalling.regimeOf Sample.regimeLoads (some Sample.regimeText) = .ok "unknown" := by
  refine ⟨by decide +kernel, Sample.regimeJson_cached, ?_⟩
  have unknown : RegimeState.ofValue "S1" = none := by decide
  simp [Signalling.regimeOf, Signalling.document, Sample.regimeLoads, Sample.regimeJson, bind,
    Except.bind, Json.item?, List.lookup_cons, unknown]

end Vix75
