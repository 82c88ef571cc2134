import Vix75.ProgramRuns
import Vix75.RegimeChecks
import Vix75.TrainingChecks

/-! The regime that the inference worker caches for a stored feature history: the posteriors that
`_latest_feature_row` takes for the rows of the feature matrix, and what is written from them. -/

namespace Vix75

open EffectProgram PyMath Training

namespace Inference

def Posterior.Normalised (posterior : Posterior) : Prop :=
  ∃ values : List ℚ, posterior.probabilities = values.map .finite ∧ values.sum = 1

/-- hmmlearn gives a posterior to each row of a sequence, and each sums to one. -/
structure HmmLibrary (F : Type) where
  Model : Type
  predictProba : Model → List (RegimeRow F) → List Posterior
  length_predictProba : ∀ model rows, (predictProba model rows).length = rows.length
  normalised : ∀ model rows, ∀ posterior ∈ predictProba model rows, posterior.Normalised

structure RowReader (F : Type) where
  numerics : Numerics F
  library : HmmLibrary F
  model : library.Model
  floatOf : F → PyFloat
  isoOf : Timestamp → String

def inferenceMatrix {F : Type} (rows : List (Snapshot F)) : List (Stamped (List F)) :=
  fetchFeatureMatrix (tailSlice 64 rows)

namespace RowReader

variable {F : Type} [Add F] [Sub F] [Mul F] [Div F] [LE F] [DecidableLE F] [PyMath F]
variable (reader : RowReader F) (rows : List (Snapshot F))

def hmmMatrix : Except PyError (List (Stamped (RegimeRow F))) :=
  buildRegimeMatrix reader.numerics (fetchCloseAtr rows)

def predicted (hmmX : List (Stamped (RegimeRow F))) : List Posterior :=
  reader.library.predictProba reader.model
    ((tailSlice (inferenceMatrix rows).length hmmX).map Stamped.value)

def latestFeatureRow : Except PyError (Option InferenceRow) :=
  let matrix := inferenceMatrix rows
  if matrix.length = 0 then .ok none
  else do
    let hmmX ← reader.hmmMatrix rows
    let probs := if matrix.length ≤ hmmX.length then reader.predicted rows hmmX
      else List.replicate matrix.length .zeros
    let n := min matrix.length probs.length
    let alignedTs := tailSlice n (matrix.map Stamped.ts)
    .ok (some {
      tsIso := (alignedTs.getLast?.map reader.isoOf).getD ""
      matrix := (tailSlice n matrix).map fun row => row.value.map reader.floatOf
      probs := tailSlice n probs })

def SameNewest (hmmX : List (Stamped (RegimeRow F))) : Prop :=
  ∃ newest bar, hmmX.getLast? = some newest ∧ (inferenceMatrix rows).getLast? = some bar ∧
    newest.ts = bar.ts

/-- The posterior that the model gives to the newest bar of the feature matrix. -/
def NewestPosterior (posterior : Posterior) : Prop :=
  ∃ hmmX, reader.hmmMatrix rows = .ok hmmX ∧ SameNewest rows hmmX ∧
    (reader.predicted rows hmmX).getLast? = some posterior

end RowReader

/-- What a document of `regime:current` says of a posterior. -/
def RegimeOrder.Publishes (order : RegimeOrder) (posterior : Posterior) (document : Json) : Prop :=
  ∃ label probabilities, order.labelByState (argmax posterior.probabilities) = some label ∧
    order.probabilities posterior = .ok probabilities ∧
    document.item? "regime" = some (.str label) ∧
    document.item? "probabilities" = some (.list (probabilities.map Json.float))

section Publishing

variable {order : RegimeOrder} {posterior other : Posterior} {document : Json}

theorem publishes_regimeEntry {symbol timeframe tsIso correlationId : String}
    (entry : regimeEntry order posterior symbol timeframe tsIso correlationId = .ok document) :
    order.Publishes posterior document := by
  obtain ⟨label, _, labelled⟩ := order.label_of_state posterior.argmax_lt_three
  obtain ⟨probabilities, found⟩ := order.probabilities_ok posterior
  simp only [regimeEntry, labelled, found, bind, Except.bind, Option.getD_some,
    Except.ok.injEq] at entry
  subst entry
  exact ⟨label, probabilities, labelled, found, by simp [Json.item?, List.lookup_cons],
    by simp [Json.item?, List.lookup_cons]⟩

theorem Posterior.probabilities_eq (posterior : Posterior) :
    posterior.probabilities = [posterior.at 0, posterior.at 1, posterior.at 2] := by
  obtain ⟨probabilities, size⟩ := posterior
  match probabilities, size with
  | [first, second, third], _ => rfl

theorem lookup_of_mem {κ α : Type} [BEq κ] [LawfulBEq κ] {entries : List (κ × α)}
    {entry : κ × α} (unique : (entries.map Prod.fst).Nodup) (member : entry ∈ entries) :
    entries.lookup entry.1 = some entry.2 := by
  induction entries with
  | nil => cases member
  | cons first rest ih =>
      rw [List.map_cons, List.nodup_cons] at unique
      rw [List.lookup_cons]
      rcases List.mem_cons.mp member with rfl | later
      · rw [beq_self_eq_true]
      · have apart : (entry.1 == first.1) = false :=
          beq_false_of_ne fun same => unique.1 (same ▸ List.mem_map_of_mem later)
        rw [apart]
        exact ih unique.2 later

theorem RegimeOrder.label_state (order : RegimeOrder) {state : ℕ} (known : state < 3) :
    ∃ label ∈ ["S0", "S1", "S2"], order.state label = .ok state := by
  obtain ⟨entry, member, rfl⟩ := order.entry_of_state known
  have unique : (order.entries.map Prod.fst).Nodup := order.labels.nodup_iff.mpr (by decide)
  refine ⟨entry.1, order.labels.mem_iff.mp (List.mem_map_of_mem member), ?_⟩
  rw [RegimeOrder.state, lookup_of_mem unique member]

theorem RegimeOrder.Publishes.probabilities_unique (first : order.Publishes posterior document)
    (second : order.Publishes other document) :
    posterior.probabilities = other.probabilities := by
  obtain ⟨_, written, _, ok, _, shown⟩ := first
  obtain ⟨_, written', _, ok', _, shown'⟩ := second
  have same : written = written' := by
    rw [shown, Option.some.injEq, Json.list.injEq] at shown'
    exact List.map_injective_iff.mpr (fun _ _ => Json.float.inj) shown'
  subst same
  obtain ⟨range, atRange⟩ := order.state_of_label "S0" (by simp)
  obtain ⟨up, atUp⟩ := order.state_of_label "S1" (by simp)
  obtain ⟨down, atDown⟩ := order.state_of_label "S2" (by simp)
  simp only [RegimeOrder.probabilities, atRange, atUp, atDown, bind, Except.bind,
    Except.ok.injEq] at ok ok'
  rw [← ok, List.cons.injEq, List.cons.injEq, List.cons.injEq] at ok'
  have entry (state : ℕ) (known : state < 3) : posterior.at state = other.at state := by
    obtain ⟨label, among, leads⟩ := order.label_state known
    simp only [List.mem_cons, List.not_mem_nil, or_false] at among
    rcases among with rfl | rfl | rfl
    · rw [← Except.ok.inj (atRange.symm.trans leads)]
      exact ok'.1.symm
    · rw [← Except.ok.inj (atUp.symm.trans leads)]
      exact ok'.2.1.symm
    · rw [← Except.ok.inj (atDown.symm.trans leads)]
      exact ok'.2.2.1.symm
  rw [posterior.probabilities_eq, other.probabilities_eq, entry 0 (by omega), entry 1 (by omega),
    entry 2 (by omega)]

theorem zeros_not_normalised {posterior : Posterior}
    (same : posterior.probabilities = Posterior.zeros.probabilities) : ¬posterior.Normalised := by
  rintro ⟨values, finite, sum⟩
  have zeros : values = [0, 0, 0] := by
    refine List.map_injective_iff.mpr (fun _ _ => PyFloat.finite.inj) (finite.symm.trans same)
  rw [zeros] at sum
  exact absurd sum (by decide +kernel)

end Publishing

section Reading

variable {F : Type} {reader : RowReader F} {rows : List (Snapshot F)}
variable {hmmX : List (Stamped (RegimeRow F))}

theorem length_predicted (some_ : 0 < (inferenceMatrix rows).length) :
    (reader.predicted rows hmmX).length = min (inferenceMatrix rows).length hmmX.length := by
  rw [RowReader.predicted, reader.library.length_predictProba, List.length_map,
    length_tailSlice _ (by omega), Int.toNat_natCast]

def RowReader.used (reader : RowReader F) (rows : List (Snapshot F))
    (hmmX : List (Stamped (RegimeRow F))) : Posterior :=
  if (inferenceMatrix rows).length ≤ hmmX.length then
    (reader.predicted rows hmmX).getLast?.getD .zeros
  else .zeros

theorem used_normalised (long : (inferenceMatrix rows).length ≤ hmmX.length)
    (some_ : 0 < (inferenceMatrix rows).length) :
    (reader.predicted rows hmmX).getLast? = some (reader.used rows hmmX) ∧
      (reader.used rows hmmX).Normalised := by
  have present : reader.predicted rows hmmX ≠ [] := by
    refine List.ne_nil_of_length_pos ?_
    rw [length_predicted some_]
    omega
  obtain ⟨posterior, last⟩ := Option.isSome_iff_exists.mp (List.getLast?_isSome.mpr present)
  rw [RowReader.used, if_pos long, last, Option.getD_some]
  exact ⟨rfl, reader.library.normalised _ _ posterior (List.mem_of_getLast? last)⟩

variable [Add F] [Sub F] [Mul F] [Div F] [PyMath F]

theorem latestFeatureRow_cases {row : InferenceRow}
    (read : reader.latestFeatureRow rows = .ok (some row)) :
    0 < (inferenceMatrix rows).length ∧ ∃ hmmX, reader.hmmMatrix rows = .ok hmmX ∧
      row.probs.getLast?.getD .zeros = reader.used rows hmmX := by
  unfold RowReader.latestFeatureRow at read
  dsimp only at read
  split at read
  next empty => cases read
  next some_ =>
    have some_ : 0 < (inferenceMatrix rows).length := by omega
    refine ⟨some_, ?_⟩
    cases built : reader.hmmMatrix rows with
    | error error =>
        rw [built] at read
        cases read
    | ok hmmX =>
        rw [built] at read
        obtain rfl := Option.some.inj (Except.ok.inj read)
        refine ⟨hmmX, rfl, ?_⟩
        dsimp only [RowReader.used]
        split
        next long =>
          have length : (reader.predicted rows hmmX).length = _ := length_predicted some_
          rw [getLast?_tailSlice _ (by omega)]
        next short =>
          rw [getLast?_tailSlice _ (by rw [List.length_replicate]; omega),
            List.getLast?_replicate, if_neg (by omega), Option.getD_some]

end Reading

section Runs

variable {F : Type} [Add F] [Sub F] [Mul F] [Div F] [PyMath F]

def history (store : FeatureStore F) (decoded : Fields) : List (Snapshot F) :=
  store.featureRows ((decoded.get? "symbol").getD "") ((decoded.get? "timeframe").getD "")

abbrev answer (reader : RowReader F) (store : FeatureStore F) :=
  answers fun symbol timeframe => reader.latestFeatureRow (store.featureRows symbol timeframe)

/-- An event whose inference goes through up to the first document. -/
structure Due (reader : RowReader F) (metaBundle : Option MetaBundle) (decoded : Fields)
    (rows : List (Snapshot F)) : Prop where
  timeframe : (decoded.get? "timeframe").getD "" ∈ inferenceTimeframes
  symbol : (decoded.get? "symbol").isSome
  predicts : ∃ bundle row prediction, metaBundle = some bundle ∧
    reader.latestFeatureRow rows = .ok (some row) ∧ bundle.predict row = .ok prediction

/-- A document that is published for a posterior of the newest bar, and for no trend where
there is none. -/
structure FailsClosed (reader : RowReader F) (order : RegimeOrder) (rows : List (Snapshot F))
    (document : Json) : Prop where
  posterior : ∃ posterior, posterior.Normalised ∧ reader.NewestPosterior rows posterior ∧
    order.Publishes posterior document
  noTrend : ∀ hmmX, reader.hmmMatrix rows = .ok hmmX → hmmX.length < (inferenceMatrix rows).length →
    ∀ label ∈ ["S1", "S2"], document.item? "regime" ≠ some (.str label)

variable {reader : RowReader F} {store : FeatureStore F} {order : RegimeOrder}
variable {metaBundle : Option MetaBundle} {decoded : Fields}
variable {written after : List (String × Json)}

theorem publishes_of_runs {result : Except PyError Unit} {document : Json}
    (ran : Prog.Runs (answer reader store) [] (InferenceWorker.handle ⟨some order, metaBundle⟩
      decoded) result after) (sent : (regimeKey, document) ∈ after) :
    Due reader metaBundle decoded (history store decoded) ∧ ∃ row,
      reader.latestFeatureRow (history store decoded) = .ok (some row) ∧
        order.Publishes (row.probs.getLast?.getD .zeros) document := by
  obtain ⟨wanted, symbol, bundle, row, prediction, _, named, loaded, read, predicted, encoded⟩ :=
    runs_handle ran sent
  have read : reader.latestFeatureRow (history store decoded) = .ok (some row) := by
    rw [history, named, Option.getD_some]
    exact read
  exact ⟨⟨wanted, by rw [named]; rfl, bundle, row, prediction, loaded, read, predicted⟩, row, read,
    publishes_regimeEntry encoded⟩

theorem writes_of_due (order : RegimeOrder)
    (due : Due reader metaBundle decoded (history store decoded)) :
    ∃ result after document, Prog.Runs (answer reader store) []
      (InferenceWorker.handle ⟨some order, metaBundle⟩ decoded) result after ∧
        (regimeKey, document) ∈ after := by
  obtain ⟨wanted, named, bundle, row, prediction, rfl, read, predicted⟩ := due
  obtain ⟨symbol, named⟩ := Option.isSome_iff_exists.mp named
  rw [history, named, Option.getD_some] at read
  exact exists_write wanted named read predicted

theorem short_writes_first_state (order : RegimeOrder)
    (due : Due reader metaBundle decoded (history store decoded))
    {hmmX : List (Stamped (RegimeRow F))}
    (built : reader.hmmMatrix (history store decoded) = .ok hmmX)
    (short : hmmX.length < (inferenceMatrix (history store decoded)).length) :
    ∃ result after document, Prog.Runs (answer reader store) []
      (InferenceWorker.handle ⟨some order, metaBundle⟩ decoded) result after ∧
        (regimeKey, document) ∈ after ∧ ∃ label, order.labelByState 0 = some label ∧
          document.item? "regime" = some (.str label) := by
  obtain ⟨result, after, document, ran, sent⟩ := writes_of_due order due
  refine ⟨result, after, document, ran, sent, ?_⟩
  obtain ⟨_, row, read, label, _, labelled, _, regime, _⟩ := publishes_of_runs ran sent
  obtain ⟨_, other, same, used⟩ := latestFeatureRow_cases read
  obtain rfl := Except.ok.inj (built.symm.trans same)
  rw [used, RowReader.used, if_neg (by omega)] at labelled
  have first : argmax Posterior.zeros.probabilities = 0 := by decide +kernel
  rw [first] at labelled
  exact ⟨label, labelled, regime⟩

end Runs

section Inferring

variable {F : Type} [Add F] [Sub F] [Mul F] [Div F] [PyMath F]

/-- Every regime that is written for an event rests on a posterior of the newest bar exactly if
the event is not due, or the HMM matrix has a row for each row of the feature matrix and ends at
the same bar. -/
theorem regime_fails_closed_iff (reader : RowReader F) (order : RegimeOrder)
    (metaBundle : Option MetaBundle) (store : FeatureStore F) (decoded : Fields) :
    (∀ result after, Prog.Runs (answer reader store) []
      (InferenceWorker.handle ⟨some order, metaBundle⟩ decoded) result after →
        ∀ document, (regimeKey, document) ∈ after →
          FailsClosed reader order (history store decoded) document) ↔
      (Due reader metaBundle decoded (history store decoded) →
        ∃ hmmX, reader.hmmMatrix (history store decoded) = .ok hmmX ∧
          (inferenceMatrix (history store decoded)).length ≤ hmmX.length ∧
          RowReader.SameNewest (history store decoded) hmmX) := by
  constructor
  · intro closed due
    obtain ⟨result, after, document, ran, sent⟩ := writes_of_due order due
    obtain ⟨⟨posterior, normalised, ⟨hmmX, built, same, _⟩, published⟩, _⟩ :=
      closed result after ran document sent
    refine ⟨hmmX, built, ?_, same⟩
    by_contra short
    obtain ⟨_, row, read, shown⟩ := publishes_of_runs ran sent
    obtain ⟨_, other, built', used⟩ := latestFeatureRow_cases read
    obtain rfl := Except.ok.inj (built.symm.trans built')
    rw [used, RowReader.used, if_neg short] at shown
    exact zeros_not_normalised (published.probabilities_unique shown) normalised
  · intro covered result after ran document sent
    obtain ⟨due, row, read, published⟩ := publishes_of_runs ran sent
    obtain ⟨hmmX, built, long, same⟩ := covered due
    obtain ⟨some_, other, built', used⟩ := latestFeatureRow_cases read
    obtain rfl := Except.ok.inj (built.symm.trans built')
    have backed : (reader.predicted _ hmmX).getLast? = _ ∧ _ := used_normalised long some_
    obtain ⟨last, normalised⟩ := backed
    rw [used] at published
    refine ⟨⟨_, normalised, ⟨hmmX, built, same, last⟩, published⟩, fun shorter again short => ?_⟩
    obtain rfl := Except.ok.inj (built.symm.trans again)
    omega

end Inferring

end Inference

namespace Sample

open Inference

def uniform : Posterior := ⟨[.finite (1 / 3), .finite (1 / 3), .finite (1 / 3)], rfl⟩

def uniformHmm : HmmLibrary ℚ where
  Model := Unit
  predictProba := fun _ rows => rows.map fun _ => uniform
  length_predictProba := fun _ _ => List.length_map _
  normalised := by
    intro _ rows posterior member
    obtain ⟨_, _, rfl⟩ := List.mem_map.mp member
    exact ⟨[1 / 3, 1 / 3, 1 / 3], rfl, by decide +kernel⟩

def rowReader : RowReader ℚ where
  numerics := approximate
  library := uniformHmm
  model := ()
  floatOf := .finite
  isoOf := toString

def youngTable : FeatureStore ℚ where
  features := ⟨(List.range 23).map flatRow, by decide +kernel⟩

def featureEvent : Fields := [("symbol", "V75"), ("timeframe", "M15"), ("correlation_id", "c-1")]

theorem youngTable_short : (inferenceMatrix (history youngTable featureEvent)).length = 23 ∧
    (rowReader.hmmMatrix (history youngTable featureEvent)).toOption.map List.length = some 2 := by
  decide +kernel

theorem youngTable_due :
    Due rowReader (some evenOdds) featureEvent (history youngTable featureEvent) where
  timeframe := by decide
  symbol := by decide
  predicts := by
    have rows := youngTable_short
    cases built : rowReader.hmmMatrix (history youngTable featureEvent) with
    | error error =>
        rw [built] at rows
        cases rows.2
    | ok hmmX =>
        obtain ⟨row, read⟩ : ∃ row, rowReader.latestFeatureRow (history youngTable featureEvent) =
            .ok (some row) := by
          rw [RowReader.latestFeatureRow, if_neg (by rw [rows.1]; decide), built]
          exact ⟨_, rfl⟩
        exact ⟨evenOdds, row, _, rfl, read, rfl⟩

end Sample

namespace Inference

/-- 23 complete rows give two posteriors at most; the down-trend is written for the newest. -/
theorem trend_without_posterior : ∃ hmmX,
    Sample.rowReader.hmmMatrix (history Sample.youngTable Sample.featureEvent) = .ok hmmX ∧
      hmmX.length < (inferenceMatrix (history Sample.youngTable Sample.featureEvent)).length ∧
      ∃ result after document, Prog.Runs (answer Sample.rowReader Sample.youngTable) []
        (InferenceWorker.handle ⟨some Sample.regimeOrder, some Sample.evenOdds⟩
          Sample.featureEvent) result after ∧
        (regimeKey, document) ∈ after ∧ document.item? "regime" = some (.str "S2") := by
  have rows := Sample.youngTable_short
  cases built : Sample.rowReader.hmmMatrix (history Sample.youngTable Sample.featureEvent) with
  | error error =>
      rw [built] at rows
      cases rows.2
  | ok hmmX =>
      rw [built] at rows
      have two : hmmX.length = 2 := Option.some.inj rows.2
      have short : hmmX.length <
          (inferenceMatrix (history Sample.youngTable Sample.featureEvent)).length := by omega
      obtain ⟨result, after, document, ran, sent, label, first, regime⟩ :=
        short_writes_first_state Sample.regimeOrder Sample.youngTable_due built short
      have down : Sample.regimeOrder.labelByState 0 = some "S2" := by decide +kernel
      obtain rfl := Option.some.inj (down.symm.trans first)
      exact ⟨hmmX, rfl, short, result, after, document, ran, sent, regime⟩

end Inference

end Vix75
