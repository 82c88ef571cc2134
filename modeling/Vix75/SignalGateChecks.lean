import Vix75.ProgramRuns
import Vix75.PyFloatMath
import Vix75.SignalChecks

/-! Whether every gate stands behind a fired signal, for every content of the caches and
numbers that need not be ordered. -/

namespace Vix75

open EffectProgram PyMath

namespace Signalling

/-- Neither is a NaN, if the number type has one. -/
def Comparable {F : Type} [LT F] [LE F] (left right : F) : Prop := left ≤ right ∨ right < left

section Gates

variable {F : Type} [LT F] [LE F] [DecidableLT F] [DecidableLE F] [PyMath F]

def Active (zone : Zone F) (price : F) : Prop :=
  zone.state ≠ .broken ∧ zone.state ≠ .mitigated ∧ zone.bottom ≤ price ∧ price ≤ zone.top

instance (zone : Zone F) (price : F) : Decidable (Active zone price) :=
  inferInstanceAs (Decidable (_ ∧ _))

def TrendAgrees (direction : Direction) (htfTrend : String) : Prop :=
  direction = .buy ∧ htfTrend = "up" ∨ direction = .sell ∧ htfTrend = "down"

def RegimeAgrees (direction : Direction) (regime : String) (allowS0Fade : Bool) : Prop :=
  direction = .buy ∧ regime = RegimeState.s1TrendUp.value ∨
    direction = .sell ∧ regime = RegimeState.s2TrendDown.value ∨
      regime = RegimeState.s0Range.value ∧ allowS0Fade = true

def FirstActive (ltf : LtfSnapshot F) (kind : ZoneKind) : Prop :=
  ∃ earlier zone later, ltf.zones = earlier ++ zone :: later ∧ Active zone ltf.close ∧
    (∀ other ∈ earlier, ¬Active other ltf.close) ∧ zone.kind = kind

instance (direction : Direction) (htfTrend : String) : Decidable (TrendAgrees direction htfTrend) :=
  inferInstanceAs (Decidable (_ ∨ _))

instance (direction : Direction) (regime : String) (allowS0Fade : Bool) :
    Decidable (RegimeAgrees direction regime allowS0Fade) :=
  inferInstanceAs (Decidable (_ ∨ _))

def weight (points : ℕ) (holds : Bool) : ℕ := if holds then points else 0

def weightedScore (engine : SignalEngine F) (ltf : LtfSnapshot F) (market : MarketContext F)
    (direction : Direction) : ℕ :=
  weight 2 ((SignalEngine.zoneTouch ltf).map SignalEngine.directionOf = some direction) +
    weight 1 (TrendAgrees direction market.htfTrend ∨
      market.regime = RegimeState.s0Range.value ∧ engine.allowS0Fade = true) +
    weight 1 (SignalEngine.bbmaProxy ltf) + weight 1 (market.rsiDivergence.getD false) +
    weight 1 (RegimeAgrees direction market.regime engine.allowS0Fade) +
    weight 1 (market.pWin.any fun pWin => engine.minPWin < pWin)

structure OtherGates (engine : SignalEngine F) (ltf : LtfSnapshot F) (market : MarketContext F)
    (direction : Direction) : Prop where
  zone : ∃ kind, FirstActive ltf kind ∧ direction = SignalEngine.directionOf kind
  regime : RegimeAgrees direction market.regime engine.allowS0Fade
  trend : TrendAgrees direction market.htfTrend ∨ engine.allowS0Fade = true
  score : engine.minConfluence ≤ ofInt (weightedScore engine ltf market direction)

structure AllGates (engine : SignalEngine F) (ltf : LtfSnapshot F) (market : MarketContext F)
    (direction : Direction) : Prop extends OtherGates engine ltf market direction where
  metaLabel : ∃ pWin, market.pWin = some pWin ∧ engine.minPWin < pWin

/-! What the code decides -/

omit [LT F] [DecidableLT F] [PyMath F] in
theorem zoneTouch_eq_some_iff (ltf : LtfSnapshot F) (kind : ZoneKind) :
    SignalEngine.zoneTouch ltf = some kind ↔ FirstActive ltf kind := by
  have active : ∀ zone : Zone F, (decide (zone.state ≠ .broken ∧ zone.state ≠ .mitigated) &&
      SignalEngine.contains zone ltf.close) = true ↔ Active zone ltf.close := by
    intro zone
    simp [SignalEngine.contains, Active, and_assoc]
  simp only [SignalEngine.zoneTouch, Option.map_eq_some_iff, List.find?_eq_some_iff_append,
    FirstActive]
  constructor
  · rintro ⟨zone, ⟨here, earlier, later, zones, others⟩, rfl⟩
    refine ⟨earlier, zone, later, zones, (active zone).mp here, fun other member held => ?_, rfl⟩
    have passed := others other member
    rw [(active other).mpr held] at passed
    simp at passed
  · rintro ⟨earlier, zone, later, zones, here, others, rfl⟩
    refine ⟨zone, ⟨(active zone).mpr here, earlier, later, zones, fun other member => ?_⟩, rfl⟩
    rw [Bool.not_eq_true', Bool.eq_false_iff]
    exact mt (active other).mp (others other member)

theorem RegimeState.ofValue_eq_some_iff (raw : String) (regime : RegimeState) :
    RegimeState.ofValue raw = some regime ↔ raw = regime.value := by
  constructor
  · intro known
    unfold RegimeState.ofValue at known
    split at known
    · rename_i same
      obtain rfl := Option.some.inj known
      exact same
    · split at known
      · rename_i same
        obtain rfl := Option.some.inj known
        exact same
      · split at known
        · rename_i same
          obtain rfl := Option.some.inj known
          exact same
        · simp at known
  · rintro rfl
    exact RegimeState.ofValue_value regime

omit [LT F] [LE F] [DecidableLT F] [DecidableLE F] [PyMath F] in
theorem trendOk_iff (inputs : ConfluenceInputs F) :
    inputs.trendOk = true ↔ TrendAgrees inputs.direction inputs.htfTrend := by
  unfold ConfluenceInputs.trendOk TrendAgrees
  cases inputs.direction <;> simp

omit [LT F] [LE F] [DecidableLT F] [DecidableLE F] [PyMath F] in
theorem regimeOk_iff (inputs : ConfluenceInputs F) :
    inputs.regimeOk = true ↔
      RegimeAgrees inputs.direction inputs.regime.value inputs.allowS0Fade := by
  unfold ConfluenceInputs.regimeOk RegimeAgrees
  cases inputs.direction <;> cases inputs.regime <;> simp [RegimeState.value]

theorem evaluate_score (scorer : ConfluenceScorer F) (inputs : ConfluenceInputs F) :
    (scorer.evaluate inputs).score = weight 2 inputs.zoneMatches +
      weight 1 (inputs.trendOk || inputs.fadingRange) + weight 1 inputs.bbmaConfirms +
      weight 1 inputs.rsiDivergence + weight 1 inputs.regimeOk +
      weight 1 (scorer.metaLabelOk inputs) := by
  unfold ConfluenceScorer.evaluate
  cases inputs.zoneMatches <;> cases (inputs.trendOk || inputs.fadingRange) <;>
    cases inputs.bbmaConfirms <;> cases inputs.rsiDivergence <;> cases inputs.regimeOk <;>
    cases scorer.metaLabelOk inputs <;> rfl

/-- The hard gates reject by a negated comparison, so they let pass what is not comparable. -/
theorem evaluate_passed_iff (scorer : ConfluenceScorer F) (inputs : ConfluenceInputs F) :
    (scorer.evaluate inputs).passed = true ↔ inputs.zoneMatches = true ∧ inputs.regimeOk = true ∧
      (∃ pWin, inputs.pWin = some pWin ∧ ¬pWin ≤ scorer.minPWin) ∧
        scorer.minScore ≤ ofInt (scorer.evaluate inputs).score := by
  have gates : (scorer.evaluate inputs).passed = (!scorer.hardFail inputs &&
      decide (scorer.minScore ≤ ofInt (scorer.evaluate inputs).score)) := rfl
  rw [gates, Bool.and_eq_true, decide_eq_true_eq, ← and_assoc, ← and_assoc]
  refine and_congr_left fun _ => ?_
  unfold ConfluenceScorer.hardFail
  cases pWin : inputs.pWin <;> simp [and_assoc]

section Fires

variable (engine : SignalEngine F) (ltf : LtfSnapshot F) (market : MarketContext F)

theorem evaluate_weightedScore {kind : ZoneKind} {regime : RegimeState}
    (touched : SignalEngine.zoneTouch ltf = some kind) (known : market.regime = regime.value) :
    ((ConfluenceScorer.mk engine.minConfluence engine.minPWin).evaluate
      (engine.inputs ltf market kind regime)).score =
        weightedScore engine ltf market (SignalEngine.directionOf kind) := by
  have matched : (engine.inputs ltf market kind regime).zoneMatches = true := by
    cases kind <;> rfl
  have aligned : ((engine.inputs ltf market kind regime).trendOk ||
      (engine.inputs ltf market kind regime).fadingRange) =
        decide (TrendAgrees (SignalEngine.directionOf kind) market.htfTrend ∨
          market.regime = RegimeState.s0Range.value ∧ engine.allowS0Fade = true) := by
    rw [Bool.eq_iff_iff, Bool.or_eq_true, trendOk_iff, decide_eq_true_eq]
    refine or_congr Iff.rfl ?_
    rw [known, ConfluenceInputs.fadingRange]
    cases regime <;> simp [SignalEngine.inputs, RegimeState.value]
  have agrees : (engine.inputs ltf market kind regime).regimeOk = decide (RegimeAgrees
      (SignalEngine.directionOf kind) market.regime engine.allowS0Fade) := by
    rw [Bool.eq_iff_iff, regimeOk_iff, decide_eq_true_eq, known]
    rfl
  have labelled : (ConfluenceScorer.mk engine.minConfluence engine.minPWin).metaLabelOk
      (engine.inputs ltf market kind regime) =
        market.pWin.any fun pWin => engine.minPWin < pWin := by
    unfold ConfluenceScorer.metaLabelOk
    cases pWin : market.pWin <;> simp [SignalEngine.inputs, pWin]
  rw [evaluate_score, matched, aligned, agrees, labelled, weightedScore, touched]
  simp [SignalEngine.inputs]

theorem otherGates_iff {kind : ZoneKind} {regime : RegimeState}
    (touched : SignalEngine.zoneTouch ltf = some kind)
    (known : market.regime = regime.value) (direction : Direction) :
    OtherGates engine ltf market direction ↔ direction = SignalEngine.directionOf kind ∧
      (engine.inputs ltf market kind regime).regimeOk = true ∧
      ((engine.inputs ltf market kind regime).trendOk = true ∨ engine.allowS0Fade = true) ∧
      engine.minConfluence ≤ ofInt ((ConfluenceScorer.mk engine.minConfluence
        engine.minPWin).evaluate (engine.inputs ltf market kind regime)).score := by
  have agrees := regimeOk_iff (engine.inputs ltf market kind regime)
  have aligned := trendOk_iff (engine.inputs ltf market kind regime)
  simp only [SignalEngine.inputs, ← known] at agrees aligned
  constructor
  · rintro ⟨⟨other, first, rfl⟩, regimes, trends, scores⟩
    obtain rfl : kind = other :=
      Option.some.inj (touched.symm.trans ((zoneTouch_eq_some_iff ltf other).mpr first))
    have regimeHolds := agrees.mpr regimes
    refine ⟨rfl, regimeHolds, trends.imp_left aligned.mpr, ?_⟩
    rw [evaluate_weightedScore engine ltf market touched known]
    exact scores
  · rintro ⟨rfl, regimeHolds, trends, scores⟩
    rw [evaluate_weightedScore engine ltf market touched known] at scores
    exact ⟨⟨kind, (zoneTouch_eq_some_iff ltf kind).mp touched, rfl⟩, agrees.mp regimeHolds,
      trends.imp_left aligned.mp, scores⟩

variable [Add F] [Sub F] [Mul F] in
theorem fires_iff (id : String) (direction : Direction) :
    (∃ signal, (engine.evaluate id ltf market).signal = some signal ∧
      signal.direction = direction) ↔
        OtherGates engine ltf market direction ∧
          ∃ pWin, market.pWin = some pWin ∧ ¬pWin ≤ engine.minPWin := by
  cases touched : SignalEngine.zoneTouch ltf with
  | none =>
      have unfired : ¬OtherGates engine ltf market direction := by
        rintro ⟨⟨kind, first, _⟩, _⟩
        simp [(zoneTouch_eq_some_iff ltf kind).mpr first] at touched
      simp [SignalEngine.evaluate, touched, SignalEngine.reject, unfired]
  | some kind =>
      cases known : RegimeState.ofValue market.regime with
      | none =>
          have unfired : ¬OtherGates engine ltf market direction := by
            rintro ⟨_, regimes, _⟩
            rcases regimes with ⟨_, same⟩ | ⟨_, same⟩ | ⟨same, _⟩ <;> simp [same] at known
          simp [SignalEngine.evaluate, touched, resolveRegime, known, SignalEngine.reject, unfired]
      | some regime =>
          have named := (RegimeState.ofValue_eq_some_iff _ _).mp known
          rw [otherGates_iff engine ltf market touched named]
          simp only [SignalEngine.evaluate, touched, resolveRegime, known]
          split
          · rename_i range
            obtain ⟨rfl, unfaded⟩ := range
            have blocked : (engine.inputs ltf market kind .s0Range).regimeOk = false := by
              cases kind <;> exact unfaded
            simp [SignalEngine.reject, blocked]
          · split
            · rename_i counter
              simp [SignalEngine.reject, counter.1, counter.2]
            · rename_i trending
              have trends : (engine.inputs ltf market kind regime).trendOk = true ∨
                  engine.allowS0Fade = true := by
                by_contra neither
                simp only [not_or, Bool.not_eq_true] at neither
                exact trending neither
              have passes := evaluate_passed_iff ⟨engine.minConfluence, engine.minPWin⟩
                (engine.inputs ltf market kind regime)
              split
              · rename_i passed
                obtain ⟨_, regimes, label, scores⟩ := passes.mp passed
                constructor
                · rintro ⟨signal, fired, rfl⟩
                  obtain rfl := Option.some.inj fired
                  exact ⟨⟨rfl, regimes, trends, scores⟩, label⟩
                · rintro ⟨⟨rfl, _⟩, _⟩
                  exact ⟨_, rfl, rfl⟩
              · rename_i refused
                constructor
                · rintro ⟨signal, unfired, _⟩
                  simp at unfired
                · rintro ⟨⟨_, regimes, _, scores⟩, label⟩
                  have touches : (engine.inputs ltf market kind regime).zoneMatches = true := by
                    cases kind <;> rfl
                  exact absurd (passes.mpr ⟨touches, regimes, label, scores⟩) refused

end Fires

section Published

variable [Add F] [Sub F] [Mul F]

structure SignalStore (F : Type) where
  cache : String → Option String
  features : String → String → Option (Snapshot F)
  published : List (Signal F) := []

variable (engine : SignalEngine F)

def SignalStore.publish (store : SignalStore F) (signal : Signal F) : SignalStore F :=
  { store with published := store.published ++ [signal] }

def SignalStore.Answers (store : SignalStore F) : (effect : SignalEffect F) →
    Except PyError effect.Reply → SignalStore F → Prop
  | .get key, .ok value, after => value = store.cache key ∧ after = store
  | .fetchFeatureRow symbol timeframe, .ok row, after =>
      row = store.features symbol timeframe ∧ after = store
  | .evaluate ltf market, .ok evaluation, after =>
      (∃ id, evaluation = engine.evaluate id ltf market) ∧ after = store
  | .xaddGenerated signal _, .ok _, after => after = store.publish signal
  | .xaddGenerated signal _, .error error, after =>
      after = if error.applied then store.publish signal else store
  | _, _, after => after = store

variable {engine} {store after : SignalStore F}

theorem reading_answers {effect : SignalEffect F} {reply : Except PyError effect.Reply}
    (reading : Reading effect) (answered : store.Answers engine effect reply after) :
    after = store := by
  cases effect <;> cases reply <;> first
    | exact reading.elim
    | exact answered
    | exact answered.2

theorem reading_runs {α : Type} {program : Program F α} {result : Except PyError α}
    (used : program.Uses Reading)
    (ran : program.Runs (SignalStore.Answers engine) store result after) : after = store :=
  ran.frame id used fun _ reading _ _ _ answered => reading_answers reading answered

theorem fetchLtfRow_runs {symbol timeframe : String} {ltf : LtfSnapshot F}
    (ran : (fetchLtfRow symbol timeframe).Runs (SignalStore.Answers engine) store
      (.ok (some ltf)) after) :
    ∃ row, store.features symbol timeframe = some row ∧
      rowToSnapshot symbol timeframe row = .ok ltf := by
  obtain ⟨row, _, fetched, fromRow⟩ := Prog.runs_bind_ok.mp ran
  obtain ⟨rowEq, rfl⟩ := Prog.runs_perform.mp fetched
  cases row with
  | none => cases fromRow.1
  | some row =>
      obtain ⟨snapshot, _, read, ended⟩ := Prog.runs_bind_ok.mp fromRow
      obtain ⟨readEq, rfl⟩ := Prog.runs_ofExcept.mp read
      cases ended.1
      exact ⟨row, rowEq.symm, readEq.symm⟩

theorem publish_runs {signal : Signal F} {correlationId : String} {result : Except PyError Unit}
    (ran : (SignalConsumer.publish signal correlationId).Runs (SignalStore.Answers engine) store
      result after) : after = store ∨ after = store.publish signal := by
  rcases Prog.runs_bind.mp ran with ⟨_, _, parsed, fromInsert⟩ | ⟨_, parsed, _⟩
  rotate_left
  · exact .inl (reading_runs (Prog.uses_ofExcept _) parsed)
  obtain rfl := reading_runs (Prog.uses_ofExcept _) parsed
  rcases Prog.runs_perform_bind.mp fromInsert with ⟨_, _, rfl, added⟩ | ⟨_, rfl, _⟩
  rotate_left
  · exact .inl rfl
  have applied := Prog.runs_perform.mp added
  cases result with
  | ok value => exact .inr applied
  | error error =>
      simp only [SignalStore.Answers] at applied
      split at applied
      · exact .inr applied
      · exact .inl applied

variable [Div F]

def marketOf (codec : SignalDecoders F) (regimeRaw metaRaw : Option String) (htfTrend : String) :
    Except PyError (MarketContext F) := do
  let regime ← regimeOf codec.loads regimeRaw
  let pWin ← pWinOf codec metaRaw
  .ok { htfTrend := htfTrend, regime := regime, pWin := pWin }

structure Fired (engine : SignalEngine F) (codec : SignalDecoders F) (store : SignalStore F)
    (signal : Signal F) : Prop where
  origin : ∃ market ltf id htfTrend row symbol timeframe,
    marketOf codec (store.cache regimeKey) (store.cache metaKey) htfTrend = .ok market ∧
      store.features symbol timeframe = some row ∧ rowToSnapshot symbol timeframe row = .ok ltf ∧
        (engine.evaluate id ltf market).signal = some signal

theorem marketContext_runs {consumer : SignalConsumer F} {symbol : String}
    {market : MarketContext F}
    (ran : (consumer.marketContext symbol).Runs (SignalStore.Answers engine) store (.ok market)
      after) :
    after = store ∧ ∃ htfTrend, marketOf consumer.codec (store.cache regimeKey)
      (store.cache metaKey) htfTrend = .ok market := by
  refine ⟨reading_runs (marketContext_reading consumer symbol) ran, ?_⟩
  obtain ⟨regimeRaw, _, gotRegime, fromMeta⟩ := Prog.runs_bind_ok.mp ran
  obtain ⟨rfl, rfl⟩ := Prog.runs_perform.mp gotRegime
  obtain ⟨metaRaw, _, gotMeta, fromParse⟩ := Prog.runs_bind_ok.mp fromMeta
  obtain ⟨rfl, rfl⟩ := Prog.runs_perform.mp gotMeta
  obtain ⟨regime, _, parsedRegime, fromLabel⟩ := Prog.runs_bind_ok.mp fromParse
  obtain ⟨regimeEq, rfl⟩ := Prog.runs_ofExcept.mp parsedRegime
  obtain ⟨pWin, _, parsedLabel, fromTrend⟩ := Prog.runs_bind_ok.mp fromLabel
  obtain ⟨pWinEq, rfl⟩ := Prog.runs_ofExcept.mp parsedLabel
  obtain ⟨htfTrend, _, _, ended⟩ := Prog.runs_bind_ok.mp fromTrend
  obtain rfl := Except.ok.inj ended.1
  refine ⟨htfTrend, ?_⟩
  rw [marketOf, ← regimeEq, ← pWinEq]
  rfl

theorem handle_publishes {consumer : SignalConsumer F} {decoded : Fields}
    {result : Except PyError Unit}
    (ran : (consumer.handle decoded).Runs (SignalStore.Answers consumer.engine) store result
      after) :
    after = store ∨ ∃ signal, after = store.publish signal ∧
      Fired consumer.engine consumer.codec store signal := by
  unfold SignalConsumer.handle at ran
  rcases Prog.runs_bind.mp ran with ⟨_, _, correlated, fromContext⟩ | ⟨_, correlated, _⟩
  rotate_left
  · exact .inl (reading_runs (correlation_reading decoded) correlated)
  obtain rfl := reading_runs (correlation_reading decoded) correlated
  dsimp only at fromContext
  split at fromContext
  · exact .inl fromContext.2
  rcases Prog.runs_bind.mp fromContext with ⟨market, _, context, fromRow⟩ | ⟨_, context, _⟩
  rotate_left
  · exact .inl (reading_runs (marketContext_reading consumer _) context)
  obtain ⟨rfl, htfTrend, marketEq⟩ := marketContext_runs context
  rcases Prog.runs_bind.mp fromRow with ⟨found, _, fetched, fromEngine⟩ | ⟨_, fetched, _⟩
  rotate_left
  · exact .inl (reading_runs (fetchLtfRow_reading _ _) fetched)
  obtain rfl := reading_runs (fetchLtfRow_reading _ _) fetched
  cases found with
  | none => exact .inl fromEngine.2
  | some ltf =>
      rcases Prog.runs_bind.mp fromEngine with ⟨evaluation, _, evaluated, rest⟩ | ⟨_, evaluated, _⟩
      rotate_left
      · exact .inl (Prog.runs_perform.mp evaluated)
      obtain ⟨⟨id, rfl⟩, rfl⟩ := Prog.runs_perform.mp evaluated
      cases fired : (consumer.engine.evaluate id ltf market).signal with
      | none =>
          rw [fired] at rest
          exact .inl rest.2
      | some signal =>
          rw [fired] at rest
          obtain ⟨row, stored, read⟩ := fetchLtfRow_runs fetched
          refine (publish_runs rest).imp_right fun published => ⟨signal, published, ?_⟩
          exact ⟨market, ltf, id, htfTrend, row, _, _, marketEq, stored, read, fired⟩

/-- The gates hold behind every fired signal unless all but the meta-label's hold and its
number cannot be compared. -/
theorem signal_gated_iff (codec : SignalDecoders F) (regimeRaw metaRaw : Option String)
    (htfTrend : String) (engine : SignalEngine F) (id : String) (ltf : LtfSnapshot F) :
    (∀ market signal, marketOf codec regimeRaw metaRaw htfTrend = .ok market →
      (engine.evaluate id ltf market).signal = some signal →
        AllGates engine ltf market signal.direction) ↔
      ∀ market direction pWin, marketOf codec regimeRaw metaRaw htfTrend = .ok market →
        OtherGates engine ltf market direction → market.pWin = some pWin →
          Comparable pWin engine.minPWin := by
  constructor
  · intro gated market direction pWin read others label
    by_contra incomparable
    have passes : ¬pWin ≤ engine.minPWin := fun below => incomparable (.inl below)
    obtain ⟨signal, fired, rfl⟩ :=
      (fires_iff engine ltf market id direction).mpr ⟨others, pWin, label, passes⟩
    obtain ⟨_, other, same, above⟩ := gated market signal read fired
    obtain rfl := Option.some.inj (label.symm.trans same)
    exact incomparable (.inr above)
  · intro comparable market signal read fired
    obtain ⟨others, pWin, label, passes⟩ :=
      (fires_iff engine ltf market id signal.direction).mp ⟨signal, fired, rfl⟩
    have above := (comparable market signal.direction pWin read others label).resolve_left passes
    exact ⟨others, pWin, label, above⟩

theorem handle_gated {consumer : SignalConsumer F} {decoded : Fields}
    {result : Except PyError Unit}
    (ran : (consumer.handle decoded).Runs (SignalStore.Answers consumer.engine) store result
      after) :
    after = store ∨ ∃ signal market ltf htfTrend row symbol timeframe,
      after = store.publish signal ∧
      marketOf consumer.codec (store.cache regimeKey) (store.cache metaKey) htfTrend = .ok market ∧
      store.features symbol timeframe = some row ∧ rowToSnapshot symbol timeframe row = .ok ltf ∧
      (AllGates consumer.engine ltf market signal.direction ∨
        ∃ pWin, market.pWin = some pWin ∧ ¬Comparable pWin consumer.engine.minPWin) := by
  rcases handle_publishes ran with unchanged | ⟨signal, published, fired⟩
  · exact .inl unchanged
  obtain ⟨market, ltf, id, htfTrend, row, symbol, timeframe, context, stored, read, fired⟩ :=
    fired.origin
  obtain ⟨others, pWin, label, passes⟩ :=
    (fires_iff consumer.engine ltf market id signal.direction).mp ⟨signal, fired, rfl⟩
  refine .inr ⟨signal, market, ltf, htfTrend, row, symbol, timeframe, published, context, stored,
    read, ?_⟩
  by_cases comparable : Comparable pWin consumer.engine.minPWin
  · exact .inl ⟨others, pWin, label, comparable.resolve_left passes⟩
  · exact .inr ⟨pWin, label, comparable⟩

end Published

end Gates

namespace Sample

def regimeText : String := "\x7b\"regime\": \"S1_trend_up\"\x7d"

def nanText : String := "\x7b\"p_up\": NaN, \"p_down\": 0.4\x7d"

def loads (raw : String) : Except PyError Json :=
  if raw = regimeText then .ok (.dict [("regime", .str "S1_trend_up")])
  else if raw = nanText then
    .ok (.dict [("p_up", .float .nan), ("p_down", .float (.finite (2 / 5)))])
  else .error (.jsonDecodeError "Expecting value")

def decoders : SignalDecoders PyFloat := ⟨loads, floatOfJson fun _ => none⟩

def nanMarket : MarketContext PyFloat where
  htfTrend := "up"
  regime := "S1_trend_up"
  pWin := some .nan

def demandZone : Zone PyFloat where
  id := "z1"
  kind := .demand
  top := .finite 101
  bottom := .finite 95
  createdTs := 0

def touching : LtfSnapshot PyFloat where
  symbol := "Volatility 75 Index"
  timeframe := "M15"
  ts := 0
  close := .finite 100
  atr := .finite 2
  rsi := .finite 50
  ema50 := .finite 99
  ema200 := .finite 98
  zones := [demandZone]

theorem marketOf_nan : marketOf decoders (some regimeText) (some nanText) "up" =
    .ok nanMarket := by
  rfl

theorem others_open : OtherGates (engineOf {}) touching nanMarket .buy := by
  constructor
  · have active : Active demandZone touching.close := by decide +kernel
    exact ⟨.demand, ⟨[], demandZone, [], rfl, active, by simp, rfl⟩, rfl⟩
  · exact .inl ⟨rfl, rfl⟩
  · exact .inl (.inl ⟨rfl, rfl⟩)
  · decide +kernel

end Sample

/-- With `p_up` NaN the default engine fires a signal. -/
theorem signal_ungated : ¬∀ market signal,
    marketOf Sample.decoders (some Sample.regimeText) (some Sample.nanText) "up" = .ok market →
      ((engineOf {}).evaluate "" Sample.touching market).signal = some signal →
        AllGates (engineOf {}) Sample.touching market signal.direction := by
  intro gated
  obtain ⟨signal, fired, _⟩ :=
    (fires_iff (engineOf {}) Sample.touching Sample.nanMarket "" .buy).mpr
      ⟨Sample.others_open, .nan, rfl, by decide +kernel⟩
  obtain ⟨_, pWin, same, above⟩ := gated Sample.nanMarket signal Sample.marketOf_nan fired
  obtain rfl := Option.some.inj same
  exact absurd above (by decide +kernel)

end Signalling

end Vix75
