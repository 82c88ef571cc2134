import Vix75.ConfluenceIndicator
import Vix75.SignalSideChecks

/-! The arrows of the MT5 indicator against the signals of the engine, on the same data. -/

namespace Vix75

open Signalling

namespace Mt5

def sdZoneOf (zone : Zone ℚ) : SdZone where
  created := zone.createdTs
  top := zone.top
  bottom := zone.bottom
  kind := zone.kind
  state := zone.state
  touches := zone.touches

structure SameSettings (inputs : Inputs) (engine : SignalEngine ℚ) : Prop where
  minScore : inputs.minScore = engine.minConfluence
  allowS0Fade : inputs.allowS0Fade = engine.allowS0Fade
  rsiOb : inputs.rsiOb = 70
  rsiOs : inputs.rsiOs = 30

/-- What the indicator reads of bar `i` is what the engine is given. -/
structure SameData (inputs : Inputs) (terminal : Terminal) (bar : ℕ → Bar ℚ) (zones : List SdZone)
    (i : ℕ) (ltf : LtfSnapshot ℚ) (market : MarketContext ℚ) : Prop where
  zones : zones = ltf.zones.map sdZoneOf
  close : (bar i).close = ltf.close
  atr : getIndValue terminal .atrLtf i = ltf.atr
  rsi : getIndValue terminal .rsiLtf i = ltf.rsi
  ema50 : getIndValue terminal .ema50Ltf i = ltf.ema50
  ema200 : getIndValue terminal .ema200Ltf i = ltf.ema200
  positive : 0 < ltf.atr ∧ 0 < ltf.rsi ∧ 0 < ltf.ema50 ∧ 0 < ltf.ema200
  htfTrend : getHtfTrend terminal = market.htfTrend
  regime : getRegimeProxy inputs terminal = RegimeState.ofValue market.regime

/-- The gates that both sides have. -/
structure Gates (allowS0Fade : Bool) (ltf : LtfSnapshot ℚ) (market : MarketContext ℚ)
    (direction : Direction) : Prop where
  zone : ∃ kind, FirstActive ltf kind ∧ direction = SignalEngine.directionOf kind
  regime : RegimeAgrees direction market.regime allowS0Fade
  trend : TrendAgrees direction market.htfTrend ∨ allowS0Fade = true

abbrev Aligned (allowS0Fade : Bool) (market : MarketContext ℚ) (direction : Direction) : Prop :=
  TrendAgrees direction market.htfTrend ∨
    market.regime = RegimeState.s0Range.value ∧ allowS0Fade = true

section Engine

variable (engine : SignalEngine ℚ) (ltf : LtfSnapshot ℚ) (market : MarketContext ℚ)

def Fires (direction : Direction) : Prop :=
  ∃ pWin id signal, (engine.evaluate id ltf { market with pWin := some pWin }).signal =
    some signal ∧ signal.direction = direction

theorem weightedScore_gates {direction : Direction} {pWin : ℚ}
    (undiverged : market.rsiDivergence = none) (label : engine.minPWin < pWin)
    (gates : Gates engine.allowS0Fade ltf market direction) :
    weightedScore engine ltf { market with pWin := some pWin } direction =
      4 + weight 1 (Aligned engine.allowS0Fade market direction) +
        weight 1 (SignalEngine.bbmaProxy ltf) := by
  obtain ⟨kind, first, rfl⟩ := gates.zone
  have touched := (zoneTouch_eq_some_iff ltf kind).mpr first
  have zone : weight 2 (decide ((SignalEngine.zoneTouch ltf).map SignalEngine.directionOf =
      some (SignalEngine.directionOf kind))) = 2 := by
    rw [touched]
    simp [weight]
  have regime : weight 1 (decide (RegimeAgrees (SignalEngine.directionOf kind) market.regime
      engine.allowS0Fade)) = 1 := by
    rw [weight, decide_eq_true gates.regime, if_pos rfl]
  have labelled : weight 1 ((some pWin).any fun pWin => decide (engine.minPWin < pWin)) = 1 := by
    simp [weight, label]
  have divergence : weight 1 (market.rsiDivergence.getD false) = 0 := by
    rw [undiverged]
    rfl
  have aligned : weight 1 (decide (TrendAgrees (SignalEngine.directionOf kind) market.htfTrend ∨
      market.regime = RegimeState.s0Range.value ∧ engine.allowS0Fade = true)) =
        weight 1 (Aligned engine.allowS0Fade market (SignalEngine.directionOf kind)) := rfl
  unfold weightedScore
  simp only [zone, regime, labelled, divergence, aligned]
  omega

theorem fires_iff_score (undiverged : market.rsiDivergence = none) (direction : Direction) :
    Fires engine ltf market direction ↔ Gates engine.allowS0Fade ltf market direction ∧
      engine.minConfluence ≤ (4 + weight 1 (Aligned engine.allowS0Fade market direction) +
        weight 1 (SignalEngine.bbmaProxy ltf) : ℕ) := by
  constructor
  · rintro ⟨pWin, id, fired⟩
    obtain ⟨others, other, same, passes⟩ :=
      (fires_iff engine ltf { market with pWin := some pWin } id direction).mp fired
    obtain rfl := Option.some.inj same
    have gates : Gates engine.allowS0Fade ltf market direction :=
      ⟨others.zone, others.regime, others.trend⟩
    refine ⟨gates, ?_⟩
    have scores := others.score
    rw [weightedScore_gates engine ltf market undiverged (not_le.mp passes) gates] at scores
    exact_mod_cast scores
  · rintro ⟨gates, scores⟩
    have label : engine.minPWin < engine.minPWin + 1 := lt_add_one _
    refine ⟨engine.minPWin + 1, "", (fires_iff engine ltf _ "" direction).mpr
      ⟨⟨gates.zone, gates.regime, gates.trend, ?_⟩, _, rfl, not_le.mpr label⟩⟩
    rw [weightedScore_gates engine ltf market undiverged label gates]
    exact_mod_cast scores

end Engine

/-! The indicator -/

section Arrow

variable {inputs : Inputs} {engine : SignalEngine ℚ} {terminal : Terminal} {bar : ℕ → Bar ℚ}
variable {zones : List SdZone} {i : ℕ} {ltf : LtfSnapshot ℚ} {market : MarketContext ℚ}

def Draws (inputs : Inputs) (terminal : Terminal) (bar : ℕ → Bar ℚ) (zones : List SdZone) (i : ℕ)
    (direction : Direction) : Prop :=
  ∃ price, evaluateBar inputs terminal bar zones i = some (direction, price)

theorem touchedZone_eq (data : SameData inputs terminal bar zones i ltf market) :
    touchedZone zones (bar i).close = (SignalEngine.tradedZone ltf).map sdZoneOf := by
  have same (zone : Zone ℚ) : ((sdZoneOf zone).active &&
      decide ((sdZoneOf zone).state ≠ .broken ∧ (sdZoneOf zone).state ≠ .mitigated) &&
        (sdZoneOf zone).holds ltf.close) = decide (Active zone ltf.close) := by
    change (true && decide (zone.state ≠ .broken ∧ zone.state ≠ .mitigated) &&
      (decide (zone.bottom ≤ ltf.close) && decide (ltf.close ≤ zone.top))) = _
    rw [Bool.eq_iff_iff, decide_eq_true_eq]
    simp [Active, and_assoc]
  rw [data.zones, data.close, touchedZone, List.find?_map, SignalEngine.tradedZone]
  exact congrArg (fun test => (ltf.zones.find? test).map sdZoneOf) (funext same)

theorem bbmaConfirms_eq (settings : SameSettings inputs engine)
    (data : SameData inputs terminal bar zones i ltf market) :
    bbmaConfirms inputs (bar i).close (getIndValue terminal .rsiLtf i)
      (getIndValue terminal .ema50Ltf i) = SignalEngine.bbmaProxy ltf := by
  rw [bbmaConfirms, data.close, data.rsi, data.ema50, settings.rsiOb, settings.rsiOs]
  rfl

theorem trendOk_iff (direction : Direction) (htf : String) :
    trendOk direction htf = true ↔ TrendAgrees direction htf := by
  simp [trendOk, TrendAgrees]

theorem regimeOk_iff (direction : Direction) (regime : RegimeState) :
    regimeOk inputs direction regime = true ↔
      RegimeAgrees direction regime.value inputs.allowS0Fade := by
  unfold regimeOk RegimeAgrees
  cases direction <;> cases regime <;> simp [RegimeState.value]

theorem score_lt_ceil (bbma : Bool) (least : ℚ) :
    score bbma < ⌈least⌉ ↔ ¬least ≤ (4 + weight 1 bbma : ℕ) := by
  have whole : score bbma = ((4 + weight 1 bbma : ℕ) : ℤ) := by
    cases bbma <;> rfl
  rw [whole, ← not_le, Int.ceil_le]
  norm_num

theorem evaluateBar_draws {zone : SdZone} (touched : touchedZone zones (bar i).close = some zone)
    (positive : ¬(getIndValue terminal .atrLtf i ≤ 0 ∨ getIndValue terminal .rsiLtf i ≤ 0 ∨
      getIndValue terminal .ema50Ltf i ≤ 0 ∨ getIndValue terminal .ema200Ltf i ≤ 0))
    (direction : Direction) :
    Draws inputs terminal bar zones i direction ↔ direction = directionOf zone.kind ∧
      (trendOk direction (getHtfTrend terminal) = true ∨ inputs.allowS0Fade = true) ∧
      (∃ regime, getRegimeProxy inputs terminal = some regime ∧
        regimeOk inputs direction regime = true) ∧
      ¬score (bbmaConfirms inputs (bar i).close (getIndValue terminal .rsiLtf i)
        (getIndValue terminal .ema50Ltf i)) < ⌈inputs.minScore⌉ := by
  unfold Draws evaluateBar
  simp only [if_neg positive, touched]
  constructor
  · rintro ⟨price, drawn⟩
    split at drawn
    · cases drawn
    rename_i trends
    split at drawn
    · cases drawn
    rename_i regime known
    split at drawn
    rotate_left
    · cases drawn
    rename_i regimes
    split at drawn
    · cases drawn
    rename_i scores
    have side : direction = directionOf zone.kind := by
      split at drawn
      · rename_i side
        rw [side]
        exact (congrArg Prod.fst (Option.some.inj drawn)).symm
      · rename_i side
        rw [side]
        exact (congrArg Prod.fst (Option.some.inj drawn)).symm
    refine ⟨side, ?_, ⟨regime, known, side ▸ regimes⟩, scores⟩
    rw [side]
    by_contra neither
    simp only [not_or, Bool.not_eq_true] at neither
    exact trends (by simp [neither])
  · rintro ⟨rfl, trends, ⟨regime, known, regimes⟩, scores⟩
    have open_ : ¬(!trendOk (directionOf zone.kind) (getHtfTrend terminal) &&
        !inputs.allowS0Fade) = true := by
      rcases trends with trend | fade
      · simp [trend]
      · simp [fade]
    rw [if_neg open_, known]
    simp only [regimes, if_true, if_neg scores]
    cases directionOf zone.kind with
    | buy => exact ⟨_, rfl⟩
    | sell => exact ⟨_, rfl⟩

theorem regime_of_agrees {direction : Direction} {raw : String} {allowS0Fade : Bool}
    (agrees : RegimeAgrees direction raw allowS0Fade) :
    ∃ regime : RegimeState, raw = regime.value := by
  rcases agrees with ⟨_, same⟩ | ⟨_, same⟩ | ⟨same, _⟩
  · exact ⟨_, same⟩
  · exact ⟨_, same⟩
  · exact ⟨_, same⟩

theorem zone_gate_iff {zone : Zone ℚ} (traded : SignalEngine.tradedZone ltf = some zone)
    (direction : Direction) :
    (∃ kind, FirstActive ltf kind ∧ direction = SignalEngine.directionOf kind) ↔
      direction = directionOf zone.kind := by
  have touched : SignalEngine.zoneTouch ltf = some zone.kind := by
    rw [SignalEngine.zoneTouch_eq, traded]
    rfl
  have sides (kind : ZoneKind) : SignalEngine.directionOf kind = directionOf kind := by
    cases kind <;> rfl
  constructor
  · rintro ⟨kind, first, rfl⟩
    obtain rfl : kind = zone.kind :=
      Option.some.inj (((zoneTouch_eq_some_iff ltf kind).mpr first).symm.trans touched)
    exact sides _
  · rintro rfl
    exact ⟨zone.kind, (zoneTouch_eq_some_iff ltf _).mp touched, (sides _).symm⟩

theorem draws_iff (settings : SameSettings inputs engine)
    (data : SameData inputs terminal bar zones i ltf market) (direction : Direction) :
    Draws inputs terminal bar zones i direction ↔
      Gates engine.allowS0Fade ltf market direction ∧
        engine.minConfluence ≤ (4 + weight 1 (SignalEngine.bbmaProxy ltf) : ℕ) := by
  have positive : ¬(getIndValue terminal .atrLtf i ≤ 0 ∨ getIndValue terminal .rsiLtf i ≤ 0 ∨
      getIndValue terminal .ema50Ltf i ≤ 0 ∨ getIndValue terminal .ema200Ltf i ≤ 0) := by
    rw [data.atr, data.rsi, data.ema50, data.ema200]
    obtain ⟨atr, rsi, ema50, ema200⟩ := data.positive
    simp only [not_or, not_le]
    exact ⟨atr, rsi, ema50, ema200⟩
  have touched := touchedZone_eq data
  cases traded : SignalEngine.tradedZone ltf with
  | none =>
      rw [traded] at touched
      constructor
      · rintro ⟨price, drawn⟩
        simp [evaluateBar, touched] at drawn
      · rintro ⟨⟨⟨kind, first, _⟩, _⟩, _⟩
        have nothing := (zoneTouch_eq_some_iff ltf kind).mpr first
        rw [SignalEngine.zoneTouch_eq, traded] at nothing
        cases nothing
  | some zone =>
      rw [traded] at touched
      rw [evaluateBar_draws touched positive, bbmaConfirms_eq settings data, score_lt_ceil, not_not,
        settings.minScore, settings.allowS0Fade, data.htfTrend, trendOk_iff]
      have regimes : (∃ regime, getRegimeProxy inputs terminal = some regime ∧
          regimeOk inputs direction regime = true) ↔
            RegimeAgrees direction market.regime engine.allowS0Fade := by
        simp only [data.regime, regimeOk_iff, settings.allowS0Fade]
        constructor
        · rintro ⟨regime, known, agrees⟩
          rwa [(RegimeState.ofValue_eq_some_iff _ _).mp known]
        · intro agrees
          obtain ⟨regime, same⟩ := regime_of_agrees agrees
          rw [same] at agrees
          exact ⟨regime, (RegimeState.ofValue_eq_some_iff _ _).mpr same, agrees⟩
      rw [regimes]
      constructor
      · rintro ⟨side, trends, agrees, scores⟩
        exact ⟨⟨(zone_gate_iff traded direction).mpr side, agrees, trends⟩, scores⟩
      · rintro ⟨⟨gate, agrees, trends⟩, scores⟩
        exact ⟨(zone_gate_iff traded direction).mp gate, trends, agrees, scores⟩

/-- The indicator always counts the point for the HTF trend but never that of the meta-label, so
it misses the signals whose score needs both. -/
theorem arrow_covers_iff (settings : SameSettings inputs engine)
    (data : SameData inputs terminal bar zones i ltf market)
    (undiverged : market.rsiDivergence = none) (direction : Direction) :
    (Fires engine ltf market direction → Draws inputs terminal bar zones i direction) ↔
      ¬(Gates engine.allowS0Fade ltf market direction ∧
        Aligned engine.allowS0Fade market direction ∧
          (4 + weight 1 (SignalEngine.bbmaProxy ltf) : ℕ) < engine.minConfluence ∧
            engine.minConfluence ≤ (5 + weight 1 (SignalEngine.bbmaProxy ltf) : ℕ)) := by
  rw [fires_iff_score engine ltf market undiverged, draws_iff settings data]
  constructor
  · rintro covers ⟨gates, aligned, above, within⟩
    have fires : engine.minConfluence ≤
        (4 + weight 1 (Aligned engine.allowS0Fade market direction) +
          weight 1 (SignalEngine.bbmaProxy ltf) : ℕ) := by
      rw [weight, decide_eq_true aligned, if_pos rfl]
      exact within
    exact absurd (covers ⟨gates, fires⟩).2 (not_le.mpr above)
  · rintro uncovered ⟨gates, fires⟩
    refine ⟨gates, ?_⟩
    by_contra above
    by_cases aligned : Aligned engine.allowS0Fade market direction
    · rw [weight, decide_eq_true aligned, if_pos rfl] at fires
      exact uncovered ⟨gates, aligned, not_le.mp above, fires⟩
    · rw [weight, decide_eq_false aligned, if_neg Bool.false_ne_true] at fires
      exact above fires

end Arrow

namespace Sample

def readings (rsi : ℚ) : Terminal
  | .atrLtf, _, _ => some 2
  | .rsiLtf, _, _ => some rsi
  | .ema50Ltf, _, _ => some 99
  | .ema200Ltf, _, _ => some 98
  | .ema50Htf, _, _ => some 99
  | .ema200Htf, _, _ => some 98
  | .adxLtf, 0, _ => some 30
  | .adxLtf, 1, _ => some 25
  | .adxLtf, _, _ => some 10

def bars (_ : ℕ) : Bar ℚ := ⟨0, 100, 101, 99, 100⟩

def snapshot (rsi : ℚ) : LtfSnapshot ℚ :=
  { Vix75.Sample.touchingDemand [Vix75.Sample.liveDemand] with rsi := rsi }

def market : MarketContext ℚ where
  htfTrend := "up"
  regime := "S1_trend_up"

theorem sameSettings : SameSettings {} (engineOf {}) := ⟨rfl, rfl, rfl, rfl⟩

theorem sameData (rsi : ℚ) (positive : 0 < rsi) :
    SameData {} (readings rsi) bars [sdZoneOf Vix75.Sample.liveDemand] 0 (snapshot rsi) market where
  zones := rfl
  close := rfl
  atr := rfl
  rsi := rfl
  ema50 := rfl
  ema200 := rfl
  positive := by
    have fixed : (0 : ℚ) < 2 ∧ (0 : ℚ) < 99 ∧ (0 : ℚ) < 98 := by decide +kernel
    exact ⟨fixed.1, positive, fixed.2.1, fixed.2.2⟩
  htfTrend := by norm_num [getHtfTrend, getIndValue, readings, market]
  regime := by
    norm_num [getRegimeProxy, getIndValue, readings]
    rfl

theorem gates (rsi : ℚ) : Gates false (snapshot rsi) market .buy where
  zone := by
    have active : Active Vix75.Sample.liveDemand 100 := by decide +kernel
    exact ⟨.demand, ⟨[], _, [], rfl, active, by simp, rfl⟩, rfl⟩
  regime := .inl ⟨rfl, rfl⟩
  trend := .inl (.inl ⟨rfl, rfl⟩)

end Sample

theorem arrow_covers_sample : Draws {} (Sample.readings 50) Sample.bars
    [sdZoneOf Vix75.Sample.liveDemand] 0 .buy := by
  refine (arrow_covers_iff Sample.sameSettings (Sample.sameData 50 (by norm_num)) rfl .buy).mpr ?_
    ((fires_iff_score (engineOf {}) (Sample.snapshot 50) Sample.market rfl .buy).mpr
      ⟨Sample.gates 50, by decide +kernel⟩)
  rintro ⟨_, _, above, _⟩
  exact absurd above (by decide +kernel)

/-- At an overbought RSI the engine fires on five points, of which the indicator has four. -/
theorem arrow_missed : ¬(Fires (engineOf {}) (Sample.snapshot 75) Sample.market .buy →
    Draws {} (Sample.readings 75) Sample.bars [sdZoneOf Vix75.Sample.liveDemand] 0 .buy) := by
  intro covers
  have fires := (fires_iff_score (engineOf {}) (Sample.snapshot 75) Sample.market rfl .buy).mpr
    ⟨Sample.gates 75, by decide +kernel⟩
  have drawn := (draws_iff Sample.sameSettings (Sample.sameData 75 (by norm_num)) .buy).mp
    (covers fires)
  exact absurd drawn.2 (by decide +kernel)

end Mt5

end Vix75
