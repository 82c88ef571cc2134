import Mathlib.Algebra.Order.Group.MinMax
import Vix75.OrderLevelsChecks
import Vix75.SignalGateChecks
import Vix75.ZoneChecks

/-! Buying and selling as mirror images: with every price negated, and supply and demand
exchanged, zones move and signals fire as before, on the other side. -/

namespace Vix75

open PyMath

def Direction.mirror : Direction → Direction
  | .buy => .sell
  | .sell => .buy

def ZoneKind.mirror : ZoneKind → ZoneKind
  | .supply => .demand
  | .demand => .supply

def RegimeState.mirror : RegimeState → RegimeState
  | .s0Range => .s0Range
  | .s1TrendUp => .s2TrendDown
  | .s2TrendDown => .s1TrendUp

/-- A text that names no trend is its own mirror. -/
def mirrorTrend (trend : String) : String :=
  if trend = "up" then "down" else if trend = "down" then "up" else trend

def mirrorRegime (raw : String) : String :=
  match RegimeState.ofValue raw with
  | some regime => regime.mirror.value
  | none => raw

section Mirrors

variable {F : Type} [Neg F]

def Bar.mirror (bar : Bar F) : Bar F where
  ts := bar.ts
  open_ := -bar.open_
  high := -bar.low
  low := -bar.high
  close := -bar.close

def Zone.mirror (zone : Zone F) : Zone F :=
  { zone with kind := zone.kind.mirror, top := -zone.bottom, bottom := -zone.top }

def LtfSnapshot.mirror (ltf : LtfSnapshot ℚ) : LtfSnapshot ℚ :=
  { ltf with
    close := -ltf.close
    rsi := 100 - ltf.rsi
    ema50 := -ltf.ema50
    ema200 := -ltf.ema200
    zones := ltf.zones.map Zone.mirror }

def MarketContext.mirror (market : MarketContext ℚ) : MarketContext ℚ :=
  { market with
    htfTrend := mirrorTrend market.htfTrend
    regime := mirrorRegime market.regime }

def ConfluenceInputs.mirror (inputs : ConfluenceInputs F) : ConfluenceInputs F :=
  { inputs with
    direction := inputs.direction.mirror
    htfTrend := mirrorTrend inputs.htfTrend
    regime := inputs.regime.mirror
    zoneKindTouched := inputs.zoneKindTouched.map ZoneKind.mirror }

def Signal.mirror (signal : Signal F) : Signal F :=
  { signal with
    direction := signal.direction.mirror
    entry := -signal.entry
    sl := -signal.sl
    tp1 := -signal.tp1
    tp2 := -signal.tp2 }

end Mirrors

namespace ZoneEngineConfig

variable {F : Type} [Field F] [LinearOrder F] [IsStrictOrderedRing F] [PyMath F] [ExactMath F]
variable (cfg : ZoneEngineConfig F) (zone : Zone F) (bar : Bar F)

omit [PyMath F] [ExactMath F] in
theorem touched_mirror : touched zone.mirror bar.mirror = touched zone bar := by
  simp only [touched, Zone.mirror, Bar.mirror, neg_le_neg_iff]
  exact Bool.and_comm _ _

omit [PyMath F] [ExactMath F] in
theorem broken_mirror (atrValue : F) :
    cfg.broken zone.mirror bar.mirror atrValue = cfg.broken zone bar atrValue := by
  have below : -zone.bottom + cfg.breakBufferAtr * atrValue < -bar.close ↔
      bar.close < zone.bottom - cfg.breakBufferAtr * atrValue := by
    constructor <;> intro _ <;> linarith
  have above : -bar.close < -zone.top - cfg.breakBufferAtr * atrValue ↔
      zone.top + cfg.breakBufferAtr * atrValue < bar.close := by
    constructor <;> intro _ <;> linarith
  cases kind : zone.kind <;>
    simp [broken, Zone.mirror, Bar.mirror, ZoneKind.mirror, kind, below, above]

theorem mitigated_mirror : cfg.mitigated zone.mirror bar.mirror = cfg.mitigated zone bar := by
  have height : -zone.bottom - -zone.top = zone.top - zone.bottom := by ring
  unfold mitigated
  simp only [Zone.mirror, Bar.mirror, height, pyMin_eq_min, pyMax_eq_max, ExactMath.ofRat_eq,
    Rat.cast_zero]
  by_cases ordered : 0 < zone.top - zone.bottom
  · have clamped : min (max (-bar.close) (-zone.top)) (-zone.bottom) =
        -min (max bar.close zone.bottom) zone.top := by
      rw [max_neg_neg, min_neg_neg, max_min_distrib_right, max_eq_left (sub_pos.mp ordered).le]
    rw [clamped]
    cases zone.kind <;> simp only [ZoneKind.mirror, neg_sub_neg]
  · simp [ordered]

theorem update_mirror (atrValue : F) :
    cfg.update zone.mirror bar.mirror atrValue = (cfg.update zone bar atrValue).mirror := by
  have state : zone.mirror.state = zone.state := rfl
  simp only [update, touched_mirror, broken_mirror, mitigated_mirror, state]
  split
  · rfl
  · split
    · rfl
    · split <;> rfl

theorem update_mirrored (atrValue : F) :
    cfg.update zone.mirror bar.mirror atrValue = (cfg.update zone bar atrValue).mirror ∧
      (cfg.update zone.mirror bar.mirror atrValue).state = (cfg.update zone bar atrValue).state ∧
      (cfg.update zone.mirror bar.mirror atrValue).touches =
        (cfg.update zone bar atrValue).touches := by
  rw [update_mirror]
  exact ⟨rfl, rfl, rfl⟩

theorem update_mirrored_mitigated :
    (zoneEngineConfig.update Sample.demandZone (Sample.candle 196 106 100) 1).state = .mitigated ∧
      zoneEngineConfig.update Sample.demandZone.mirror (Sample.candle 196 106 100).mirror 1 =
        (zoneEngineConfig.update Sample.demandZone (Sample.candle 196 106 100) 1).mirror := by
  constructor
  · decide +kernel
  · exact (update_mirrored zoneEngineConfig Sample.demandZone (Sample.candle 196 106 100) 1).1

end ZoneEngineConfig

theorem resolveRegime_mirror (raw : String) :
    resolveRegime (mirrorRegime raw) = (resolveRegime raw).map RegimeState.mirror := by
  unfold mirrorRegime resolveRegime
  cases known : RegimeState.ofValue raw with
  | none => exact known
  | some regime => exact RegimeState.ofValue_value _

theorem mirrorTrend_up (trend : String) : mirrorTrend trend = "down" ↔ trend = "up" := by
  unfold mirrorTrend
  split
  · simp [*]
  · split
    · rename_i down
      simp [down]
    · rename_i up down
      exact iff_of_false down up

theorem mirrorTrend_down (trend : String) : mirrorTrend trend = "up" ↔ trend = "down" := by
  unfold mirrorTrend
  split
  · rename_i up
    simp [up]
  · split
    · simp [*]
    · rename_i up down
      exact iff_of_false up down

namespace ConfluenceScorer

variable (scorer : ConfluenceScorer ℚ) (inputs : ConfluenceInputs ℚ)

theorem zoneMatches_mirror : inputs.mirror.zoneMatches = inputs.zoneMatches := by
  unfold ConfluenceInputs.zoneMatches ConfluenceInputs.mirror
  cases inputs.direction <;> cases inputs.zoneKindTouched with
  | none => rfl
  | some kind => cases kind <;> rfl

theorem trendOk_mirror : inputs.mirror.trendOk = inputs.trendOk := by
  unfold ConfluenceInputs.trendOk ConfluenceInputs.mirror
  cases inputs.direction
  · exact decide_eq_decide.mpr (mirrorTrend_up inputs.htfTrend)
  · exact decide_eq_decide.mpr (mirrorTrend_down inputs.htfTrend)

theorem fadingRange_mirror : inputs.mirror.fadingRange = inputs.fadingRange := by
  unfold ConfluenceInputs.fadingRange ConfluenceInputs.mirror
  cases inputs.regime <;> rfl

theorem regimeOk_mirror : inputs.mirror.regimeOk = inputs.regimeOk := by
  unfold ConfluenceInputs.regimeOk ConfluenceInputs.mirror
  cases inputs.direction <;> cases inputs.regime <;> rfl

theorem hardFail_mirror : scorer.hardFail inputs.mirror = scorer.hardFail inputs := by
  unfold hardFail
  rw [zoneMatches_mirror, regimeOk_mirror]
  rfl

theorem evaluate_mirror :
    (scorer.evaluate inputs.mirror).passed = (scorer.evaluate inputs).passed ∧
      (scorer.evaluate inputs.mirror).score = (scorer.evaluate inputs).score ∧
      (scorer.evaluate inputs.mirror).components = (scorer.evaluate inputs).components := by
  have components : (scorer.evaluate inputs.mirror).components =
      (scorer.evaluate inputs).components := by
    simp only [evaluate, zoneMatches_mirror, trendOk_mirror, fadingRange_mirror, regimeOk_mirror]
    rfl
  have score : (scorer.evaluate inputs.mirror).score = (scorer.evaluate inputs).score := by
    rw [Signalling.evaluate_score, Signalling.evaluate_score, zoneMatches_mirror, trendOk_mirror,
      fadingRange_mirror, regimeOk_mirror]
    rfl
  have passed (given : ConfluenceInputs ℚ) : (scorer.evaluate given).passed =
      (!scorer.hardFail given && decide (scorer.minScore ≤ ofInt (scorer.evaluate given).score)) :=
    rfl
  rw [passed, passed, hardFail_mirror, score]
  exact ⟨rfl, rfl, components⟩

end ConfluenceScorer

/-! The engine -/

namespace SignalEngine

variable (engine : SignalEngine ℚ) (ltf : LtfSnapshot ℚ) (market : MarketContext ℚ)

theorem contains_mirror (zone : Zone ℚ) (price : ℚ) :
    contains zone.mirror (-price) = contains zone price := by
  simp only [contains, Zone.mirror, neg_le_neg_iff]
  exact Bool.and_comm _ _

theorem directionOf_mirror (kind : ZoneKind) :
    directionOf kind.mirror = (directionOf kind).mirror := by
  cases kind <;> rfl

theorem find?_mirror {found : Zone ℚ → Bool} {mirrored : Zone ℚ → Bool}
    (same : ∀ zone, mirrored zone.mirror = found zone) :
    ltf.mirror.zones.find? mirrored = (ltf.zones.find? found).map Zone.mirror := by
  rw [LtfSnapshot.mirror, List.find?_map]
  exact congrArg (fun test => (ltf.zones.find? test).map Zone.mirror) (funext same)

theorem zoneTouch_mirror : zoneTouch ltf.mirror = (zoneTouch ltf).map ZoneKind.mirror := by
  unfold zoneTouch
  have same (zone : Zone ℚ) : (decide (zone.mirror.state ≠ .broken ∧
      zone.mirror.state ≠ .mitigated) && contains zone.mirror ltf.mirror.close) =
        (decide (zone.state ≠ .broken ∧ zone.state ≠ .mitigated) && contains zone ltf.close) := by
    rw [← contains_mirror zone ltf.close]
    rfl
  rw [find?_mirror ltf same]
  cases ltf.zones.find? _ <;> rfl

theorem bbmaProxy_mirror : bbmaProxy ltf.mirror = bbmaProxy ltf := by
  have above : (100 - ltf.rsi < 70) = (30 < ltf.rsi) := by
    rw [eq_iff_iff]
    constructor <;> intro _ <;> linarith
  have below : (30 < 100 - ltf.rsi) = (ltf.rsi < 70) := by
    rw [eq_iff_iff]
    constructor <;> intro _ <;> linarith
  have constants : (ofRat 70 : ℚ) = 70 ∧ (ofRat 30 : ℚ) = 30 := ⟨rfl, rfl⟩
  simp only [bbmaProxy, LtfSnapshot.mirror, neg_le_neg_iff, constants, above, below]
  exact Bool.or_comm _ _

theorem zoneEdge_mirror (kind : ZoneKind) :
    zoneEdge kind.mirror ltf.mirror = -zoneEdge kind ltf := by
  unfold zoneEdge
  have same (zone : Zone ℚ) : (decide (zone.mirror.kind = kind.mirror) &&
      contains zone.mirror ltf.mirror.close) =
        (decide (zone.kind = kind) && contains zone ltf.close) := by
    have kinds : zone.mirror.kind = kind.mirror ↔ zone.kind = kind := by
      change zone.kind.mirror = kind.mirror ↔ zone.kind = kind
      cases zone.kind <;> cases kind <;> decide
    rw [decide_eq_decide.mpr kinds, ← contains_mirror zone ltf.close]
    rfl
  rw [find?_mirror ltf same]
  cases ltf.zones.find? _ with
  | none => rfl
  | some zone => cases kind <;> rfl

theorem levels_mirror (kind : ZoneKind) :
    engine.levels ltf.mirror (directionOf kind.mirror) kind.mirror =
      (-(engine.levels ltf (directionOf kind) kind).1,
        -(engine.levels ltf (directionOf kind) kind).2.1,
        -(engine.levels ltf (directionOf kind) kind).2.2) := by
  have edge := zoneEdge_mirror ltf kind
  have atr : ltf.mirror.atr = ltf.atr := rfl
  have close : ltf.mirror.close = -ltf.close := rfl
  cases kind with
  | demand =>
      have stop (room least : ℚ) : max (-zoneEdge .demand ltf + room) (-ltf.close + least) =
          -min (zoneEdge .demand ltf - room) (ltf.close - least) := by
        rw [← max_neg_neg, neg_sub', neg_sub', sub_neg_eq_add, sub_neg_eq_add]
      simp only [ZoneKind.mirror] at edge
      simp only [levels, directionOf, ZoneKind.mirror, edge, atr, close, pyMin_eq_min,
        pyMax_eq_max, stop, Prod.mk.injEq, true_and]
      constructor <;> ring
  | supply =>
      have stop (room least : ℚ) : min (-zoneEdge .supply ltf - room) (-ltf.close - least) =
          -max (zoneEdge .supply ltf + room) (ltf.close + least) := by
        rw [← min_neg_neg, neg_add', neg_add']
      simp only [ZoneKind.mirror] at edge
      simp only [levels, directionOf, ZoneKind.mirror, edge, atr, close, pyMin_eq_min,
        pyMax_eq_max, stop, Prod.mk.injEq, true_and]
      constructor <;> ring

theorem buildSignal_mirror (id : String) (kind : ZoneKind) (score : ℕ)
    (components : ConfluenceComponents) :
    engine.buildSignal id ltf.mirror (directionOf kind).mirror kind.mirror score components =
      (engine.buildSignal id ltf (directionOf kind) kind score components).mirror := by
  unfold buildSignal
  rw [← directionOf_mirror, levels_mirror, directionOf_mirror]
  simp only [Signal.mirror, LtfSnapshot.mirror, PyMath.roundTo, DecimalRounding.roundDigits_neg]

theorem inputs_mirror (kind : ZoneKind) (regime : RegimeState) :
    engine.inputs ltf.mirror market.mirror kind.mirror regime.mirror =
      (engine.inputs ltf market kind regime).mirror := by
  simp only [inputs, ConfluenceInputs.mirror, directionOf_mirror, bbmaProxy_mirror]
  rfl

theorem evaluate_mirrored (id : String) :
    (engine.evaluate id ltf.mirror market.mirror).signal =
        (engine.evaluate id ltf market).signal.map Signal.mirror ∧
      (engine.evaluate id ltf.mirror market.mirror).score =
        (engine.evaluate id ltf market).score := by
  unfold evaluate
  rw [zoneTouch_mirror]
  cases zoneTouch ltf with
  | none => exact ⟨rfl, rfl⟩
  | some kind =>
      have regimes := resolveRegime_mirror market.regime
      change resolveRegime market.mirror.regime = _ at regimes
      simp only [Option.map_some, regimes]
      cases resolveRegime market.regime with
      | none => exact ⟨rfl, rfl⟩
      | some regime =>
          have range : regime.mirror = .s0Range ↔ regime = .s0Range := by
            cases regime <;> decide
          obtain ⟨passed, score, components⟩ :=
            ConfluenceScorer.evaluate_mirror ⟨engine.minConfluence, engine.minPWin⟩
              (engine.inputs ltf market kind regime)
          simp only [Option.map_some, inputs_mirror, ConfluenceScorer.trendOk_mirror, range,
            calculateScore, passed, score, components]
          split
          · exact ⟨rfl, rfl⟩
          · split
            · exact ⟨rfl, rfl⟩
            · split
              · rename_i passes
                simp only [passes, if_true]
                exact ⟨congrArg some (buildSignal_mirror engine ltf id kind _ _), trivial⟩
              · rename_i refused
                simp only [refused]
                exact ⟨rfl, rfl⟩

end SignalEngine

end Vix75
