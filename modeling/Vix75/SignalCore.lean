import Vix75.FeatureCore

/-! signal-service: confluence scoring and the gating engine, over any number type. -/

namespace Vix75

open PyMath

structure ConfluenceInputs (F : Type) where
  direction : Direction
  htfTrend : String
  regime : RegimeState
  zoneKindTouched : Option ZoneKind
  bbmaConfirms : Bool
  rsiDivergence : Bool
  pWin : Option F := none
  allowS0Fade : Bool := false

structure ConfluenceResult where
  passed : Bool
  score : ℕ
  maxScore : ℕ
  components : ConfluenceComponents
  rejections : List String
deriving DecidableEq

namespace ConfluenceInputs

variable {F : Type} (inputs : ConfluenceInputs F)

def zoneMatches : Bool :=
  match inputs.direction, inputs.zoneKindTouched with
  | .buy, some .demand => true
  | .sell, some .supply => true
  | _, _ => false

def trendOk : Bool :=
  match inputs.direction with
  | .buy => inputs.htfTrend = "up"
  | .sell => inputs.htfTrend = "down"

def fadingRange : Bool := inputs.allowS0Fade && decide (inputs.regime = .s0Range)

def regimeOk : Bool :=
  match inputs.direction, inputs.regime with
  | .buy, .s1TrendUp => true
  | .sell, .s2TrendDown => true
  | _, .s0Range => inputs.allowS0Fade
  | _, _ => false

end ConfluenceInputs

structure ConfluenceScorer (F : Type) where
  minScore : F
  minPWin : F

structure LtfSnapshot (F : Type) where
  symbol : String
  timeframe : String
  ts : Timestamp
  close : F
  atr : F
  rsi : F
  ema50 : F
  ema200 : F
  zones : List (Zone F) := []
deriving DecidableEq

/-- `regime` is a regime's value or "unknown". -/
structure MarketContext (F : Type) where
  htfTrend : String
  regime : String
  pWin : Option F := none
  rsiDivergence : Option Bool := none
deriving DecidableEq

structure EvaluationResult (F : Type) where
  signal : Option (Signal F)
  score : F
  maxScore : ℕ
  rejections : List String
deriving DecidableEq

structure SignalEngine (F : Type) where
  minConfluence : F
  minPWin : F
  allowS0Fade : Bool
  slAtrBuffer : F
  rrTp1 : F
  rrTp2 : F

def resolveRegime (raw : String) : Option RegimeState := RegimeState.ofValue raw

section Signals

variable {F : Type} [Add F] [Sub F] [Mul F] [Div F] [LT F] [LE F] [DecidableLT F] [DecidableLE F]
variable [DecidableEq F] [PyMath F]

namespace ConfluenceScorer

variable (scorer : ConfluenceScorer F)

def metaLabelOk (inputs : ConfluenceInputs F) : Bool :=
  match inputs.pWin with
  | some pWin => decide (scorer.minPWin < pWin)
  | none => false

def metaLabelRejection (inputs : ConfluenceInputs F) : String :=
  match inputs.pWin with
  | none => "meta-label missing/below threshold"
  | some pWin => "P(win)=" ++ fixed 3 pWin ++ " <= " ++ str scorer.minPWin

def hardFail (inputs : ConfluenceInputs F) : Bool :=
  !inputs.zoneMatches || !inputs.regimeOk ||
    match inputs.pWin with
    | none => true
    | some pWin => decide (pWin ≤ scorer.minPWin)

def evaluate (inputs : ConfluenceInputs F) : ConfluenceResult :=
  let components : ConfluenceComponents := {
    htfTrendAligned := inputs.trendOk || inputs.fadingRange
    zoneTouch := inputs.zoneMatches
    bbmaConfirm := inputs.bbmaConfirms
    rsiDivergence := inputs.rsiDivergence
    regimeOk := inputs.regimeOk
    metaLabelOk := scorer.metaLabelOk inputs }
  let checks : List (Bool × ℕ × String) :=
    [(components.zoneTouch, 2, "no matching S/D zone touch"),
     (components.htfTrendAligned, 1, "direction counter to HTF trend without fade mode"),
     (components.bbmaConfirm, 1, "BBMA confirmation missing"),
     (components.rsiDivergence, 1, "RSI divergence missing"),
     (components.regimeOk, 1,
       "HMM regime " ++ inputs.regime.value ++ " blocks " ++ inputs.direction.value),
     (components.metaLabelOk, 1, scorer.metaLabelRejection inputs)]
  let score : ℕ := ((checks.filter fun check => check.1).map fun check => check.2.1).sum
  {
    passed := !scorer.hardFail inputs && decide (scorer.minScore ≤ ofInt score)
    score := score
    maxScore := 7
    components := components
    rejections := (checks.filter fun check => !check.1).map fun check => check.2.2 }

end ConfluenceScorer

def calculateScore (inputs : ConfluenceInputs F) (minScore minPWin : F) : ConfluenceResult :=
  (ConfluenceScorer.mk minScore minPWin).evaluate inputs

def htfTrendFromEmas (ema50 ema200 : F) : String :=
  if ema200 < ema50 then "up" else if ema50 < ema200 then "down" else "flat"

namespace SignalEngine

def reject (reason : String) : EvaluationResult F := ⟨none, ofRat 0, 7, [reason]⟩

def contains (zone : Zone F) (price : F) : Bool :=
  decide (zone.bottom ≤ price) && decide (price ≤ zone.top)

def directionOf : ZoneKind → Direction
  | .demand => .buy
  | .supply => .sell

def zoneTouch (ltf : LtfSnapshot F) : Option ZoneKind :=
  let active := ltf.zones.find? fun zone =>
    decide (zone.state ≠ .broken ∧ zone.state ≠ .mitigated) && contains zone ltf.close
  active.map Zone.kind

def bbmaProxy (ltf : LtfSnapshot F) : Bool :=
  (decide (ltf.ema50 ≤ ltf.close) && decide (ltf.rsi < ofRat 70)) ||
    (decide (ltf.close ≤ ltf.ema50) && decide (ofRat 30 < ltf.rsi))

/-- `_zone_edge`: the far edge of the first zone of that kind, active or not. -/
def zoneEdge (kind : ZoneKind) (ltf : LtfSnapshot F) : F :=
  match ltf.zones.find? fun zone => decide (zone.kind = kind) && contains zone ltf.close with
  | some zone => match kind with
      | .demand => zone.bottom
      | .supply => zone.top
  | none => ltf.close

variable (engine : SignalEngine F)

def levels (ltf : LtfSnapshot F) (direction : Direction) (kind : ZoneKind) : F × F × F :=
  let entry := ltf.close
  let edge := zoneEdge kind ltf
  match direction with
  | .buy =>
      let sl := pyMin (edge - engine.slAtrBuffer * ltf.atr) (entry - ofRat (1 / 10) * ltf.atr)
      let risk := entry - sl
      (sl, entry + engine.rrTp1 * risk, entry + engine.rrTp2 * risk)
  | .sell =>
      let sl := pyMax (edge + engine.slAtrBuffer * ltf.atr) (entry + ofRat (1 / 10) * ltf.atr)
      let risk := sl - entry
      (sl, entry - engine.rrTp1 * risk, entry - engine.rrTp2 * risk)

def buildSignal (id : String) (ltf : LtfSnapshot F) (direction : Direction) (kind : ZoneKind)
    (score : ℕ) (components : ConfluenceComponents) : Signal F :=
  let (sl, tp1, tp2) := engine.levels ltf direction kind
  {
    id := id
    createdTs := ltf.ts
    symbol := ltf.symbol
    ltfTimeframe := ltf.timeframe
    direction := direction
    entry := roundTo 5 ltf.close
    sl := roundTo 5 sl
    tp1 := roundTo 5 tp1
    tp2 := roundTo 5 tp2
    score := score
    maxScore := 7
    components := components }

def inputs (ltf : LtfSnapshot F) (market : MarketContext F) (kind : ZoneKind)
    (regime : RegimeState) : ConfluenceInputs F where
  direction := directionOf kind
  htfTrend := market.htfTrend
  regime := regime
  zoneKindTouched := some kind
  bbmaConfirms := bbmaProxy ltf
  rsiDivergence := market.rsiDivergence.getD false
  pWin := market.pWin
  allowS0Fade := engine.allowS0Fade

def evaluate (id : String) (ltf : LtfSnapshot F) (market : MarketContext F) :
    EvaluationResult F :=
  match zoneTouch ltf with
  | none => reject "no_active_zone_touch"
  | some kind =>
      match resolveRegime market.regime with
      | none => reject ("invalid_signal: unknown HMM regime '" ++ market.regime ++
          "' (fail-closed)")
      | some regime =>
          let inputs := engine.inputs ltf market kind regime
          if regime = .s0Range ∧ engine.allowS0Fade = false then
            reject ("regime_gate_blocked: " ++ regime.value)
          else if inputs.trendOk = false ∧ engine.allowS0Fade = false then
            reject ("htf_alignment_blocked: " ++ inputs.direction.value ++ " against " ++
              market.htfTrend ++ " macro trend")
          else
            let result := calculateScore inputs engine.minConfluence engine.minPWin
            if result.passed then
              ⟨some (engine.buildSignal id ltf inputs.direction kind result.score
                result.components), ofInt result.score, result.maxScore, []⟩
            else ⟨none, ofInt result.score, result.maxScore, result.rejections⟩

variable {engine}

omit [Div F] [DecidableEq F] in
theorem evaluate_builds {ltf : LtfSnapshot F} {market : MarketContext F} {id : String}
    {signal : Signal F} (fired : (engine.evaluate id ltf market).signal = some signal) :
    ∃ kind score components, zoneTouch ltf = some kind ∧
      signal = engine.buildSignal id ltf (directionOf kind) kind score components := by
  unfold evaluate at fired
  split at fired
  · cases fired
  · rename_i kind touched
    split at fired
    · cases fired
    · dsimp only at fired
      split at fired
      · cases fired
      · split at fired
        · cases fired
        · split at fired
          · cases fired
            exact ⟨kind, _, _, touched, rfl⟩
          · cases fired

end SignalEngine

end Signals

end Vix75
