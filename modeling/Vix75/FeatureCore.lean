import Mathlib.Data.PNat.Basic
import Vix75.PyMath

/-! feature-service: the indicators, the feature frame, the zone engine and the snapshot of
a bar window, over any number type. A missing entry of a series is a NaN. -/

namespace Vix75

open PyMath

/-- `np.log`, finite on positive numbers only, `np.sqrt`, and the indices that scipy's
`find_peaks` returns for a distance. -/
structure Numerics (F : Type) where
  log : F → Option F
  sqrt : F → F
  findPeaks : ℕ → List F → List ℕ

abbrev Series (F : Type) := List (Option F)

section Indicators

variable {F : Type} [Add F] [Sub F] [Mul F] [Div F] [LT F] [LE F] [DecidableLT F] [DecidableLE F]
variable [DecidableEq F] [PyMath F]

def total (values : List F) : F := values.foldl (· + ·) (ofRat 0)

def mean (values : List F) : F := total values / ofInt values.length

def slidingWindows {α : Type} (size : ℕ) : List α → List (List α)
  | [] => []
  | first :: rest =>
      if (first :: rest).length < size then []
      else (first :: rest).take size :: slidingWindows size rest

def std (numerics : Numerics F) (ddof : ℕ) (values : List F) : F :=
  let centre := mean values
  numerics.sqrt (total (values.map fun value => (value - centre) * (value - centre)) /
    ofInt ((values.length : ℤ) - ddof))

def shifted (close : List F) : List F :=
  match close with
  | [] => []
  | first :: _ => first :: close.dropLast

def trueRange (high low close : List F) : List F :=
  let ranges := List.zipWith (fun (bar : F × F) previous =>
    pyMax (pyMax (bar.1 - bar.2) (PyMath.abs (bar.1 - previous))) (PyMath.abs (bar.2 - previous)))
    (high.zip low) (shifted close)
  match ranges, high, low with
  | _ :: rest, firstHigh :: _, firstLow :: _ => (firstHigh - firstLow) :: rest
  | _, _, _ => []

def emaFrom (alpha decay : F) : F → List F → List F
  | _, [] => []
  | acc, value :: rest =>
      let next := value * alpha + decay * acc
      next :: emaFrom alpha decay next rest

def ema (values : List F) (period : ℕ+) : List F :=
  match values with
  | [] => []
  | first :: rest =>
      let alpha := ofRat 2 / (ofInt (period : ℕ) + ofRat 1)
      first :: emaFrom alpha (ofRat 1 - alpha) first rest

def wilderSmooth (values : List F) (period : ℕ+) : List F := ema values (2 * period - 1)

def atr (high low close : List F) (period : ℕ+) : Series F :=
  match wilderSmooth (trueRange high low close) period with
  | [] => []
  | _ :: rest => none :: rest.map some

def rsi (close : List F) (period : ℕ+) : Series F :=
  if close.length ≤ period then List.replicate close.length none
  else
    let delta := List.zipWith (· - ·) close (shifted close)
    let gain := delta.map fun value => if ofRat 0 < value then value else ofRat 0
    let loss := delta.map fun value => if value < ofRat 0 then ofRat 0 - value else ofRat 0
    let out := List.zipWith (fun averageGain averageLoss =>
      if averageLoss = ofRat 0 then ofRat 100
      else ofRat 100 - ofRat 100 / (ofRat 1 + averageGain / averageLoss))
      (wilderSmooth gain period) (wilderSmooth loss period)
    List.replicate period none ++ (out.drop period).map some

structure Bands (F : Type) where
  mid : Series F
  upper : Series F
  lower : Series F

def bollingerBands (numerics : Numerics F) (close : List F) (period : ℕ) (numStd : F) :
    Bands F :=
  if close.length < period then
    let missing := List.replicate close.length none
    ⟨missing, missing, missing⟩
  else
    let windows := slidingWindows period close
    let padded (band : List F → F) : Series F :=
      List.replicate (period - 1) none ++ windows.map fun window => some (band window)
    ⟨padded mean, padded fun window => mean window + numStd * std numerics 0 window,
      padded fun window => mean window - numStd * std numerics 0 window⟩

def logReturns (numerics : Numerics F) (close : List F) : Series F :=
  let returns := List.zipWith (fun value previous =>
    numerics.log (if ofRat 0 < previous then value / previous else ofRat 1)) close (shifted close)
  match returns with
  | [] => []
  | _ :: rest => some (ofRat 0) :: rest

def realizedVolatility (numerics : Numerics F) (returns : Series F) (window : ℕ) : Series F :=
  if returns.length < window then List.replicate returns.length none
  else List.replicate (window - 1) none ++
    (slidingWindows window returns).map fun values => (values.mapM id).map (std numerics 1)

def maximum (values : List F) : F := values.tail.foldl pyMax (values.headD (ofRat 0))

def minimum (values : List F) : F := values.tail.foldl pyMin (values.headD (ofRat 0))

structure Oscillator (F : Type) where
  k : Series F
  d : Series F

def stochastic (high low close : List F) (kPeriod dPeriod : ℕ) : Oscillator F :=
  if high.length < kPeriod then
    ⟨List.replicate high.length none, List.replicate high.length none⟩
  else
    let extremes := ((slidingWindows kPeriod high).map maximum).zip
      ((slidingWindows kPeriod low).map minimum)
    let raw := List.zipWith (fun extreme value =>
      let denom := extreme.1 - extreme.2
      if ofRat 0 < denom then ofRat 100 * (value - extreme.2) / denom else ofRat 50)
      extremes (close.drop (kPeriod - 1))
    let d := if raw.length < dPeriod then List.replicate high.length none
      else List.replicate (kPeriod + dPeriod - 2) none ++
        (slidingWindows dPeriod raw).map fun window => some (mean window)
    ⟨List.replicate (kPeriod - 1) none ++ raw.map some, d⟩

end Indicators

def featureWindow : ℕ := 500
def warmupIndex : ℕ := 199

structure FeatureFrame (F : Type) where
  atr : Series F
  atrNorm : Series F
  rsi : Series F
  ema50 : Series F
  ema200 : Series F
  bands : Bands F
  oscillator : Oscillator F
  logReturn : Series F
  realizedVol : Series F

inductive SwingKind where
  | high
  | low
deriving DecidableEq, Repr

structure Swing (F : Type) where
  index : ℕ
  price : F
  kind : SwingKind
deriving DecidableEq

section Swings

variable {F : Type} [Sub F] [PyMath F]

def detectSwings (numerics : Numerics F) (high low : List F) (lookback : ℕ) : List (Swing F) :=
  if high.length < 2 * lookback + 1 then []
  else
    let distance := 2 * lookback + 1
    let highIdx := numerics.findPeaks distance high
    let lowIdx := numerics.findPeaks distance (low.map fun value => ofRat 0 - value)
    let swings := highIdx.map (fun index => Swing.mk index (high.getD index (ofRat 0)) .high) ++
      lowIdx.map (fun index => Swing.mk index (low.getD index (ofRat 0)) .low)
    swings.mergeSort fun first second => first.index ≤ second.index

def latestPivots (numerics : Numerics F) (high low : List F) (lookback : ℕ) :
    Option F × Option F :=
  let swings := detectSwings numerics high low lookback
  let last (kind : SwingKind) := (swings.filter fun swing => swing.kind = kind).getLast?
  ((last .high).map Swing.price, (last .low).map Swing.price)

end Swings

/-! Zone engine -/

structure ZoneEngineConfig (F : Type) where
  impulseBodyAtrMult : F
  maxBaseCandles : ℕ := 4
  mitigationLevel : F
  breakBufferAtr : F
  expiryBars : ℕ := 500
  maxZones : ℕ := 12
  atrPeriod : ℕ+ := 14

structure Origin (F : Type) where
  index : ℕ
  zone : Zone F
deriving DecidableEq

structure Snapshot (F : Type) where
  symbol : String
  timeframe : String
  ts : Timestamp
  close : F
  atr : Option F
  atrNorm : Option F
  rsi : Option F
  ema50 : Option F
  ema200 : Option F
  bbUpper : Option F
  bbMid : Option F
  bbLower : Option F
  stochK : Option F
  stochD : Option F
  logReturn : Option F
  realizedVol : Option F
  swingHigh : Option F
  swingLow : Option F
  zones : List (Zone F)
deriving DecidableEq

section Features

variable {F : Type} [Add F] [Sub F] [Mul F] [Div F] [LT F] [LE F] [DecidableLT F] [DecidableLE F]
variable [DecidableEq F] [PyMath F]

def buildFrame (numerics : Numerics F) (bars : List (Bar F)) : FeatureFrame F :=
  let high := bars.map Bar.high
  let low := bars.map Bar.low
  let close := bars.map Bar.close
  let atrValues := Vix75.atr high low close 14
  let returns := logReturns numerics close
  {
    atr := atrValues
    atrNorm := List.zipWith (fun value price =>
      if ofRat 0 < price then value.map (· / price) else none) atrValues close
    rsi := Vix75.rsi close 14
    ema50 := (ema close 50).map some
    ema200 := (ema close 200).map some
    bands := bollingerBands numerics close 20 (ofRat 2)
    oscillator := stochastic high low close 14 3
    logReturn := returns
    realizedVol := realizedVolatility numerics returns 21 }

def FeatureFrame.series (frame : FeatureFrame F) : List (Series F) :=
  [frame.atr, frame.atrNorm, frame.rsi, frame.ema50, frame.ema200, frame.bands.upper,
   frame.bands.mid, frame.bands.lower, frame.oscillator.k, frame.oscillator.d, frame.logReturn,
   frame.realizedVol]

def frameIsComplete (length : ℕ) (frame : FeatureFrame F) : Bool :=
  decide (warmupIndex < length) &&
    frame.series.all fun series => (series.drop warmupIndex).all Option.isSome

def zoneEngineConfig : ZoneEngineConfig F where
  impulseBodyAtrMult := ofRat (12 / 10)
  mitigationLevel := ofRat (3 / 4)
  breakBufferAtr := ofRat (1 / 4)

/-- `np.convolve(body, np.ones(20) / 20, mode="same")` for at least 20 entries: entry `i`
sums over `i - 10` to `i + 9`, cut off at the ends. -/
def averageBody (body : List F) : List F :=
  (List.range body.length).map fun i =>
    total (((body.take (i + 10)).drop (i - 10)).map fun value => value * (ofRat 1 / ofRat 20))

namespace ZoneEngineConfig

variable (cfg : ZoneEngineConfig F)

structure Detection (F : Type) where
  bars : List (Bar F)
  body : List F
  avgBody : List F
  impulseMask : List Bool

def detection (bars : List (Bar F)) : Detection F :=
  let body := bars.map fun (bar : Bar F) => PyMath.abs (bar.close - bar.open_)
  let avgBody := averageBody body
  let atrValues := Vix75.atr (bars.map Bar.high) (bars.map Bar.low) (bars.map Bar.close)
    cfg.atrPeriod
  let threshold := atrValues.map fun value => cfg.impulseBodyAtrMult * value.getD (ofRat 0)
  {
    bars := bars
    body := body
    avgBody := avgBody
    impulseMask := List.zipWith (fun size limit => decide (limit < size)) body
      (List.zipWith (fun limit average => pyMax limit (average * ofRat (3 / 2)))
        threshold avgBody) }

def baseLength (arrays : Detection F) (i : ℕ) : ℕ → ℕ → ℕ
  | 0, length => length
  | remaining + 1, length =>
      if length < i then
        let baseStart := i - 1 - length
        if arrays.body.getD baseStart (ofRat 0) ≤
            pyMax (arrays.avgBody.getD baseStart (ofRat 0)) (ofRat (1 / 10 ^ 12)) then
          baseLength arrays i remaining (length + 1)
        else length
      else length

def zoneAt (mint : ℕ → String) (arrays : Detection F) (i baseLen : ℕ) : Option (Origin F) :=
  match arrays.bars[i]? with
  | none => none
  | some impulse =>
      if baseLen = 0 then none
      else
        let span := (arrays.bars.take (i + 1)).drop (i - baseLen)
        some ⟨i, {
          id := mint i
          kind := if impulse.close < impulse.open_ then .supply else .demand
          top := maximum (span.map Bar.high)
          bottom := minimum (span.map Bar.low)
          createdTs := impulse.ts - impulse.ts % 1000000
          score := baseLen }⟩

/-- `while i < n - 1`, with fuel. -/
def scan (mint : ℕ → String) (arrays : Detection F) : ℕ → ℕ → List (Origin F)
  | 0, _ => []
  | fuel + 1, i =>
      if i + 1 < arrays.bars.length then
        if arrays.impulseMask.getD i false then
          let baseLen := baseLength arrays i cfg.maxBaseCandles 0
          (zoneAt mint arrays i baseLen).toList ++ scan mint arrays fuel (i + baseLen + 1)
        else scan mint arrays fuel (i + 1)
      else []

/-- `build_zones`, with the origin of every zone; `mint` names the zone that starts at a
candle. -/
def detectZones (mint : ℕ → String) (bars : List (Bar F)) : Except PyError (List (Origin F)) :=
  if bars.length < cfg.atrPeriod + 5 then .ok []
  else if bars.length < 20 then
    .error (.valueError "operands could not be broadcast together")
  else
    let found := cfg.scan mint (cfg.detection bars) bars.length (cfg.atrPeriod + 1)
    .ok (if cfg.maxZones = 0 then found else found.drop (found.length - cfg.maxZones))

def buildZones (mint : ℕ → String) (bars : List (Bar F)) : Except PyError (List (Zone F)) := do
  .ok ((← cfg.detectZones mint bars).map Origin.zone)

def touched (zone : Zone F) (bar : Bar F) : Bool :=
  decide (zone.bottom ≤ bar.high) && decide (bar.low ≤ zone.top)

def broken (zone : Zone F) (bar : Bar F) (atrValue : F) : Bool :=
  let buffer := cfg.breakBufferAtr * atrValue
  match zone.kind with
  | .demand => decide (bar.close < zone.bottom - buffer)
  | .supply => decide (zone.top + buffer < bar.close)

def mitigated (zone : Zone F) (bar : Bar F) : Bool :=
  let zoneHeight := zone.top - zone.bottom
  let clamped := pyMin (pyMax bar.close zone.bottom) zone.top
  let depth := match zone.kind with
    | .demand => zone.top - clamped
    | .supply => clamped - zone.bottom
  decide (ofRat 0 < zoneHeight) && decide (cfg.mitigationLevel * zoneHeight ≤ depth)

def update (zone : Zone F) (bar : Bar F) (atrValue : F) : Zone F :=
  if zone.state = .broken then zone
  else if cfg.broken zone bar atrValue then { zone with state := .broken }
  else if touched zone bar then { zone with
    touches := zone.touches + 1
    state := if cfg.mitigated zone bar then .mitigated
      else if zone.state = .fresh then .tested else zone.state }
  else zone

def active (zone : Zone F) : Bool :=
  decide (zone.state ≠ .broken) && decide (zone.touches ≤ cfg.expiryBars)

def updateAll (zones : List (Zone F)) (bar : Bar F) (atrValue : F) :
    List (Zone F) × List (Zone F) :=
  let updated := zones.map fun zone => cfg.update zone bar atrValue
  (updated, updated.filter cfg.active)

end ZoneEngineConfig

def snapshotFromBars (numerics : Numerics F) (mint : ℕ → String) (bars : List (Bar F))
    (symbol timeframe : String) : Except PyError (Snapshot F) :=
  match bars.getLast? with
  | none => .error (.valueError "need at least 200 bars, got 0")
  | some latest =>
      if bars.length < warmupIndex + 1 then
        .error (.valueError ("need at least 200 bars, got " ++ toString bars.length))
      else
        let frame := buildFrame numerics bars
        if frameIsComplete bars.length frame then do
          let zones ← (zoneEngineConfig : ZoneEngineConfig F).buildZones mint bars
          let pivots := latestPivots numerics (bars.map Bar.high) (bars.map Bar.low) 5
          let last (series : Series F) : Option F := series.getLast?.join
          .ok {
            symbol := symbol
            timeframe := timeframe
            ts := latest.ts
            close := latest.close
            atr := last frame.atr
            atrNorm := last frame.atrNorm
            rsi := last frame.rsi
            ema50 := last frame.ema50
            ema200 := last frame.ema200
            bbUpper := last frame.bands.upper
            bbMid := last frame.bands.mid
            bbLower := last frame.bands.lower
            stochK := last frame.oscillator.k
            stochD := last frame.oscillator.d
            logReturn := last frame.logReturn
            realizedVol := last frame.realizedVol
            swingHigh := pivots.1
            swingLow := pivots.2
            zones := zones.filter fun zone => zone.state ≠ .broken }
        else .error (.valueError "feature window incomplete; refusing to publish NaNs")

end Features

namespace Sample

def approximate : Numerics ℚ where
  log := fun value =>
    let z := (value - 1) / (value + 1)
    if 0 < value then some (2 * (z + z ^ 3 / 3 + z ^ 5 / 5)) else none
  sqrt := fun value => (Nat.sqrt ⌊value * 10 ^ 12⌋.toNat : ℚ) / 10 ^ 6
  findPeaks := fun _ values => (List.range values.length).filter fun index =>
    match values[index - 1]?, values[index]?, values[index + 1]? with
    | some before, some here, some after => decide (before < here ∧ after < here)
    | _, _, _ => false

end Sample

end Vix75
