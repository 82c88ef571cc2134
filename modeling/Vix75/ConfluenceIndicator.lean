import Mathlib.Data.Rat.Floor
import Vix75.FeatureCore

/-! The MT5 indicator VIX75_Confluence: zones, the confluence of one bar, and the calculation that
the terminal calls. Numbers are exact; what is only drawn or shown is left out. -/

namespace Vix75

namespace Mt5

structure Inputs where
  emaSlow : ℕ := 200
  atrPeriod : ℕ := 14
  rsiOb : ℤ := 70
  rsiOs : ℤ := 30
  adxTrendMin : ℚ := 20
  impulseAtrMult : ℚ := 6 / 5
  maxBaseCandles : ℕ := 4
  breakAtrBuf : ℚ := 1 / 4
  minScore : ℚ := 9 / 2
  allowS0Fade : Bool := false
  slAtrBuffer : ℚ := 1 / 2
  tp1Rr : ℚ := 2

inductive Handle where
  | atrLtf
  | rsiLtf
  | ema50Ltf
  | ema200Ltf
  | ema50Htf
  | ema200Htf
  | adxLtf

/-- `CopyBuffer` of one value: handle, buffer and shift, which counts back from the newest bar. -/
abbrev Terminal := Handle → ℕ → ℕ → Option ℚ

def getIndValue (terminal : Terminal) (handle : Handle) (shift : ℕ) (buffer : ℕ := 0) : ℚ :=
  (terminal handle buffer shift).getD 0

def maxZones : ℕ := 24

structure SdZone where
  created : Timestamp := 0
  top : ℚ
  bottom : ℚ
  kind : ZoneKind
  state : ZoneState := .fresh
  touches : ℤ := 0
  active : Bool := true
deriving DecidableEq

def body (bar : ℕ → Bar ℚ) (index : ℕ) : ℚ := |(bar index).close - (bar index).open_|

def averageBody (bar : ℕ → Bar ℚ) (index count : ℕ) : ℚ :=
  (List.range count).foldl (fun sum j => sum + body bar (index - j)) 0 / max count 1

/-- The walk back over base candles: how many of the `position` bars below are passed. -/
def walkBase (bar : ℕ → Bar ℚ) : ℕ → ℕ → ℕ
  | 0, _ => 0
  | _, 0 => 0
  | budget + 1, position + 1 =>
      let avg := averageBody bar (position - 1) (min position 10)
      if body bar position > max avg (1 / 100000) then 0 else walkBase bar budget position + 1

variable (inputs : Inputs) (terminal : Terminal) (bar : ℕ → Bar ℚ)

/-- The zone that bar `i` leaves behind. The time of a zone is never set. -/
def newZone (i : ℕ) : Option SdZone :=
  let atr := getIndValue terminal .atrLtf i
  if i < inputs.atrPeriod + 2 ∨ atr ≤ 0 then none
  else
    let avgBody := averageBody bar i (min i 20)
    if body bar i > max (inputs.impulseAtrMult * atr) (avgBody * (3 / 2)) then
      let baseLen := walkBase bar inputs.maxBaseCandles i
      if baseLen < 1 then none
      else
        let baseStart := i - baseLen
        let span := (List.range (baseLen + 1)).map fun j => bar (baseStart + j)
        some {
          kind := if (bar i).close < (bar i).open_ then .supply else .demand
          top := span.foldl (fun top candle => max top candle.high) (bar baseStart).high
          bottom := span.foldl (fun bottom candle => min bottom candle.low) (bar baseStart).low }
    else none

def nearIdentical (zone added : SdZone) : Bool :=
  decide (zone.kind = added.kind) && zone.active &&
    decide (|zone.top - added.top| < (zone.top - zone.bottom) * (3 / 10)) &&
    decide (|zone.bottom - added.bottom| < (zone.top - zone.bottom) * (3 / 10))

def addZone (zones : List SdZone) (added : SdZone) : List SdZone :=
  if zones.any fun zone => nearIdentical zone added then zones
  else (if maxZones ≤ zones.length then zones.drop 1 else zones) ++ [added]

def detectNewZones (zones : List SdZone) (i : ℕ) : List SdZone :=
  match newZone inputs terminal bar i with
  | some added => addZone zones added
  | none => zones

def updateZone (buffer : ℚ) (candle : Bar ℚ) (zone : SdZone) : SdZone :=
  if zone.active = false then zone
  else if zone.state = .broken then { zone with active := false }
  else if zone.bottom ≤ candle.high ∧ candle.low ≤ zone.top then
    let touched := { zone with touches := zone.touches + 1 }
    if zone.kind = .demand ∧ candle.close < zone.bottom - buffer ∨
        zone.kind = .supply ∧ candle.close > zone.top + buffer then
      { touched with state := .broken, active := false }
    else if touched.touches = 1 ∧ zone.state = .fresh then { touched with state := .tested }
    else touched
  else zone

def updateZoneStates (zones : List SdZone) (i : ℕ) : List SdZone :=
  let atr := getIndValue terminal .atrLtf i
  if atr ≤ 0 then zones else zones.map (updateZone (inputs.breakAtrBuf * atr) (bar i))

/-! EvaluateBar -/

def getHtfTrend : String :=
  let e50 := getIndValue terminal .ema50Htf 1
  let e200 := getIndValue terminal .ema200Htf 1
  if e50 ≤ 0 ∨ e200 ≤ 0 then "unknown"
  else if e50 > e200 then "up"
  else if e50 < e200 then "down"
  else "flat"

def getRegimeProxy : Option RegimeState :=
  let adx := getIndValue terminal .adxLtf 1
  if adx ≤ 0 then none
  else if adx < inputs.adxTrendMin then some .s0Range
  else if getIndValue terminal .adxLtf 1 1 > getIndValue terminal .adxLtf 1 2 then some .s1TrendUp
  else some .s2TrendDown

def SdZone.holds (zone : SdZone) (price : ℚ) : Bool :=
  decide (zone.bottom ≤ price) && decide (price ≤ zone.top)

def touchedZone (zones : List SdZone) (close : ℚ) : Option SdZone :=
  zones.find? fun zone => zone.active &&
    decide (zone.state ≠ .broken ∧ zone.state ≠ .mitigated) && zone.holds close

def directionOf : ZoneKind → Direction
  | .demand => .buy
  | .supply => .sell

def trendOk (direction : Direction) (htf : String) : Bool :=
  (decide (direction = .buy) && decide (htf = "up")) ||
    (decide (direction = .sell) && decide (htf = "down"))

def regimeOk (direction : Direction) (regime : RegimeState) : Bool :=
  match direction, regime with
  | .buy, .s1TrendUp => true
  | .sell, .s2TrendDown => true
  | _, .s0Range => inputs.allowS0Fade
  | _, _ => false

def bbmaConfirms (close rsi ema50 : ℚ) : Bool :=
  (decide (ema50 ≤ close) && decide (rsi < inputs.rsiOb)) ||
    (decide (close ≤ ema50) && decide (rsi > inputs.rsiOs))

/-- The point for the HTF trend is always given. -/
def score (bbma : Bool) : ℤ := 2 + 1 + (if bbma then 1 else 0) + 1

def zoneEdge (zones : List SdZone) (kind : ZoneKind) (close : ℚ) : ℚ :=
  match zones.find? fun zone => zone.active && decide (zone.kind = kind) && zone.holds close with
  | some zone => match kind with
      | .demand => zone.bottom
      | .supply => zone.top
  | none => 0

/-- The arrow of bar `i`: the stop of a buy, the first target of a sale. -/
def evaluateBar (zones : List SdZone) (i : ℕ) : Option (Direction × ℚ) :=
  let atr := getIndValue terminal .atrLtf i
  let rsi := getIndValue terminal .rsiLtf i
  let ema50 := getIndValue terminal .ema50Ltf i
  let ema200 := getIndValue terminal .ema200Ltf i
  if atr ≤ 0 ∨ rsi ≤ 0 ∨ ema50 ≤ 0 ∨ ema200 ≤ 0 then none
  else
    let close := (bar i).close
    match touchedZone zones close with
    | none => none
    | some zone =>
        let direction := directionOf zone.kind
        if !trendOk direction (getHtfTrend terminal) && !inputs.allowS0Fade then none
        else match getRegimeProxy inputs terminal with
          | none => none
          | some regime =>
              if regimeOk inputs direction regime then
                if score (bbmaConfirms inputs close rsi ema50) < ⌈inputs.minScore⌉ then none
                else
                  let edge := zoneEdge zones zone.kind close
                  match direction with
                  | .buy => some (.buy, edge - inputs.slAtrBuffer * atr)
                  | .sell =>
                      let sl := edge + inputs.slAtrBuffer * atr
                      some (.sell, close - inputs.tp1Rr * (sl - close))
              else none

structure Indicator where
  zones : List SdZone := []
  buyArrow : ℕ → Option ℚ := fun _ => none
  sellArrow : ℕ → Option ℚ := fun _ => none

def setArrow (arrows : ℕ → Option ℚ) (i : ℕ) (value : Option ℚ) : ℕ → Option ℚ :=
  fun index => if index = i then value else arrows index

def arrowOf (direction : Direction) (arrow : Option (Direction × ℚ)) : Option ℚ :=
  arrow.bind fun arrow => if arrow.1 = direction then some arrow.2 else none

def processBar (ratesTotal : ℕ) (indicator : Indicator) (i : ℕ) : Indicator :=
  let zones := detectNewZones inputs terminal bar
    (updateZoneStates inputs terminal bar indicator.zones i) i
  let arrow := if i + 1 < ratesTotal then evaluateBar inputs terminal bar zones i else none
  {
    zones := zones
    buyArrow := setArrow indicator.buyArrow i (arrowOf .buy arrow)
    sellArrow := setArrow indicator.sellArrow i (arrowOf .sell arrow) }

def minBars : ℕ := inputs.emaSlow + inputs.atrPeriod + 10

def processBars (ratesTotal : ℕ) (indicator : Indicator) (start stop : ℕ) : Indicator :=
  (List.range' start (stop - start)).foldl (processBar inputs terminal bar ratesTotal) indicator

def onCalculate (indicator : Indicator) (ratesTotal prevCalculated : ℕ) : Indicator × ℕ :=
  if ratesTotal < minBars inputs then (indicator, 0)
  else
    (processBars inputs terminal bar ratesTotal indicator
      (max (prevCalculated - 1) (minBars inputs)) ratesTotal, ratesTotal)

end Mt5

end Vix75
