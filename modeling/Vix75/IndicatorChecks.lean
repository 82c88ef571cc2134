import Vix75.CausalSeries
import Vix75.FeatureCore

/-! The indicator series of a window do not look ahead: over the first bars of a window they are
what they are over the whole window, missing entries included. -/

namespace Vix75

open PyMath CausalSeries

variable {F : Type}

/-! Series of single steps -/

theorem dropLast_take_succ {α : Type} (values : List α) (count : ℕ) :
    (values.take (count + 1)).dropLast = values.dropLast.take count := by
  rw [List.dropLast_eq_take, List.dropLast_eq_take, List.take_take, List.take_take,
    List.length_take]
  congr 1
  omega

theorem causal_shifted : Causal (shifted : List F → List F) := by
  intro close count
  cases close with
  | nil => simp [shifted]
  | cons first rest => cases count with
    | zero => rfl
    | succ count =>
        change first :: ((first :: rest).take (count + 1)).dropLast =
          first :: (first :: rest).dropLast.take count
        rw [dropLast_take_succ]

theorem delayed_slidingWindows {α : Type} {size : ℕ} (some : 0 < size) :
    Delayed (size - 1) (slidingWindows size : List α → List (List α)) := by
  intro values count
  induction values generalizing count with
  | nil => simp [slidingWindows]
  | cons first rest ih => cases count with
    | zero => simp [slidingWindows]
    | succ count =>
        rw [List.take_succ_cons, slidingWindows, slidingWindows, ih]
        simp only [List.length_cons, List.length_take]
        by_cases short : rest.length + 1 < size
        · rw [if_pos short, if_pos (by omega), List.take_nil]
        · rw [if_neg short]
          by_cases early : count + 1 < size
          · rw [if_pos (by omega), show count + 1 - (size - 1) = 0 by omega, List.take_zero]
          · have slice : (first :: rest.take count).take size = (first :: rest).take size := by
              rw [← List.take_succ_cons, List.take_take, Nat.min_eq_left (by omega)]
            have step : count + 1 - (size - 1) = count - (size - 1) + 1 := by omega
            rw [if_neg (by omega), slice, step, List.take_succ_cons]

theorem length_slidingWindows {α : Type} {size : ℕ} (some : 0 < size) (values : List α) :
    (slidingWindows size values).length = values.length - (size - 1) := by
  induction values with
  | nil => simp [slidingWindows]
  | cons first rest ih =>
      rw [slidingWindows]
      split
      · rename_i short
        simp only [List.length_cons, List.length_nil] at short ⊢
        omega
      · rename_i long
        simp only [List.length_cons, ih] at long ⊢
        omega

section Smoothing

variable [Add F] [Mul F]

theorem causal_emaFrom (alpha decay acc : F) : Causal (emaFrom alpha decay acc) := by
  intro values count
  induction values generalizing acc count with
  | nil => simp [emaFrom]
  | cons value rest ih => cases count with
    | zero => rfl
    | succ count => simp only [List.take_succ_cons, emaFrom, ih, Nat.sub_zero]

variable [Sub F] [Div F] [PyMath F]

theorem causal_ema (period : ℕ+) : Causal fun values : List F => ema values period := by
  intro values count
  cases values with
  | nil => simp [ema]
  | cons first rest => cases count with
    | zero => rfl
    | succ count =>
        simp only [List.take_succ_cons, ema, causal_emaFrom _ _ _ rest count, Nat.sub_zero]

theorem causal_wilderSmooth (period : ℕ+) : Causal fun values : List F =>
    wilderSmooth values period := causal_ema _

end Smoothing

section Ranges

variable [Sub F] [LT F] [DecidableLT F] [PyMath F]

def ranges (bars : List (Bar F)) : List F :=
  List.zipWith (fun (bar : F × F) previous =>
    pyMax (pyMax (bar.1 - bar.2) (PyMath.abs (bar.1 - previous))) (PyMath.abs (bar.2 - previous)))
    ((bars.map Bar.high).zip (bars.map Bar.low)) (shifted (bars.map Bar.close))

theorem causal_ranges : Causal (ranges : List (Bar F) → List F) :=
  Delayed.zipWith ((causal_map Bar.high).zip (causal_map Bar.low))
    (causal_shifted.comp (causal_map Bar.close)) _

theorem trueRange_eq (bars : List (Bar F)) :
    trueRange (bars.map Bar.high) (bars.map Bar.low) (bars.map Bar.close) =
      firstAs (fun bar => bar.high - bar.low) ranges bars := by
  cases bars <;> rfl

theorem causal_trueRange : Causal fun bars : List (Bar F) =>
    trueRange (bars.map Bar.high) (bars.map Bar.low) (bars.map Bar.close) := by
  simp only [trueRange_eq]
  exact causal_ranges.firstAs _

variable [Add F] [Mul F] [Div F]

theorem atr_eq (high low close : List F) (period : ℕ+) : atr high low close period =
    replaceHead none some (wilderSmooth (trueRange high low close) period) := by
  unfold atr
  split
  · rename_i none
    rw [none, replaceHead]
  · rename_i smooth
    rw [smooth, replaceHead]

theorem causal_atr (period : ℕ+) : Causal fun bars : List (Bar F) =>
    atr (bars.map Bar.high) (bars.map Bar.low) (bars.map Bar.close) period := by
  simp only [atr_eq]
  exact Causal.replaceHead ((causal_wilderSmooth period).comp causal_trueRange) none some

variable [DecidableEq F]

def strengths (close : List F) (period : ℕ+) : List F :=
  let delta := List.zipWith (· - ·) close (shifted close)
  let gain := delta.map fun value => if ofRat 0 < value then value else ofRat 0
  let loss := delta.map fun value => if value < ofRat 0 then ofRat 0 - value else ofRat 0
  List.zipWith (fun averageGain averageLoss =>
    if averageLoss = ofRat 0 then ofRat 100
    else ofRat 100 - ofRat 100 / (ofRat 1 + averageGain / averageLoss))
    (wilderSmooth gain period) (wilderSmooth loss period)

theorem causal_strengths (period : ℕ+) : Causal fun close : List F => strengths close period := by
  have delta : Causal fun close : List F => List.zipWith (· - ·) close (shifted close) :=
    Delayed.zipWith (fun _ _ => rfl) causal_shifted _
  exact Delayed.zipWith ((causal_wilderSmooth period).comp (delta.map _))
    ((causal_wilderSmooth period).comp (delta.map _)) _

theorem causal_rsi (period : ℕ+) : Causal fun close : List F => rsi close period :=
  Delayed.pad (((delayed_drop period).comp (causal_strengths period)).map some) none

end Ranges

section Returns

variable [Div F] [LT F] [DecidableLT F] [PyMath F]

theorem logReturns_eq (numerics : Numerics F) (close : List F) : logReturns numerics close =
    replaceHead (some (ofRat 0)) id (List.zipWith (fun value previous => numerics.log
      (if ofRat 0 < previous then value / previous else ofRat 1)) close (shifted close)) := by
  unfold logReturns
  simp only
  split
  · rename_i none
    rw [none, replaceHead]
  · rename_i rest returns
    rw [returns, replaceHead, List.map_id]

theorem causal_logReturns (numerics : Numerics F) :
    Causal fun close : List F => logReturns numerics close := by
  simp only [logReturns_eq]
  exact Causal.replaceHead (Delayed.zipWith (fun _ _ => rfl) causal_shifted _) _ id

end Returns

section Slices

theorem causal_windows {α β : Type} {size : ℕ} (some : 0 < size) (filler : β)
    (entry : List α → β) : Causal fun values : List α =>
      if values.length < size then List.replicate values.length filler
      else List.replicate (size - 1) filler ++ (slidingWindows size values).map entry := by
  simp only [Nat.lt_iff_le_pred some]
  exact ((delayed_slidingWindows some).map entry).pad filler

def banded (period : ℕ) (band : List F → F) (close : List F) : Series F :=
  if close.length < period then List.replicate close.length none
  else List.replicate (period - 1) none ++
    (slidingWindows period close).map fun window => some (band window)

theorem causal_banded {period : ℕ} (pos : 0 < period) (band : List F → F) :
    Causal (banded period band) := causal_windows pos none fun window => some (band window)

variable [Sub F] [Mul F] [Div F] [PyMath F]

section Deviations

variable [Add F]

theorem causal_realizedVolatility (numerics : Numerics F) {window : ℕ} (some : 0 < window) :
    Causal fun returns : Series F => realizedVolatility numerics returns window :=
  causal_windows some none fun values : List (Option F) =>
    Option.map (std numerics 1) (values.mapM id)

theorem bollingerBands_eq (numerics : Numerics F) (close : List F) (period : ℕ) (numStd : F) :
    bollingerBands numerics close period numStd = {
      mid := banded period mean close
      upper := banded period (fun window => mean window + numStd * std numerics 0 window) close
      lower :=
        banded period (fun window => mean window - numStd * std numerics 0 window) close } := by
  unfold bollingerBands banded
  split <;> rfl

end Deviations

variable [LT F] [DecidableLT F]

def rawStochastic (kPeriod : ℕ) (bars : List (Bar F)) : List F :=
  let extremes := ((slidingWindows kPeriod (bars.map Bar.high)).map maximum).zip
    ((slidingWindows kPeriod (bars.map Bar.low)).map minimum)
  List.zipWith (fun extreme value =>
    let denom := extreme.1 - extreme.2
    if ofRat 0 < denom then ofRat 100 * (value - extreme.2) / denom else ofRat 50)
    extremes ((bars.map Bar.close).drop (kPeriod - 1))

theorem delayed_rawStochastic {kPeriod : ℕ} (pos : 0 < kPeriod) :
    Delayed (kPeriod - 1) (rawStochastic kPeriod : List (Bar F) → List F) := by
  have extremes (price : Bar F → F) (extreme : List F → F) : Delayed (kPeriod - 1)
      fun bars => (slidingWindows kPeriod (bars.map price)).map extreme :=
    ((delayed_slidingWindows pos).comp (causal_map price)).map extreme
  exact ((extremes Bar.high maximum).zip (extremes Bar.low minimum)).zipWith
    ((delayed_drop _).comp (causal_map Bar.close)) _

theorem length_rawStochastic {kPeriod : ℕ} (pos : 0 < kPeriod) (bars : List (Bar F)) :
    (rawStochastic kPeriod bars).length = bars.length - (kPeriod - 1) := by
  simp [rawStochastic, length_slidingWindows pos]

variable [Add F]

theorem stochastic_eq {kPeriod dPeriod : ℕ} (kPos : 0 < kPeriod) (dPos : 0 < dPeriod)
    (bars : List (Bar F)) :
    stochastic (bars.map Bar.high) (bars.map Bar.low) (bars.map Bar.close) kPeriod dPeriod = {
      k := if bars.length < kPeriod then List.replicate bars.length none
        else List.replicate (kPeriod - 1) none ++ (rawStochastic kPeriod bars).map some
      d := if bars.length < kPeriod + dPeriod - 1 then List.replicate bars.length none
        else List.replicate (kPeriod + dPeriod - 2) none ++
          (slidingWindows dPeriod (rawStochastic kPeriod bars)).map fun window =>
            some (mean window) } := by
  have length := length_rawStochastic kPos bars
  unfold stochastic
  rw [List.length_map]
  split
  · rw [if_pos (by omega)]
  · have short : (rawStochastic kPeriod bars).length < dPeriod ↔
        bars.length < kPeriod + dPeriod - 1 := by omega
    simp only [← short]
    rfl

theorem causal_stochastic {kPeriod dPeriod : ℕ} (kPos : 0 < kPeriod) (dPos : 0 < dPeriod) :
    (Causal fun bars : List (Bar F) => (stochastic (bars.map Bar.high) (bars.map Bar.low)
      (bars.map Bar.close) kPeriod dPeriod).k) ∧
    Causal fun bars : List (Bar F) => (stochastic (bars.map Bar.high) (bars.map Bar.low)
      (bars.map Bar.close) kPeriod dPeriod).d := by
  simp only [stochastic_eq kPos dPos]
  constructor
  · simp only [Nat.lt_iff_le_pred kPos]
    exact ((delayed_rawStochastic kPos).map some).pad none
  · have delay : dPeriod - 1 + (kPeriod - 1) = kPeriod + dPeriod - 2 := by omega
    have windows := (((delayed_slidingWindows dPos).comp (delayed_rawStochastic kPos)).map
      fun window : List F => some (mean window)).pad none
    have guard (length : ℕ) : length < kPeriod + dPeriod - 1 ↔ length ≤ kPeriod + dPeriod - 2 := by
      omega
    simp only [delay] at windows
    simp only [guard]
    exact windows

end Slices

section Frame

variable [Add F] [Sub F] [Mul F] [Div F] [LT F] [DecidableLT F] [DecidableEq F] [PyMath F]

def FeatureFrame.take (count : ℕ) (frame : FeatureFrame F) : FeatureFrame F where
  atr := frame.atr.take count
  atrNorm := frame.atrNorm.take count
  rsi := frame.rsi.take count
  ema50 := frame.ema50.take count
  ema200 := frame.ema200.take count
  bands := {
    mid := frame.bands.mid.take count
    upper := frame.bands.upper.take count
    lower := frame.bands.lower.take count }
  oscillator := {
    k := frame.oscillator.k.take count
    d := frame.oscillator.d.take count }
  logReturn := frame.logReturn.take count
  realizedVol := frame.realizedVol.take count

theorem buildFrame_take (numerics : Numerics F) (bars : List (Bar F)) (count : ℕ) :
    buildFrame numerics (bars.take count) = (buildFrame numerics bars).take count := by
  have closes : Causal (List.map Bar.close : List (Bar F) → List F) := causal_map _
  have atrNorm := Delayed.zipWith (causal_atr 14) closes fun value price =>
    if ofRat 0 < price then value.map (· / price) else none
  have returns := (causal_logReturns numerics).comp closes
  have banded (band : List F → F) : Causal fun bars : List (Bar F) =>
      banded 20 band (bars.map Bar.close) := (causal_banded (by decide) band).comp closes
  have oscillator := causal_stochastic (F := F) (show 0 < 14 by decide) (show 0 < 3 by decide)
  simp only [buildFrame, FeatureFrame.take, bollingerBands_eq, FeatureFrame.mk.injEq,
    Bands.mk.injEq]
  refine ⟨causal_atr 14 bars count, atrNorm bars count, ?_, ?_, ?_, ⟨banded _ bars count,
    banded _ bars count, banded _ bars count⟩, ?_, returns bars count, ?_⟩
  · exact (causal_rsi 14).comp closes bars count
  · exact ((causal_ema 50).comp closes).map some bars count
  · exact ((causal_ema 200).comp closes).map some bars count
  · exact congrArg₂ Oscillator.mk (oscillator.1 bars count) (oscillator.2 bars count)
  · exact (causal_realizedVolatility numerics (by decide)).comp returns bars count

/-- No indicator looks ahead: each of the twelve series of the first bars is the front of that
series over all bars. -/
theorem indicators_no_lookahead (numerics : Numerics F) (bars : List (Bar F)) (count : ℕ) :
    (buildFrame numerics (bars.take count)).series =
      (buildFrame numerics bars).series.map (List.take count) := by
  rw [buildFrame_take]
  rfl

end Frame

end Vix75
