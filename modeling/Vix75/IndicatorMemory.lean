import Mathlib.Algebra.Order.Field.Basic
import Mathlib.Analysis.Convex.Basic
import Mathlib.Data.List.GetD
import Mathlib.Tactic.FieldSimp
import Mathlib.Tactic.Linarith
import Mathlib.Tactic.LinearCombination
import Mathlib.Tactic.Positivity
import Vix75.IndicatorChecks

/-! How far back an indicator looks. The sliding ones forget; the smoothed ones keep a fading part
of where they started. -/

namespace Vix75

open PyMath CausalSeries

variable {F : Type}

theorem drop_shifted (close : List F) : (shifted close).drop 1 = close.dropLast := by
  cases close <;> rfl

theorem forgets_shifted : Forgets 1 (shifted : List F → List F) := by
  intro close start
  rw [drop_shifted, Nat.add_comm, ← List.drop_drop, drop_shifted,
    List.dropLast_drop_eq_drop_dropLast]

theorem forgets_slidingWindows {α : Type} {size : ℕ} (some : 0 < size) :
    Forgets 0 (slidingWindows size : List α → List (List α)) := by
  intro values start
  rw [List.drop_zero, Nat.add_zero]
  induction values generalizing start with
  | nil => simp [slidingWindows]
  | cons first rest ih => cases start with
    | zero => rfl
    | succ start =>
        rw [List.drop_succ_cons, ih, slidingWindows]
        split
        · rename_i short
          have none : slidingWindows size rest = [] := List.length_eq_zero_iff.mp (by
            rw [length_slidingWindows some]
            rw [List.length_cons] at short
            omega)
          rw [none, List.drop_nil, List.drop_nil]
        · rw [List.drop_succ_cons]

theorem forgets_windows {α β : Type} {size : ℕ} (some : 0 < size) (filler : β)
    (entry : List α → β) : Forgets (size - 1) fun values : List α =>
      if values.length < size then List.replicate values.length filler
      else List.replicate (size - 1) filler ++ (slidingWindows size values).map entry := by
  have short (values : List α) : ((slidingWindows size values).map entry).length ≤
      values.length - (size - 1) := by
    rw [List.length_map, length_slidingWindows some]
  simp only [Nat.lt_iff_le_pred some]
  exact ((forgets_slidingWindows some).map entry).pad filler short

theorem length_windows {α β : Type} {size : ℕ} (some : 0 < size) (filler : β)
    (entry : List α → β) (values : List α) : (if values.length < size then
        List.replicate values.length filler
      else List.replicate (size - 1) filler ++ (slidingWindows size values).map entry).length =
        values.length := by
  split
  · rw [List.length_replicate]
  · rw [List.length_append, List.length_replicate, List.length_map, length_slidingWindows some]
    omega

theorem length_shifted (close : List F) : (shifted close).length = close.length := by
  cases close <;> simp [shifted]

theorem forgets_banded {period : ℕ} (pos : 0 < period) (band : List F → F) :
    Forgets (period - 1) (banded period band) :=
  forgets_windows pos none fun window => some (band window)

theorem length_replaceHead {β γ : Type} (head : γ) (entry : β → γ) (values : List β) :
    (replaceHead head entry values).length = values.length := by
  cases values <;> simp [replaceHead]

section Averages

variable [Add F] [Mul F]

theorem length_emaFrom (alpha decay acc : F) (values : List F) :
    (emaFrom alpha decay acc values).length = values.length := by
  induction values generalizing acc with
  | nil => rfl
  | cons value rest ih => simp [emaFrom, ih]

variable [Sub F] [Div F] [PyMath F]

theorem length_ema (values : List F) (period : ℕ+) :
    (ema values period).length = values.length := by
  cases values <;> simp [ema, length_emaFrom]

end Averages

section Ranges

variable [Sub F]

theorem forgets_moves : Forgets 1 fun close : List F =>
    List.zipWith (· - ·) close (shifted close) := by
  have closes : Forgets 1 fun close : List F => close := fun values start => List.drop_drop
  exact closes.zipWith forgets_shifted _

variable [LT F] [DecidableLT F] [PyMath F]

theorem forgets_trueRange : Forgets 1 fun bars : List (Bar F) =>
    trueRange (bars.map Bar.high) (bars.map Bar.low) (bars.map Bar.close) := by
  simp only [trueRange_eq]
  have prices : Forgets 0 fun bars : List (Bar F) => (bars.map Bar.high).zip (bars.map Bar.low) :=
    (forgets_map Bar.high).zip (forgets_map Bar.low)
  have closes : Forgets 1 fun bars : List (Bar F) => shifted (bars.map Bar.close) :=
    forgets_shifted.comp (forgets_map Bar.close)
  exact Forgets.firstAs ((prices.mono (Nat.zero_le 1)).zipWith closes _) _ rfl

theorem length_trueRange (bars : List (Bar F)) :
    (trueRange (bars.map Bar.high) (bars.map Bar.low) (bars.map Bar.close)).length =
      bars.length := by
  rw [trueRange_eq]
  cases bars <;> simp [firstAs, ranges, length_shifted]

variable [Add F] [Mul F] [Div F]

theorem length_atr (bars : List (Bar F)) (period : ℕ+) :
    (atr (bars.map Bar.high) (bars.map Bar.low) (bars.map Bar.close) period).length =
      bars.length := by
  rw [atr_eq, length_replaceHead, wilderSmooth, length_ema, length_trueRange]

variable [DecidableEq F]

theorem length_strengths (close : List F) (period : ℕ+) :
    (strengths close period).length = close.length := by
  simp [strengths, wilderSmooth, length_ema, length_shifted]

theorem length_rsi (close : List F) (period : ℕ+) : (rsi close period).length = close.length := by
  have same : rsi close period = if close.length ≤ period then List.replicate close.length none
      else List.replicate period none ++ ((strengths close period).drop period).map some := rfl
  rw [same]
  split
  · rw [List.length_replicate]
  · rw [List.length_append, List.length_replicate, List.length_map, List.length_drop,
      length_strengths]
    omega

end Ranges

section Returns

variable [Div F] [LT F] [DecidableLT F] [PyMath F]

theorem forgets_logReturns (numerics : Numerics F) :
    Forgets 2 fun close : List F => logReturns numerics close := by
  simp only [logReturns_eq]
  have closes : Forgets 1 fun close : List F => close := fun values start => List.drop_drop
  exact (closes.zipWith forgets_shifted _).replaceHead _ id

theorem length_logReturns (numerics : Numerics F) (close : List F) :
    (logReturns numerics close).length = close.length := by
  rw [logReturns_eq, length_replaceHead, List.length_zipWith, length_shifted, Nat.min_self]

end Returns

section Slices

variable [Sub F] [Mul F] [Div F] [PyMath F]

section Deviations

variable [Add F]

theorem forgets_realizedVolatility (numerics : Numerics F) {window : ℕ} (pos : 0 < window) :
    Forgets (window - 1) fun returns : Series F => realizedVolatility numerics returns window :=
  forgets_windows pos none fun values : List (Option F) =>
    Option.map (std numerics 1) (values.mapM id)

end Deviations

variable [LT F] [DecidableLT F]

theorem forgets_rawStochastic {kPeriod : ℕ} (pos : 0 < kPeriod) :
    Forgets 0 (rawStochastic kPeriod : List (Bar F) → List F) := by
  have extremes (price : Bar F → F) (extreme : List F → F) : Forgets 0
      fun bars => (slidingWindows kPeriod (bars.map price)).map extreme :=
    ((forgets_slidingWindows pos).comp (forgets_map price)).map extreme
  exact ((extremes Bar.high maximum).zip (extremes Bar.low minimum)).zipWith
    ((forgets_drop _).comp (forgets_map Bar.close)) _

variable [Add F]

theorem forgets_stochastic {kPeriod dPeriod : ℕ} (kPos : 0 < kPeriod) (dPos : 0 < dPeriod) :
    (Forgets (kPeriod - 1) fun bars : List (Bar F) => (stochastic (bars.map Bar.high)
      (bars.map Bar.low) (bars.map Bar.close) kPeriod dPeriod).k) ∧
    Forgets (kPeriod + dPeriod - 2) fun bars : List (Bar F) => (stochastic (bars.map Bar.high)
      (bars.map Bar.low) (bars.map Bar.close) kPeriod dPeriod).d := by
  simp only [stochastic_eq kPos dPos]
  constructor
  · have short (bars : List (Bar F)) : ((rawStochastic kPeriod bars).map some).length ≤
        bars.length - (kPeriod - 1) := by
      rw [List.length_map, length_rawStochastic kPos]
    simp only [Nat.lt_iff_le_pred kPos]
    exact ((forgets_rawStochastic kPos).map some).pad none short
  · have short (bars : List (Bar F)) : ((slidingWindows dPeriod (rawStochastic kPeriod bars)).map
        fun window => some (mean window)).length ≤ bars.length - (kPeriod + dPeriod - 2) := by
      rw [List.length_map, length_slidingWindows dPos, length_rawStochastic kPos]
      omega
    have guard (length : ℕ) : length < kPeriod + dPeriod - 1 ↔ length ≤ kPeriod + dPeriod - 2 := by
      omega
    simp only [guard]
    exact (((forgets_slidingWindows dPos).comp (forgets_rawStochastic kPos)).map
      fun window : List F => some (mean window)).pad none short

theorem length_stochastic {kPeriod dPeriod : ℕ} (kPos : 0 < kPeriod) (dPos : 0 < dPeriod)
    (bars : List (Bar F)) :
    (stochastic (bars.map Bar.high) (bars.map Bar.low) (bars.map Bar.close) kPeriod
      dPeriod).k.length = bars.length ∧
    (stochastic (bars.map Bar.high) (bars.map Bar.low) (bars.map Bar.close) kPeriod
      dPeriod).d.length = bars.length := by
  rw [stochastic_eq kPos dPos]
  constructor
  · dsimp only
    split
    · rw [List.length_replicate]
    · rw [List.length_append, List.length_replicate, List.length_map, length_rawStochastic kPos]
      omega
  · dsimp only
    split
    · rw [List.length_replicate]
    · rw [List.length_append, List.length_replicate, List.length_map, length_slidingWindows dPos,
        length_rawStochastic kPos]
      omega

variable [DecidableEq F]

theorem length_series (numerics : Numerics F) (bars : List (Bar F)) :
    ∀ series ∈ (buildFrame numerics bars).series, series.length = bars.length := by
  have oscillator := length_stochastic (show 0 < 14 by decide) (show 0 < 3 by decide) bars
  have band (entry : List F → F) : (banded 20 entry (bars.map Bar.close)).length = bars.length :=
    (length_windows (by decide) none (fun window => some (entry window)) _).trans
      (List.length_map _)
  have volatility (returns : Series F) :
      (realizedVolatility numerics returns 21).length = returns.length :=
    length_windows (by decide) none _ _
  simp only [FeatureFrame.series, buildFrame, bollingerBands_eq, List.forall_mem_cons,
    List.length_zipWith, List.length_map, length_atr, length_rsi, length_ema, band,
    oscillator.1, oscillator.2, length_logReturns, volatility, Nat.min_self, true_and]
  simp

end Slices

/-! What smoothing keeps -/

section Smoothing

variable [Field F]

theorem getD_emaFrom (alpha weight acc : F) {values : List F} {n : ℕ} (inside : n < values.length) :
    (acc :: emaFrom alpha weight acc values).getD (n + 1) 0 = values.getD n 0 * alpha +
      weight * (acc :: emaFrom alpha weight acc values).getD n 0 := by
  induction values generalizing acc n with
  | nil => simp at inside
  | cons value rest ih => cases n with
    | zero => rfl
    | succ n => exact ih _ (by simpa using inside)

theorem getElem?_eq_getD {values : List F} {n : ℕ} (inside : n < values.length) :
    values[n]? = some (values.getD n 0) := by
  rw [List.getD_eq_getElem?_getD, List.getElem?_eq_getElem inside, Option.getD_some]

variable [PyMath F]

theorem getD_ema_zero (values : List F) (period : ℕ+) :
    (ema values period).getD 0 0 = values.getD 0 0 := by
  cases values <;> rfl

def decay (period : ℕ+) : F := ofRat 1 - ofRat 2 / (ofInt (period : ℕ) + ofRat 1)

variable [ExactMath F]

theorem getD_ema_succ {values : List F} (period : ℕ+) {n : ℕ} (inside : n + 1 < values.length) :
    (ema values period).getD (n + 1) 0 = values.getD (n + 1) 0 * (1 - decay period) +
      decay period * (ema values period).getD n 0 := by
  cases values with
  | nil => simp at inside
  | cons first rest =>
      have same : (1 : F) - decay period = ofRat 2 / (ofInt (period : ℕ) + ofRat 1) := by
        rw [decay, ExactMath.ofRat_eq 1, Rat.cast_one, sub_sub_cancel]
      rw [same]
      exact getD_emaFrom _ _ first (by simpa using inside)

/-- Two smoothed series of the same values differ by what is left of the difference at their
start. -/
theorem ema_sub {values others : List F} {start n : ℕ} (period : ℕ+)
    (inside : start + n < values.length) (insideOther : n < others.length)
    (same : ∀ k < n, values.getD (start + (k + 1)) 0 = others.getD (k + 1) 0) :
    (ema values period).getD (start + n) 0 - (ema others period).getD n 0 =
      decay period ^ n * ((ema values period).getD start 0 - others.getD 0 0) := by
  induction n with
  | zero => rw [getD_ema_zero, pow_zero, one_mul, Nat.add_zero]
  | succ n ih =>
      have before := ih (by omega) (by omega) fun k earlier => same k (by omega)
      rw [← Nat.add_assoc, getD_ema_succ period (by omega), getD_ema_succ period insideOther,
        Nat.add_assoc, same n (by omega), pow_succ]
      linear_combination decay period * before

variable [LinearOrder F] [IsStrictOrderedRing F]

theorem decay_eq (period : ℕ+) :
    (decay period : F) = (((period : ℕ) : F) - 1) / ((period : ℕ) + 1) := by
  have pos : (0 : F) < ((period : ℕ) : F) + 1 := by positivity
  simp only [decay, ExactMath.ofRat_eq, ExactMath.ofInt_eq, Rat.cast_one, Rat.cast_ofNat,
    Int.cast_natCast]
  field_simp
  ring

theorem decay_pos {period : ℕ+} (more : 1 < period) : (0 : F) < decay period := by
  have larger : (1 : F) < (period : ℕ) := by exact_mod_cast more
  rw [decay_eq]
  exact div_pos (by linarith) (by linarith)

omit [IsStrictOrderedRing F] [PyMath F] [ExactMath F] in
theorem emaFrom_mem {s : Set F} (convex : Convex F s) {alpha weight acc : F} {values : List F}
    (alphaNonneg : 0 ≤ alpha) (weightNonneg : 0 ≤ weight) (one : alpha + weight = 1)
    (start : acc ∈ s) (inside : ∀ value ∈ values, value ∈ s) :
    ∀ value ∈ emaFrom alpha weight acc values, value ∈ s := by
  induction values generalizing acc with
  | nil => exact fun _ member => absurd member List.not_mem_nil
  | cons first rest ih =>
      obtain ⟨here, later⟩ := List.forall_mem_cons.mp inside
      have next : first * alpha + weight * acc ∈ s := by
        rw [mul_comm first]
        exact convex here start alphaNonneg weightNonneg one
      exact List.forall_mem_cons.mpr ⟨next, ih next later⟩

theorem ema_mem {s : Set F} (convex : Convex F s) {values : List F} {period : ℕ+}
    (inside : ∀ value ∈ values, value ∈ s) : ∀ value ∈ ema values period, value ∈ s := by
  cases values with
  | nil => exact inside
  | cons first rest =>
      obtain ⟨start, later⟩ := List.forall_mem_cons.mp inside
      have some : (1 : F) ≤ (period : ℕ) := by exact_mod_cast period.pos
      have alpha : (ofRat 2 / (ofInt (period : ℕ) + ofRat 1) : F) = 2 / ((period : ℕ) + 1) := by
        simp only [ExactMath.ofRat_eq, ExactMath.ofInt_eq, Rat.cast_one, Rat.cast_ofNat,
          Int.cast_natCast]
      refine List.forall_mem_cons.mpr ⟨start, emaFrom_mem convex ?_ ?_ ?_ start later⟩
      · rw [alpha]
        positivity
      · change (0 : F) ≤ decay period
        rw [decay_eq]
        exact div_nonneg (by linarith) (by linarith)
      · rw [ExactMath.ofRat_eq 1, Rat.cast_one, add_sub_cancel]

theorem ema_nonneg {values : List F} {period : ℕ+}
    (nonneg : ∀ value ∈ values, 0 ≤ value) (n : ℕ) : 0 ≤ (ema values period).getD n 0 := by
  by_cases inside : n < (ema values period).length
  · rw [List.getD_eq_getElem _ _ inside]
    exact ema_mem (convex_Ici 0) nonneg _ (List.getElem_mem inside)
  · rw [List.getD_eq_default _ _ (by omega)]

end Smoothing

section Strength

variable [Field F] [LinearOrder F] [PyMath F]

def gains (close : List F) : List F :=
  (List.zipWith (· - ·) close (shifted close)).map fun value =>
    if ofRat 0 < value then value else ofRat 0

def losses (close : List F) : List F :=
  (List.zipWith (· - ·) close (shifted close)).map fun value =>
    if value < ofRat 0 then ofRat 0 - value else ofRat 0

def strength (averageGain averageLoss : F) : F :=
  if averageLoss = ofRat 0 then ofRat 100
  else ofRat 100 - ofRat 100 / (ofRat 1 + averageGain / averageLoss)

theorem forgets_gains : Forgets 1 (gains : List F → List F) := forgets_moves.map _

theorem forgets_losses : Forgets 1 (losses : List F → List F) := forgets_moves.map _

theorem length_gains (close : List F) : (gains close).length = close.length := by
  simp [gains, length_shifted]

theorem length_losses (close : List F) : (losses close).length = close.length := by
  simp [losses, length_shifted]

theorem strengths_eq (close : List F) (period : ℕ+) : strengths close period =
    List.zipWith strength (wilderSmooth (gains close) period)
      (wilderSmooth (losses close) period) := rfl

theorem getElem?_rsi {close : List F} {period : ℕ+} {n : ℕ} (warm : period ≤ n)
    (inside : n < close.length) : (rsi close period)[n]? =
      some (some (strength ((wilderSmooth (gains close) period).getD n 0)
        ((wilderSmooth (losses close) period).getD n 0))) := by
  have same : rsi close period = if close.length ≤ period then List.replicate close.length none
      else List.replicate period none ++ ((strengths close period).drop period).map some := rfl
  have gain : (wilderSmooth (gains close) period)[n]? = _ := getElem?_eq_getD (by
    rwa [wilderSmooth, length_ema, length_gains])
  have loss : (wilderSmooth (losses close) period)[n]? = _ := getElem?_eq_getD (by
    rwa [wilderSmooth, length_ema, length_losses])
  rw [same, if_neg (by omega), List.getElem?_append_right (by rwa [List.length_replicate]),
    List.length_replicate, List.getElem?_map, List.getElem?_drop, Nat.add_sub_of_le warm,
    strengths_eq, List.getElem?_zipWith, gain, loss]
  rfl

variable [ExactMath F]

theorem gains_nonneg (close : List F) : ∀ value ∈ gains close, 0 ≤ value := by
  intro value member
  obtain ⟨move, -, rfl⟩ := List.mem_map.mp member
  simp only [ExactMath.ofRat_eq, Rat.cast_zero]
  split
  · exact le_of_lt (by assumption)
  · exact le_refl _

theorem getD_moves_zero (close : List F) :
    (gains close).getD 0 0 = 0 ∧ (losses close).getD 0 0 = 0 := by
  cases close with
  | nil => exact ⟨rfl, rfl⟩
  | cons first rest => simp [gains, losses, shifted, ExactMath.ofRat_eq]

variable [IsStrictOrderedRing F]

theorem losses_nonneg (close : List F) : ∀ value ∈ losses close, 0 ≤ value := by
  intro value member
  obtain ⟨move, -, rfl⟩ := List.mem_map.mp member
  simp only [ExactMath.ofRat_eq, Rat.cast_zero, zero_sub]
  split
  · rename_i fell
    linarith
  · exact le_refl _

/-- The strength stays when a rest of older moves is added exactly when the rest is in the
proportion of what it is added to. -/
theorem strength_add_iff {gain loss oldGain oldLoss weight : F} (gainNonneg : 0 ≤ gain)
    (lossNonneg : 0 ≤ loss) (oldGainNonneg : 0 ≤ oldGain) (oldLossNonneg : 0 ≤ oldLoss)
    (pos : 0 < weight) :
    strength (gain + weight * oldGain) (loss + weight * oldLoss) = strength gain loss ↔
      if loss = 0 then oldLoss = 0 else gain * oldLoss = oldGain * loss := by
  simp only [strength, ExactMath.ofRat_eq, Rat.cast_zero, Rat.cast_one, Rat.cast_ofNat]
  have older : 0 ≤ weight * oldLoss := mul_nonneg pos.le oldLossNonneg
  have olderGain : 0 ≤ weight * oldGain := mul_nonneg pos.le oldGainNonneg
  by_cases none : loss = 0
  · rw [if_pos none, if_pos none, none, zero_add]
    by_cases noneOld : oldLoss = 0
    · simp [noneOld]
    · have lossPos : 0 < weight * oldLoss := mul_pos pos (oldLossNonneg.lt_of_ne' noneOld)
      have ratio : 0 < 1 + (gain + weight * oldGain) / (weight * oldLoss) := by positivity
      rw [if_neg lossPos.ne', sub_eq_self]
      exact iff_of_false (by positivity) noneOld
  · have lossPos : 0 < loss := lossNonneg.lt_of_ne' none
    have sumPos : 0 < loss + weight * oldLoss := by linarith
    rw [if_neg none, if_neg sumPos.ne', if_neg none, sub_right_inj]
    have ratio : 0 < 1 + gain / loss := by positivity
    have ratioSum : 0 < 1 + (gain + weight * oldGain) / (loss + weight * oldLoss) := by positivity
    rw [div_eq_div_iff ratioSum.ne' ratio.ne', mul_right_inj' (by norm_num), add_right_inj,
      div_eq_div_iff none sumPos.ne']
    constructor
    · intro same
      refine mul_left_cancel₀ pos.ne' ?_
      linear_combination same
    · intro same
      linear_combination weight * same

end Strength

end Vix75
