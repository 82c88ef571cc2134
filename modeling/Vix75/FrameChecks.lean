import Mathlib.Tactic.MkIffOfInductiveProp
import Vix75.BarEventChecks
import Vix75.IndicatorBounds

/-! The feature frame of a long window of valid bars: nothing is missing once warm, and every series
keeps to its bounds. -/

namespace Vix75

open PyMath CausalSeries WarmSeries

section Frames

variable {F : Type} [Field F] [LinearOrder F] [IsStrictOrderedRing F] [PyMath F] [ExactMath F]

@[mk_iff]
structure Bar.OhlcvPricesValid (bar : Bar F) : Prop where
  low_le_high : bar.low ≤ bar.high
  open_le_high : bar.open_ ≤ bar.high
  close_le_high : bar.close ≤ bar.high
  low_le_open : bar.low ≤ bar.open_
  low_le_close : bar.low ≤ bar.close
  open_pos : 0 < bar.open_
  high_pos : 0 < bar.high
  low_pos : 0 < bar.low
  close_pos : 0 < bar.close

instance : DecidablePred (Bar.OhlcvPricesValid : Bar F → Prop) := fun bar =>
  decidable_of_iff' _ (Bar.ohlcvPricesValid_iff bar)

structure FeatureFrame.Bounded (frame : FeatureFrame F) (close : List F) (i : ℕ) : Prop where
  defined : ∀ series ∈ frame.series, ∃ value, series[i]? = some (some value)
  atr : ∀ value, frame.atr[i]? = some (some value) → 0 ≤ value
  rsi : ∀ value, frame.rsi[i]? = some (some value) → 0 ≤ value ∧ value ≤ 100
  ema50 : ∀ value, frame.ema50[i]? = some (some value) →
    minimum (close.take (i + 1)) ≤ value ∧ value ≤ maximum (close.take (i + 1))
  ema200 : ∀ value, frame.ema200[i]? = some (some value) →
    minimum (close.take (i + 1)) ≤ value ∧ value ≤ maximum (close.take (i + 1))
  bands : ∀ lower mid upper, frame.bands.lower[i]? = some (some lower) →
    frame.bands.mid[i]? = some (some mid) → frame.bands.upper[i]? = some (some upper) →
    lower ≤ mid ∧ mid ≤ upper
  k : ∀ value, frame.oscillator.k[i]? = some (some value) → 0 ≤ value ∧ value ≤ 100
  d : ∀ value, frame.oscillator.d[i]? = some (some value) → 0 ≤ value ∧ value ≤ 100

variable {numerics : Numerics F} {bars : List (Bar F)}

theorem warm_ranges (numerics : Numerics F) (valid : ∀ bar ∈ bars, bar.OhlcvPricesValid) :
    Warm 1 (Set.Ici 0) (buildFrame numerics bars).atr :=
  warm_atr fun bar member => (valid bar member).low_le_high

theorem warm_oscillator (numerics : Numerics F) (valid : ∀ bar ∈ bars, bar.OhlcvPricesValid) :
    Warm 13 (Set.Icc 0 100) (buildFrame numerics bars).oscillator.k ∧
      Warm 15 (Set.Icc 0 100) (buildFrame numerics bars).oscillator.d :=
  warm_stochastic (show 0 < 14 by decide) (show 0 < 3 by decide) fun bar member =>
    ⟨(valid bar member).low_le_close, (valid bar member).close_le_high⟩

theorem warm_frame (regular : numerics.Regular) (valid : ∀ bar ∈ bars, bar.OhlcvPricesValid) :
    ∀ series ∈ (buildFrame numerics bars).series, Warm warmupIndex Set.univ series := by
  have atr := warm_ranges numerics valid
  have oscillator := warm_oscillator numerics valid
  have closes : ∀ value ∈ bars.map Bar.close, 0 < value := by
    intro value member
    obtain ⟨bar, inside, rfl⟩ := List.mem_map.mp member
    exact (valid bar inside).close_pos
  have returns := warm_logReturns regular closes
  have smoothed (period : ℕ+) : Warm 0 Set.univ ((ema (bars.map Bar.close) period).map some) :=
    warm_map_some fun _ _ => trivial
  have atrNorm : Warm 1 Set.univ (buildFrame numerics bars).atrNorm := by
    intro entry member
    rw [buildFrame, List.drop_zipWith] at member
    obtain ⟨value, width, price, close, rfl⟩ := exists_of_mem_zipWith member
    obtain ⟨average, -, rfl⟩ := atr value width
    have pos := closes price (List.mem_of_mem_drop close)
    rw [if_pos (by rwa [ExactMath.ofRat_eq, Rat.cast_zero])]
    exact ⟨_, trivial, rfl⟩
  have late {warmup : ℕ} {s : Set F} {series : Series F} (early : warmup ≤ warmupIndex)
      (warm : Warm warmup s series) : Warm warmupIndex Set.univ series :=
    warm.mono early (Set.subset_univ s)
  simp only [FeatureFrame.series, List.forall_mem_cons]
  refine ⟨late (by decide) atr, late (by decide) atrNorm, late (by decide) (warm_rsi _ 14),
    late (by decide) (smoothed 50), late (by decide) (smoothed 200), ?_, ?_, ?_,
    late (by decide) oscillator.1, late (by decide) oscillator.2, late (by decide) returns,
    late (by decide) (warm_realizedVolatility numerics (by decide) returns),
    fun _ member => absurd member List.not_mem_nil⟩
  all_goals
    rw [buildFrame, bollingerBands_eq]
    exact late (by decide) (warm_banded 20 _ _)

theorem frame_bounded (regular : numerics.Regular) (valid : ∀ bar ∈ bars, bar.OhlcvPricesValid)
    {i : ℕ} (warm : warmupIndex ≤ i) (inside : i < bars.length) :
    (buildFrame numerics bars).Bounded (bars.map Bar.close) i where
  defined := by
    intro series member
    obtain ⟨value, -, here⟩ := (warm_frame regular valid series member).getElem? warm
      (by rwa [length_series numerics bars series member])
    exact ⟨value, here⟩
  atr := fun value here =>
    (warm_ranges numerics valid).mem (Nat.le_trans (by decide) warm) here
  rsi := fun value here => (warm_rsi _ 14).mem (Nat.le_trans (by decide) warm) here
  ema50 := fun value => ema_between
  ema200 := fun value => ema_between
  bands := by
    intro lower mid upper lowest middle highest
    rw [buildFrame, bollingerBands_eq] at lowest middle highest
    have width (window : List F) : 0 ≤ ofRat 2 * std numerics 0 window := by
      rw [ExactMath.ofRat_eq]
      exact mul_nonneg (by norm_num) (std_nonneg regular window)
    exact ⟨banded_le (fun window => sub_le_self _ (width window)) lowest middle,
      banded_le (fun window => le_add_of_nonneg_right (width window)) middle highest⟩
  k := fun value here =>
    (warm_oscillator numerics valid).1.mem (Nat.le_trans (by decide) warm) here
  d := fun value here =>
    (warm_oscillator numerics valid).2.mem (Nat.le_trans (by decide) warm) here

/-- A window of at least 200 valid bars is complete: no series is missing or out of bounds from the
200th bar on, and a snapshot is taken of it. -/
theorem valid_window_complete (numerics : Numerics F) (regular : numerics.Regular)
    (bars : List (Bar F)) (long : 200 ≤ bars.length)
    (valid : ∀ bar ∈ bars, bar.OhlcvPricesValid) :
    (∀ i, 199 ≤ i → i < bars.length →
      (buildFrame numerics bars).Bounded (bars.map Bar.close) i) ∧
    frameIsComplete bars.length (buildFrame numerics bars) = true ∧
    ∀ mint symbol timeframe, ∃ snapshot,
      snapshotFromBars numerics mint bars symbol timeframe = .ok snapshot := by
  have enough : warmupIndex < bars.length := long
  have complete : frameIsComplete bars.length (buildFrame numerics bars) = true := by
    rw [frameIsComplete, decide_eq_true enough, Bool.true_and]
    exact List.all_eq_true.mpr fun series member =>
      (warm_frame regular valid series member).all_isSome
  refine ⟨fun i warm inside => frame_bounded regular valid warm inside, complete, ?_⟩
  intro mint symbol timeframe
  obtain ⟨latest, last⟩ : ∃ latest, bars.getLast? = some latest :=
    Option.isSome_iff_exists.mp (List.getLast?_isSome.mpr
      (List.ne_nil_of_length_pos (Nat.lt_of_lt_of_le (by decide) long)))
  have taken := snapshotFromBars_cases numerics mint symbol timeframe enough last
  rw [if_pos complete] at taken
  obtain ⟨snapshot, taken, -⟩ := taken
  exact ⟨snapshot, taken⟩

end Frames

namespace Sample

theorem approximate_regular : approximate.Regular where
  log_defined := by
    intro value pos
    simp [approximate, pos]
  sqrt_nonneg := by
    intro value _
    simp only [approximate]
    positivity

def steady : List (Bar ℚ) := (List.range 200).map fun index => candle index 100 100

theorem length_steady : steady.length = 200 := by
  rw [steady, List.length_map, List.length_range]

theorem steady_valid : ∀ bar ∈ steady, bar.OhlcvPricesValid := by decide +kernel

end Sample

theorem valid_window_complete_steady :
    (buildFrame Sample.approximate Sample.steady).Bounded (Sample.steady.map Bar.close) 199 ∧
      frameIsComplete Sample.steady.length
        (buildFrame Sample.approximate Sample.steady) = true := by
  have held := valid_window_complete Sample.approximate Sample.approximate_regular Sample.steady
    Sample.length_steady.ge Sample.steady_valid
  exact ⟨held.1 199 (Nat.le_refl 199) (by rw [Sample.length_steady]; decide), held.2.1⟩

end Vix75
