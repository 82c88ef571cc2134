import Mathlib.Algebra.Order.Ring.Defs
import Mathlib.Data.List.GetD
import Mathlib.Data.List.Sort
import Vix75.FeatureCore
import Vix75.GreedyThinning

/-! When the swings that `detect_swings` reports are confirmed pivots, and stay reported as bars
are appended. -/

namespace Vix75

open GreedyThinning

section Swings

variable {F : Type} [LinearOrder F] [PyMath F]

abbrev priceAt (x : List F) (i : ℕ) : F := x.getD i (PyMath.ofRat 0)

/-- A strict local maximum, or the midpoint of a plateau with lower neighbours. -/
def IsPeak (x : List F) (i : ℕ) : Prop :=
  ∃ left < x.length, ∃ right < x.length, left ≤ right ∧ i = (left + right) / 2 ∧
    0 < left ∧ right + 1 < x.length ∧
    (∀ j < x.length, left ≤ j → j ≤ right → priceAt x j = priceAt x left) ∧
    priceAt x (left - 1) < priceAt x left ∧ priceAt x (right + 1) < priceAt x left

def nearBars (distance first second : ℕ) : Bool :=
  decide (first < second + distance ∧ second < first + distance)

/-- What is relied on of scipy's `find_peaks`: it ranks the peaks by height, in some order where
the heights are equal, and removes from the highest one on those that are too near. -/
structure RanksPeaks (numerics : Numerics F) (ranked : List F → List ℕ) : Prop where
  nodup : ∀ x, (ranked x).Nodup
  mem : ∀ x i, i ∈ ranked x ↔ IsPeak x i
  falling : ∀ x, (ranked x).Pairwise fun first second => priceAt x second ≤ priceAt x first
  kept : ∀ distance x, (numerics.findPeaks distance x).Perm (thin (nearBars distance) (ranked x))

/-- `lookback` bars on each side, none of them higher. -/
def ConfirmedHigh (x : List F) (lookback i : ℕ) : Prop :=
  lookback ≤ i ∧ i + lookback < x.length ∧
    ∀ j < x.length, i ≤ j + lookback → j ≤ i + lookback → priceAt x j ≤ priceAt x i

def ConfirmedLow (x : List F) (lookback i : ℕ) : Prop :=
  lookback ≤ i ∧ i + lookback < x.length ∧
    ∀ j < x.length, i ≤ j + lookback → j ≤ i + lookback → priceAt x i ≤ priceAt x j

instance (x : List F) (lookback i : ℕ) : Decidable (ConfirmedHigh x lookback i) :=
  inferInstanceAs (Decidable (_ ∧ _ ∧ _))

def Swing.Confirmed (high low : List F) (lookback : ℕ) (swing : Swing F) : Prop :=
  match swing.kind with
  | .high => ConfirmedHigh high lookback swing.index
  | .low => ConfirmedLow low lookback swing.index

def settledPeaks (ranked : List F → List ℕ) (lookback : ℕ) (x : List F) : List ℕ :=
  thin (nearBars (2 * lookback + 1)) ((ranked x).filter fun peak => ConfirmedHigh x lookback peak)

def overtakes (ranked : List F → List ℕ) (lookback : ℕ) (x more : List F) (peak : ℕ) : Bool :=
  challenges (nearBars (2 * lookback + 1)) (ranked (x ++ more))
    (settledPeaks ranked lookback x) peak

/-- Every peak that is not confirmed is suppressed by the confirmed ones that are ranked before
it, and every peak that would overtake one of these later by peaks that overtake none. -/
structure Lasting (ranked : List F → List ℕ) (lookback : ℕ) (x more : List F) : Prop where
  confirmed : ∀ peak ∈ ranked x, ¬ConfirmedHigh x lookback peak →
    ∃ kept ∈ thin (nearBars (2 * lookback + 1))
      ((above (ranked x) peak).filter fun other => ConfirmedHigh x lookback other),
      nearBars (2 * lookback + 1) peak kept = true
  unchallenged : ∀ peak ∈ ranked (x ++ more), overtakes ranked lookback x more peak = true →
    ∃ kept ∈ thin (nearBars (2 * lookback + 1))
      ((above (ranked (x ++ more)) peak).filter fun other =>
        !overtakes ranked lookback x more other),
      nearBars (2 * lookback + 1) peak kept = true

theorem nearBars_comm (distance first second : ℕ) :
    nearBars distance first second = nearBars distance second first := by
  exact decide_eq_decide.mpr and_comm

theorem IsPeak.lt_length {x : List F} {i : ℕ} (peak : IsPeak x i) : i < x.length := by
  obtain ⟨left, _, right, _, ordered, rfl, _, inside, _⟩ := peak
  omega

omit [LinearOrder F] in
theorem priceAt_append {x : List F} {i : ℕ} (inside : i < x.length) (more : List F) :
    priceAt (x ++ more) i = priceAt x i := by
  rw [priceAt, priceAt, List.getD_append _ _ _ _ inside]

theorem IsPeak.append {x : List F} {i : ℕ} (peak : IsPeak x i) (more : List F) :
    IsPeak (x ++ more) i := by
  obtain ⟨left, leftInside, right, rightInside, ordered, middle, first, inside, flat, before,
    after⟩ := peak
  refine ⟨left, by rw [List.length_append]; omega, right, by rw [List.length_append]; omega,
    ordered, middle, first, by rw [List.length_append]; omega, ?_, ?_, ?_⟩
  · intro j _ lower upper
    have here : j < x.length := by omega
    rw [priceAt_append here, priceAt_append leftInside]
    exact flat j here lower upper
  · rwa [priceAt_append (by omega), priceAt_append leftInside]
  · rwa [priceAt_append inside, priceAt_append leftInside]

section Series

variable {numerics : Numerics F} {ranked : List F → List ℕ} {lookback : ℕ} {x more : List F}

theorem reported_lasts_iff (peaks : RanksPeaks numerics ranked) :
    (∀ peak ∈ numerics.findPeaks (2 * lookback + 1) x, ConfirmedHigh x lookback peak ∧
      peak ∈ numerics.findPeaks (2 * lookback + 1) (x ++ more)) ↔
      Lasting ranked lookback x more := by
  have reported (x : List F) (peak : ℕ) : peak ∈ numerics.findPeaks (2 * lookback + 1) x ↔
      peak ∈ thin (nearBars (2 * lookback + 1)) (ranked x) := (peaks.kept _ x).mem_iff
  simp only [reported]
  let unconfirmed (peak : ℕ) : Bool := !decide (ConfirmedHigh x lookback peak)
  have twice : (fun peak => !unconfirmed peak) =
      fun peak => decide (ConfirmedHigh x lookback peak) := funext fun _ => Bool.not_not _
  have avoids_iff : (∀ peak ∈ thin (nearBars (2 * lookback + 1)) (ranked x),
      unconfirmed peak = false) ↔ _ := thin_avoids_iff (peaks.nodup x)
  have settled (avoids : ∀ peak ∈ thin (nearBars (2 * lookback + 1)) (ranked x),
      unconfirmed peak = false) :
      thin (nearBars (2 * lookback + 1)) (ranked x) = settledPeaks ranked lookback x := by
    rw [thin_eq_of_avoids avoids, twice]
    rfl
  have members : ∀ peak ∈ settledPeaks ranked lookback x, peak ∈ ranked (x ++ more) := by
    intro peak settled
    have member := List.mem_of_mem_filter (mem_of_mem_thin _ settled)
    exact (peaks.mem _ _).mpr (((peaks.mem _ _).mp member).append more)
  have keeps_iff :=
    thin_keeps_iff (nearBars_comm (2 * lookback + 1)) (peaks.nodup (x ++ more)) members
  have unchallenged_iff : (∀ peak ∈ thin (nearBars (2 * lookback + 1)) (ranked (x ++ more)),
      overtakes ranked lookback x more peak = false) ↔ _ :=
    thin_avoids_iff (peaks.nodup (x ++ more))
  rw [twice] at avoids_iff
  constructor
  · intro lasts
    have avoids : ∀ peak ∈ thin (nearBars (2 * lookback + 1)) (ranked x),
        unconfirmed peak = false := by
      intro peak kept
      simp [unconfirmed, (lasts peak kept).1]
    refine ⟨fun peak member raised => ?_, ?_⟩
    · exact avoids_iff.mp avoids peak member (by simp [unconfirmed, raised])
    · refine unchallenged_iff.mp (keeps_iff.mp fun peak kept => ?_)
      rw [← settled avoids] at kept
      exact (lasts peak kept).2
  · rintro ⟨suppressed, unchallenged⟩
    have avoids := avoids_iff.mpr fun peak member raised =>
      suppressed peak member (by simpa [unconfirmed] using raised)
    have keeps := keeps_iff.mpr (unchallenged_iff.mpr unchallenged)
    intro peak kept
    have confirmed := avoids peak kept
    rw [settled avoids] at kept
    exact ⟨by simpa [unconfirmed] using confirmed, keeps peak kept⟩

end Series

end Swings

section Reported

variable {F : Type} [Field F] [LinearOrder F] [IsStrictOrderedRing F] [PyMath F] [ExactMath F]

def negated (x : List F) : List F := x.map fun value => PyMath.ofRat 0 - value

omit [LinearOrder F] [IsStrictOrderedRing F] in
theorem priceAt_negated (x : List F) (i : ℕ) : priceAt (negated x) i = -priceAt x i := by
  have zero : (PyMath.ofRat 0 : F) = 0 := by rw [ExactMath.ofRat_eq, Rat.cast_zero]
  rcases lt_or_ge i x.length with inside | outside
  · rw [priceAt, priceAt, negated, List.getD_eq_getElem _ _ (by simpa using inside),
      List.getElem_map, List.getD_eq_getElem _ _ inside, zero, zero_sub]
  · rw [priceAt, priceAt, negated, List.getD_eq_default _ _ (by simpa using outside),
      List.getD_eq_default _ _ outside, zero, neg_zero]

theorem confirmedHigh_negated (x : List F) (lookback i : ℕ) :
    ConfirmedHigh (negated x) lookback i ↔ ConfirmedLow x lookback i := by
  simp only [ConfirmedHigh, ConfirmedLow, priceAt_negated, neg_le_neg_iff]
  simp only [negated, List.length_map]

omit [LinearOrder F] [IsStrictOrderedRing F] [ExactMath F] in
theorem mem_detectSwings_iff {numerics : Numerics F} {high low : List F} {lookback : ℕ}
    {swing : Swing F} : swing ∈ detectSwings numerics high low lookback ↔
      ¬high.length < 2 * lookback + 1 ∧ match swing.kind with
        | .high => swing.index ∈ numerics.findPeaks (2 * lookback + 1) high ∧
            swing.price = priceAt high swing.index
        | .low => swing.index ∈ numerics.findPeaks (2 * lookback + 1) (negated low) ∧
            swing.price = priceAt low swing.index := by
  rw [detectSwings]
  split
  · rename_i short
    simp [short]
  · rename_i long
    rw [and_iff_right long, List.mem_mergeSort, List.mem_append, List.mem_map, List.mem_map]
    obtain ⟨index, price, kind⟩ := swing
    cases kind with
    | high =>
        constructor
        · rintro (⟨i, member, same⟩ | ⟨i, member, same⟩)
          · cases same
            exact ⟨member, rfl⟩
          · cases same
        · rintro ⟨member, priced⟩
          obtain rfl : price = priceAt high index := priced
          exact .inl ⟨index, member, rfl⟩
    | low =>
        constructor
        · rintro (⟨i, member, same⟩ | ⟨i, member, same⟩)
          · cases same
          · cases same
            exact ⟨member, rfl⟩
        · rintro ⟨member, priced⟩
          obtain rfl : price = priceAt low index := priced
          exact .inr ⟨index, member, rfl⟩

variable {numerics : Numerics F} {ranked : List F → List ℕ}

/-- Every reported swing is a confirmed pivot that stays reported, just when the peaks of both
series last. -/
theorem detectSwings_confirmed_iff (peaks : RanksPeaks numerics ranked)
    (high low moreHigh moreLow : List F) (lookback : ℕ) :
    (∀ swing ∈ detectSwings numerics high low lookback,
      swing.Confirmed high low lookback ∧
        swing ∈ detectSwings numerics (high ++ moreHigh) (low ++ moreLow) lookback) ↔
      high.length < 2 * lookback + 1 ∨ (Lasting ranked lookback high moreHigh ∧
        Lasting ranked lookback (negated low) (negated moreLow)) := by
  by_cases short : high.length < 2 * lookback + 1
  · refine iff_of_true (fun swing reported => ?_) (.inl short)
    exact absurd short (mem_detectSwings_iff.mp reported).1
  · have longer : ¬(high ++ moreHigh).length < 2 * lookback + 1 := by
      rw [List.length_append]
      omega
    have appended : negated (low ++ moreLow) = negated low ++ negated moreLow := List.map_append
    have inside {x : List F} {i : ℕ} (member : i ∈ numerics.findPeaks (2 * lookback + 1) x) :
        i < x.length :=
      ((peaks.mem x i).mp (mem_of_mem_thin _ ((peaks.kept _ x).mem_iff.mp member))).lt_length
    rw [or_iff_right short, ← reported_lasts_iff peaks, ← reported_lasts_iff peaks, ← appended]
    constructor
    · intro lasts
      constructor
      · intro i member
        have swing := lasts ⟨i, priceAt high i, .high⟩
          (mem_detectSwings_iff.mpr ⟨short, member, rfl⟩)
        exact ⟨swing.1, (mem_detectSwings_iff.mp swing.2).2.1⟩
      · intro i member
        have swing := lasts ⟨i, priceAt low i, .low⟩
          (mem_detectSwings_iff.mpr ⟨short, member, rfl⟩)
        exact ⟨(confirmedHigh_negated _ _ _).mpr swing.1, (mem_detectSwings_iff.mp swing.2).2.1⟩
    · rintro ⟨highs, lows⟩ ⟨i, price, kind⟩ reported
      have listed := (mem_detectSwings_iff.mp reported).2
      cases kind with
      | high =>
          obtain ⟨member, priced⟩ := listed
          have last := highs i member
          refine ⟨last.1, mem_detectSwings_iff.mpr ⟨longer, last.2, priced.trans ?_⟩⟩
          exact (priceAt_append (inside member) moreHigh).symm
      | low =>
          obtain ⟨member, priced⟩ := listed
          have last := lows i member
          have here : i < low.length := by simpa [negated] using inside member
          refine ⟨(confirmedHigh_negated _ _ _).mp last.1,
            mem_detectSwings_iff.mpr ⟨longer, last.2, priced.trans ?_⟩⟩
          exact (priceAt_append here moreLow).symm

end Reported

/-! A concrete `find_peaks` -/

instance (x : List ℚ) (i : ℕ) : Decidable (IsPeak x i) :=
  inferInstanceAs (Decidable (∃ left < x.length, ∃ right < x.length, _))

def rankedPeaks (x : List ℚ) : List ℕ :=
  ((List.range x.length).filter fun i => IsPeak x i).insertionSort fun first second =>
    priceAt x second ≤ priceAt x first

def greedyPeaks : Numerics ℚ where
  log := fun _ => none
  sqrt := id
  findPeaks := fun distance x =>
    (thin (nearBars distance) (rankedPeaks x)).insertionSort fun first second => first ≤ second

theorem greedyPeaks_ranks : RanksPeaks greedyPeaks rankedPeaks where
  nodup := fun x =>
    (List.perm_insertionSort _ _).nodup_iff.mpr (List.nodup_range.filter _)
  mem := by
    intro x i
    rw [rankedPeaks, (List.perm_insertionSort _ _).mem_iff, List.mem_filter, List.mem_range,
      decide_eq_true_iff]
    exact and_iff_right_of_imp IsPeak.lt_length
  falling := by
    intro x
    have total : Std.Total fun first second : ℕ => priceAt x second ≤ priceAt x first :=
      ⟨fun first second => le_total _ _⟩
    have trans : IsTrans ℕ fun first second => priceAt x second ≤ priceAt x first :=
      ⟨fun _ _ _ high low => le_trans low high⟩
    exact List.pairwise_insertionSort _ _
  kept := fun _ _ => List.perm_insertionSort _ _

def risingHighs : List ℚ := [0, 1, 2, 3 / 2, 3, 4, 5]

def risingLows : List ℚ := [-1, 0, 1, 1 / 2, 2, 3, 4]

theorem detectSwings_confirmed_iff_rising :
    (∀ swing ∈ detectSwings greedyPeaks risingHighs risingLows 2,
      swing.Confirmed risingHighs risingLows 2 ∧
        swing ∈ detectSwings greedyPeaks (risingHighs ++ [6]) (risingLows ++ [5]) 2) ↔
      risingHighs.length < 2 * 2 + 1 ∨ (Lasting rankedPeaks 2 risingHighs [6] ∧
        Lasting rankedPeaks 2 (negated risingLows) (negated [5])) :=
  detectSwings_confirmed_iff greedyPeaks_ranks risingHighs risingLows [6] [5] 2

/-- The small peak is reported as a swing high. -/
theorem detectSwings_unconfirmed :
    ¬∀ (numerics : Numerics ℚ) (ranked : List ℚ → List ℕ), RanksPeaks numerics ranked →
      ∀ (high low moreHigh moreLow : List ℚ) (lookback : ℕ), high.length = low.length →
        moreHigh.length = moreLow.length → 1 ≤ lookback →
        ∀ swing ∈ detectSwings numerics high low lookback,
          swing.Confirmed high low lookback ∧
            swing ∈ detectSwings numerics (high ++ moreHigh) (low ++ moreLow) lookback := by
  intro confirms
  have kept : 2 ∈ thin (nearBars 5) (rankedPeaks risingHighs) := by decide +kernel
  have reported : ⟨2, 2, .high⟩ ∈ detectSwings greedyPeaks risingHighs risingLows 2 :=
    mem_detectSwings_iff.mpr ⟨by decide, (greedyPeaks_ranks.kept _ _).mem_iff.mpr kept, rfl⟩
  have swing := confirms greedyPeaks rankedPeaks greedyPeaks_ranks risingHighs risingLows [] [] 2
    rfl rfl (by decide) _ reported
  have higher := swing.1.2.2 4 (by decide) (by decide) (by decide)
  revert higher
  decide +kernel

end Vix75
