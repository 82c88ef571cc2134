import Vix75.BarEventChecks
import Vix75.TrainingCore

/-! The pairs of a training run: the last of them is labelled by the newest bar. -/

namespace Vix75

open PyMath

section Slices

variable {α β : Type} {values : List α} {count : ℤ}

theorem length_tailSlice (values : List α) (some : 0 < count) :
    (tailSlice count values).length = min count.toNat values.length := by
  rw [tailSlice, if_pos some, List.length_drop]
  omega

theorem getLast?_tailSlice (values : List α) (some : 0 < count) :
    (tailSlice count values).getLast? = values.getLast? := by
  rw [tailSlice, if_pos some, List.getLast?_drop]
  split
  · have none : values = [] := List.length_eq_zero_iff.mp (by omega)
    rw [none, List.getLast?_nil]
  · rfl

theorem getLast?_zipWith {γ : Type} {f : α → β → γ} {others : List β}
    (length : values.length = others.length) : (List.zipWith f values others).getLast? =
      values.getLast?.bind fun value => others.getLast?.map (f value) := by
  rw [List.getLast?_eq_getElem?, List.getLast?_eq_getElem?, List.getLast?_eq_getElem?,
    List.getElem?_zipWith, List.length_zipWith, length, Nat.min_self]
  cases values[others.length - 1]? <;> cases others[others.length - 1]? <;> rfl

end Slices

namespace Training

variable {F : Type}

def ForwardWindow (prices : List (Stamped (F × F))) (ts : Timestamp) : Prop :=
  verticalBars ≤ (prices.filter fun price => ts < price.ts).length

/-- Features, posterior and label are those of one bar, whose horizon is complete. -/
def Aligned (prices : List (Stamped (F × F))) (pair : TrainingPair F) : Prop :=
  pair.posterior.ts = pair.features.ts ∧ pair.label.ts = pair.features.ts ∧
    ForwardWindow prices pair.features.ts

theorem sorted_featureRows (store : FeatureStore F) (symbol timeframe : String) :
    (fetchCloseAtr (store.featureRows symbol timeframe)).Pairwise fun first second =>
      first.ts ≤ second.ts := by
  have sorted : (store.featureRows symbol timeframe).Pairwise fun first second =>
      first.ts ≤ second.ts := List.pairwise_insertionSort _ _
  refine List.pairwise_filterMap.mpr (sorted.imp fun order first here second there => ?_)
  obtain ⟨_, _, rfl⟩ := Option.map_eq_some_iff.mp here
  obtain ⟨_, _, rfl⟩ := Option.map_eq_some_iff.mp there
  exact order

theorem not_forwardWindow {prices : List (Stamped (F × F))} {last : Stamped (F × F)}
    (sorted : prices.Pairwise fun first second => first.ts ≤ second.ts)
    (newest : prices.getLast? = some last) : ¬ForwardWindow prices last.ts := by
  have none : (prices.filter fun price => last.ts < price.ts) = [] :=
    List.filter_eq_nil_iff.mpr fun price member => by
      simpa using le_of_getLast? sorted newest member
  rw [ForwardWindow, none, List.length_nil]
  exact Nat.not_succ_le_zero 11

theorem last_label {matrix : List (Stamped (List F))} {probs : List (Stamped (F × F × F))}
    {labels : List (Stamped ℤ)} {last : Stamped ℤ} (timeOfDay : ℤ → F × F)
    (inMatrix : verticalBars < matrix.length) (inProbs : 0 < probs.length)
    (inLabels : verticalBars < labels.length) (ends : labels.getLast? = some last) :
    ∃ pair ∈ alignPairs timeOfDay matrix probs labels, pair.label = last := by
  have rows : (0 : ℤ) < matrix.length := by omega
  have lengthAll := length_tailSlice labels rows
  have endsAll := getLast?_tailSlice labels rows
  unfold alignPairs
  generalize tailSlice (matrix.length : ℤ) labels = yAll at lengthAll endsAll
  simp only
  generalize chosen :
    min ((min matrix.length probs.length : ℕ) : ℤ) ((yAll.length : ℤ) - verticalBars) = usable
  have pos : 0 < usable := by omega
  have length : ((tailSlice usable matrix).zip (tailSlice usable probs)).length =
      (tailSlice usable yAll).length := by
    rw [List.length_zip, length_tailSlice _ pos, length_tailSlice _ pos, length_tailSlice _ pos]
    omega
  have present : (tailSlice usable matrix).zip (tailSlice usable probs) ≠ [] :=
    List.ne_nil_of_length_pos (by
      rw [List.length_zip, length_tailSlice _ pos, length_tailSlice _ pos]
      omega)
  obtain ⟨row, newest⟩ := Option.isSome_iff_exists.mp (List.getLast?_isSome.mpr present)
  refine ⟨pairOf timeOfDay row last, List.mem_of_getLast? ?_, rfl⟩
  rw [getLast?_zipWith length, newest, getLast?_tailSlice _ pos, endsAll, ends]
  rfl

section Arithmetic

variable [Add F] [Sub F] [Mul F] [Div F] [PyMath F]

theorem length_buildRegimeMatrix {numerics : Numerics F} {prices : List (Stamped (F × F))}
    {hmmX : List (Stamped (RegimeRow F))} (built : buildRegimeMatrix numerics prices = .ok hmmX) :
    23 ≤ prices.length := by
  unfold buildRegimeMatrix at built
  split at built
  · cases built
  · rename_i long
    rw [realizedVolWindow] at long
    omega

variable [LE F] [DecidableLE F]

omit [Div F] in
theorem length_applyTripleBarrier (prices : List (F × F)) :
    (applyTripleBarrier prices).length = prices.length := by
  have scanned (steps : List ℕ) (hits : List Hits) (length : hits.length = prices.length) :
      (steps.foldl (scanStep prices) hits).length = prices.length := by
    induction steps generalizing hits with
    | nil => exact length
    | cons step later ih => exact ih _ (by simp [scanStep, length])
  rw [applyTripleBarrier, List.length_map, scanned _ _ (List.length_replicate ..)]

theorem trainSync_last {numerics : Numerics F} (library : RegimeLibrary F)
    (timeOfDay : ℤ → F × F) {rows : List (Snapshot F)} {hmmX : List (Stamped (RegimeRow F))}
    {model : library.Model}
    (enough : 500 ≤ (fetchFeatureMatrix rows).length)
    (built : buildRegimeMatrix numerics (fetchCloseAtr rows) = .ok hmmX)
    (many : 100 ≤ hmmX.length) (fitted : library.trainHmm (hmmX.map Stamped.value) = .ok model) :
    ∃ pairs pair last, trainSync numerics library timeOfDay rows = .ok pairs ∧ pair ∈ pairs ∧
      (fetchCloseAtr rows).getLast? = some last ∧ pair.label.ts = last.ts := by
  unfold trainSync
  generalize fetchFeatureMatrix rows = matrix at enough ⊢
  generalize fetchCloseAtr rows = prices at built ⊢
  have long := length_buildRegimeMatrix built
  obtain ⟨last, newest⟩ := Option.isSome_iff_exists.mp
    (List.getLast?_isSome.mpr (List.ne_nil_of_length_pos (show 0 < prices.length by omega)))
  -- Every price has a label, the newest one too.
  have labelsLength := length_applyTripleBarrier (prices.map Stamped.value)
  rw [List.length_map] at labelsLength
  obtain ⟨label, ends⟩ := Option.isSome_iff_exists.mp (List.getLast?_isSome.mpr
    (List.ne_nil_of_length_pos (show 0 < (applyTripleBarrier (prices.map Stamped.value)).length by
      omega)))
  have stamped := getLast?_zipWith (f := fun price label => Stamped.mk price.ts label)
    labelsLength.symm
  rw [newest, ends] at stamped
  have inLabels : verticalBars < (List.zipWith (fun price label => Stamped.mk price.ts label) prices
      (applyTripleBarrier (prices.map Stamped.value))).length := by
    rw [List.length_zipWith, labelsLength, Nat.min_self, verticalBars]
    omega
  have inMatrix : verticalBars < matrix.length := by
    rw [verticalBars]
    omega
  have inProbs : 0 < (List.zipWith (fun row posterior => Stamped.mk row.ts posterior)
      (tailSlice matrix.length hmmX) (library.predictProba model
        ((tailSlice matrix.length hmmX).map Stamped.value))).length := by
    rw [List.length_zipWith, library.length_predictProba, List.length_map,
      length_tailSlice _ (by omega)]
    omega
  obtain ⟨pair, member, same⟩ := last_label timeOfDay inMatrix inProbs inLabels stamped
  simp only [if_neg (Nat.not_lt.mpr enough), built, bind, Except.bind,
    if_neg (Nat.not_lt.mpr many), fitted]
  exact ⟨_, pair, last, rfl, member, newest, by rw [same]⟩

/-- No run hands over aligned pairs only. -/
theorem training_pairs_not_aligned (numerics : Numerics F) (library : RegimeLibrary F)
    (timeOfDay : ℤ → F × F) (store : FeatureStore F) (symbol timeframe : String)
    (hmmX : List (Stamped (RegimeRow F))) (model : library.Model)
    (enough : 500 ≤ (fetchFeatureMatrix (store.featureRows symbol timeframe)).length)
    (built : buildRegimeMatrix numerics (fetchCloseAtr (store.featureRows symbol timeframe)) =
      .ok hmmX)
    (many : 100 ≤ hmmX.length) (fitted : library.trainHmm (hmmX.map Stamped.value) = .ok model) :
    ∃ pairs, trainSync numerics library timeOfDay (store.featureRows symbol timeframe) = .ok pairs ∧
      ¬∀ pair ∈ pairs, Aligned (fetchCloseAtr (store.featureRows symbol timeframe)) pair := by
  obtain ⟨pairs, pair, last, run, member, newest, labelled⟩ :=
    trainSync_last library timeOfDay enough built many fitted
  refine ⟨pairs, run, fun aligned => ?_⟩
  obtain ⟨_, same, window⟩ := aligned pair member
  rw [← same, labelled] at window
  exact not_forwardWindow (sorted_featureRows store symbol timeframe) newest window

end Arithmetic

end Training

namespace Sample

def flatRow (index : ℕ) : Snapshot ℚ where
  symbol := "V75"
  timeframe := "M15"
  ts := index * 900000000
  close := 1
  atr := some 1
  atrNorm := some 1
  rsi := some 50
  ema50 := some 1
  ema200 := some 1
  bbUpper := some 1
  bbMid := some 1
  bbLower := some 1
  stochK := some 50
  stochD := some 50
  logReturn := some 0
  realizedVol := some 0
  swingHigh := none
  swingLow := none
  zones := []

def flatTable : FeatureStore ℚ where
  features := ⟨(List.range 500).map flatRow, by
    rw [List.map_map]
    refine List.nodup_range.map fun first second same => ?_
    have times : (first : ℤ) * 900000000 = second * 900000000 :=
      (Prod.ext_iff.mp (Prod.ext_iff.mp same).2).2
    omega⟩

def uniformRegimes : Training.RegimeLibrary ℚ where
  Model := Unit
  trainHmm := fun _ => .ok ()
  predictProba := fun _ rows => rows.map fun _ => (1 / 3, 1 / 3, 1 / 3)
  length_predictProba := fun _ _ => List.length_map _

theorem flatTable_enough : 500 ≤ (Training.fetchFeatureMatrix
      (flatTable.featureRows "V75" "M15")).length ∧
    (Training.buildRegimeMatrix approximate (Training.fetchCloseAtr
      (flatTable.featureRows "V75" "M15"))).toOption.map List.length = some 479 := by
  decide +kernel

theorem flatTable_regimes : ∃ hmmX, Training.buildRegimeMatrix approximate
    (Training.fetchCloseAtr (flatTable.featureRows "V75" "M15")) = .ok hmmX ∧
      100 ≤ hmmX.length := by
  have rows := flatTable_enough.2
  cases built : Training.buildRegimeMatrix approximate
      (Training.fetchCloseAtr (flatTable.featureRows "V75" "M15")) with
  | error error =>
      rw [built] at rows
      cases rows
  | ok hmmX =>
      rw [built] at rows
      exact ⟨hmmX, rfl, by rw [Option.some.inj rows]; decide⟩

end Sample

namespace Training

theorem training_pairs_not_aligned_flat : ∃ pairs, trainSync Sample.approximate
    Sample.uniformRegimes (fun _ => (0, 1)) (Sample.flatTable.featureRows "V75" "M15") = .ok pairs ∧
      ¬∀ pair ∈ pairs, Aligned (fetchCloseAtr (Sample.flatTable.featureRows "V75" "M15")) pair := by
  obtain ⟨hmmX, built, many⟩ := Sample.flatTable_regimes
  exact training_pairs_not_aligned Sample.approximate Sample.uniformRegimes (fun _ => (0, 1))
    Sample.flatTable "V75" "M15" hmmX () Sample.flatTable_enough.1 built many rfl

/-- A table of 500 complete rows gives a pair that is labelled by the last of them. -/
theorem training_keeps_horizon : ¬∀ (numerics : Numerics ℚ) (library : RegimeLibrary ℚ)
    (timeOfDay : ℤ → ℚ × ℚ) (store : FeatureStore ℚ) (symbol timeframe : String)
    (hmmX : List (Stamped (RegimeRow ℚ))) (model : library.Model),
    500 ≤ (fetchFeatureMatrix (store.featureRows symbol timeframe)).length →
    buildRegimeMatrix numerics (fetchCloseAtr (store.featureRows symbol timeframe)) = .ok hmmX →
    100 ≤ hmmX.length → library.trainHmm (hmmX.map Stamped.value) = .ok model →
    ∃ pairs, trainSync numerics library timeOfDay (store.featureRows symbol timeframe) = .ok pairs ∧
      ∀ pair ∈ pairs, Aligned (fetchCloseAtr (store.featureRows symbol timeframe)) pair := by
  intro claim
  obtain ⟨hmmX, built, many⟩ := Sample.flatTable_regimes
  obtain ⟨pairs, run, aligned⟩ := claim Sample.approximate Sample.uniformRegimes
    (fun _ => (0, 1)) Sample.flatTable "V75" "M15" hmmX () Sample.flatTable_enough.1 built many rfl
  obtain ⟨_, pair, last, ran, member, newest, labelled⟩ :=
    trainSync_last Sample.uniformRegimes (fun _ => (0, 1)) Sample.flatTable_enough.1 built many rfl
  obtain rfl := Except.ok.inj (run.symm.trans ran)
  obtain ⟨_, same, window⟩ := aligned pair member
  rw [← same, labelled] at window
  exact not_forwardWindow (sorted_featureRows _ _ _) newest window

end Training

end Vix75
