import Vix75.FeatureStore

/-! ml-service: the training run, from the rows of the features table to the pairs that the
meta-label model is fitted on. Entries of its arrays are stamped with the bar they are about. -/

namespace Vix75

open PyMath

structure Stamped (α : Type) where
  ts : Timestamp
  value : α
deriving DecidableEq

/-- `values[-count:]`; a negative count leaves out entries at the front, and zero none. -/
def tailSlice {α : Type} (count : ℤ) (values : List α) : List α :=
  if 0 < count then values.drop (values.length - count.toNat) else values.drop (-count).toNat

def FeatureStore.featureRows {F : Type} (store : FeatureStore F) (symbol timeframe : String) :
    List (Snapshot F) :=
  let rows := store.features.rows.filter fun row =>
    row.symbol = symbol ∧ row.timeframe = timeframe
  rows.insertionSort fun first second => first.ts ≤ second.ts

namespace Training

variable {F : Type}

def columns (row : Snapshot F) : List (Option F) :=
  [some row.close, row.atr, row.atrNorm, row.rsi, row.ema50, row.ema200, row.bbUpper, row.bbMid,
   row.bbLower, row.stochK, row.stochD, row.realizedVol, row.logReturn]

def fetchFeatureMatrix (rows : List (Snapshot F)) : List (Stamped (List F)) :=
  rows.filterMap fun row => ((columns row).mapM id).map (Stamped.mk row.ts)

def fetchCloseAtr (rows : List (Snapshot F)) : List (Stamped (F × F)) :=
  rows.filterMap fun row => row.atr.map fun atr => ⟨row.ts, (row.close, atr)⟩

structure RegimeRow (F : Type) where
  logReturn : F
  atrNorm : F
  realizedVol : F

def realizedVolWindow : ℕ := 21

def verticalBars : ℕ := 12

/-- What hmmlearn and the artifact store do: a model fitted, and posteriors of a sequence of rows,
one for each. -/
structure RegimeLibrary (F : Type) where
  Model : Type
  trainHmm : List (RegimeRow F) → Except PyError Model
  predictProba : Model → List (RegimeRow F) → List (F × F × F)
  length_predictProba : ∀ model rows, (predictProba model rows).length = rows.length

structure TrainingPair (F : Type) where
  features : Stamped (List F)
  timeOfDay : F × F
  posterior : Stamped (F × F × F)
  label : Stamped ℤ

def pairOf (timeOfDay : ℤ → F × F) (row : Stamped (List F) × Stamped (F × F × F))
    (label : Stamped ℤ) : TrainingPair F where
  features := row.1
  timeOfDay := timeOfDay (row.1.ts / 3600000000 % 24)
  posterior := row.2
  label := label

def alignPairs (timeOfDay : ℤ → F × F) (matrix : List (Stamped (List F)))
    (probs : List (Stamped (F × F × F))) (labels : List (Stamped ℤ)) : List (TrainingPair F) :=
  let n := min matrix.length probs.length
  let yAll := tailSlice matrix.length labels
  let usable : ℤ := min (n : ℤ) (yAll.length - verticalBars)
  let x := (tailSlice usable matrix).zip (tailSlice usable probs)
  let y := tailSlice usable yAll
  List.zipWith (pairOf timeOfDay) x y

section Arithmetic

variable [Add F] [Sub F] [Mul F] [Div F] [LE F] [DecidableLE F] [PyMath F]

/-- `build_regime_matrix`: row `i` is about the bar of price `i + 1`. A close that is not positive
has no logarithm, and every row with it in its window is left out. -/
def buildRegimeMatrix (numerics : Numerics F) (prices : List (Stamped (F × F))) :
    Except PyError (List (Stamped (RegimeRow F))) :=
  if prices.length < realizedVolWindow + 2 then
    .error (.valueError "need matching close/atr arrays of length >= 23")
  else
    let logs := prices.map fun price => numerics.log price.value.1
    let logReturn : Series F := List.zipWith (fun later before => do
      .some ((← later) - (← before))) logs.tail logs
    let realizedVol := realizedVolatility numerics logReturn realizedVolWindow
    .ok ((prices.tail.zip (logReturn.zip realizedVol)).filterMap fun entry => do
      let change ← entry.2.1
      let volatility ← entry.2.2
      some ⟨entry.1.ts, change, entry.1.value.2 / entry.1.value.1, volatility⟩)

structure Hits where
  up : Option ℕ := none
  down : Option ℕ := none

def scanStep (prices : List (F × F)) (hits : List Hits) (k : ℕ) : List Hits :=
  List.zipWith (fun hit entry => match prices[entry.2 + k]? with
    | none => hit
    | some future =>
        let upper := entry.1.1 + ofRat 2 * entry.1.2
        let lower := entry.1.1 - ofRat 2 * entry.1.2
        {
          up := hit.up.or (if upper ≤ future.1 then some k else none)
          down := hit.down.or (if future.1 ≤ lower then some k else none) }) hits prices.zipIdx

def Hits.label : Hits → ℤ
  | ⟨none, none⟩ => 0
  | ⟨some _, none⟩ => 1
  | ⟨none, some _⟩ => -1
  | ⟨some up, some down⟩ => if up ≤ down then 1 else -1

def applyTripleBarrier (prices : List (F × F)) : List ℤ :=
  ((List.range' 1 verticalBars).foldl (scanStep prices)
    (List.replicate prices.length {})).map Hits.label

/-- `_train_sync` up to `train_meta_label`, with the pairs that it hands over. -/
def trainSync (numerics : Numerics F) (library : RegimeLibrary F) (timeOfDay : ℤ → F × F)
    (rows : List (Snapshot F)) : Except PyError (List (TrainingPair F)) :=
  let matrix := fetchFeatureMatrix rows
  let prices := fetchCloseAtr rows
  if matrix.length < 500 then
    .error (.runtimeError ("insufficient training history: " ++ toString matrix.length ++
      " rows (need >= 500); run a backfill first"))
  else do
    let hmmX ← buildRegimeMatrix numerics prices
    if hmmX.length < 100 then
      .error (.valueError "HMM training needs >= 100 complete feature rows")
    else do
      let model ← library.trainHmm (hmmX.map Stamped.value)
      let recent := tailSlice matrix.length hmmX
      let probs := List.zipWith (fun row posterior => Stamped.mk row.ts posterior) recent
        (library.predictProba model (recent.map Stamped.value))
      let labels := List.zipWith (fun price label => Stamped.mk price.ts label) prices
        (applyTripleBarrier (prices.map Stamped.value))
      .ok (alignPairs timeOfDay matrix probs labels)

end Arithmetic

end Training

end Vix75
