import Vix75.Artifacts
import Vix75.ProgramStories
import Vix75.RegimeRelabelling

/-! ml-service: training requests, each with its background job, and what loads the two artifacts
that they write, as programs over one training lock and one file system. -/

namespace Vix75

open EffectProgram PyMath Training
open Artifacts (Files FileEffect ArtifactError saveArtifact loadArtifact)
open Inference (RegimeOrder Posterior canonicalOrder predictRegime inferenceMatrix)

namespace MlService

def regimePath : Artifacts.Path := ⟨"models", "regime_hmm.joblib"⟩

def metaPath : Artifacts.Path := ⟨"models", "meta_label_lgbm.joblib"⟩

def regimeFeatures : List String := ["log_return", "atr_norm", "realized_vol"]

def featureColumns : List String :=
  ["close", "atr", "atr_norm", "rsi", "ema50", "ema200", "bb_upper", "bb_mid", "bb_lower",
    "stoch_k", "stoch_d", "realized_vol", "log_return"]

def metaFeatureNames : List String :=
  featureColumns ++ ["tod_sin", "tod_cos"] ++ ["p_s0", "p_s1", "p_s2"]

def classes : List ℤ := [-1, 0, 1]

structure RegimeBundle (Model : Type) where
  model : Model
  order : RegimeOrder
  features : List String
  path : String

structure MetaBundle (Classifier F : Type) where
  model : Classifier
  classes : List ℤ
  featureNames : List String
  cvLogLosses : List F
  horizon : ℕ
  atrMult : ℚ

/-- What lightgbm, scikit-learn and numpy do: a classifier fitted to rows, its probabilities of a
row, its loss on other rows, `TimeSeriesSplit(n_splits=5)`, and the text of `np.unique`. -/
structure MetaLibrary (F : Type) where
  Classifier : Type
  fit : List (TrainingPair F) → Except PyError Classifier
  predictProba : Classifier → List F → Except PyError (List F)
  logLoss : Classifier → List (TrainingPair F) → Except PyError F
  splits : ℕ → Except PyError (List (List ℕ × List ℕ))
  uniqueText : List ℤ → String

structure Service (F : Type) where
  symbol : String
  numerics : Numerics F
  timeOfDay : ℤ → F × F
  hmm : RegimeLibrary F
  meanReturns : hmm.Model → Fin 3 → PyFloat
  lightgbm : MetaLibrary F
  regimeStore : Artifacts.Library (RegimeBundle hmm.Model)
  metaDumps : MetaBundle lightgbm.Classifier F → Artifacts.Bytes
  metaLoads : Artifacts.Bytes → Option (MetaBundle lightgbm.Classifier F)
  floatOf : F → PyFloat
  isoOf : Timestamp → String

def Service.metaStore {F : Type} (service : Service F) :
    Artifacts.Library (MetaBundle service.lightgbm.Classifier F) :=
  { service.regimeStore with dumps := service.metaDumps, loads := service.metaLoads }

/-- `torn` is an OSError in the middle of a write, with what it left of the file. -/
inductive MlError where
  | python (error : PyError)
  | indexError (message : String)
  | artifact (error : ArtifactError)
  | torn (content : Option Artifacts.Bytes)
  | httpException (statusCode : ℕ) (detail : String)
deriving DecidableEq

structure Prediction where
  symbol : String
  timeframe : String
  ts : String
  regime : String
  stateId : ℕ
  probabilities : List PyFloat
  pUp : PyFloat
  pDown : PyFloat
deriving DecidableEq

inductive Response where
  | queued (timeframe : String) (artifacts : List String) (correlationId : String)
  | predicted (prediction : Prediction)
  | failed (statusCode : ℕ) (detail : String)
deriving DecidableEq

/-- `acquire` and `release` are those of `_TRAIN_LOCK`; `features` asks for the rows of a key, in
the order of their times. -/
inductive MlEffect where
  | acquire
  | release
  | trainingInProgress
  | trainingFailed (error : MlError)
  | uuid4
  | features (symbol timeframe : String)
  | file (effect : FileEffect)
  | respond (response : Response)
deriving DecidableEq

abbrev MlEffect.Reply (F : Type) : MlEffect → Type
  | .acquire => Bool
  | .features _ _ => List (Snapshot F)
  | .uuid4 => String
  | .file effect => effect.Reply
  | _ => Unit

abbrev Program (F α : Type) := Prog MlEffect (MlEffect.Reply F) MlError α

abbrev await {F : Type} (effect : MlEffect) : Program F (effect.Reply F) := Prog.perform effect

def fileHoisting (F : Type) : Hoisting FileEffect FileEffect.Reply ArtifactError MlEffect
    (MlEffect.Reply F) MlError where
  embed := .file
  value := fun _ reply => reply
  fault := .artifact
  recognise := fun
    | .artifact error => some error
    | _ => none
  faithful := by
    rintro (_ | _ | _ | _ | _) error known <;> simp_all

def compute {F α : Type} (result : Except PyError α) : Program F α :=
  Prog.ofExcept (result.mapError .python)

section Training

variable {F : Type} [Add F] [Sub F] [Mul F] [Div F] [LE F] [DecidableLE F] [PyMath F]

namespace Service

variable (service : Service F)

def regimeBundle (features : List (RegimeRow F)) :
    Except PyError (RegimeBundle service.hmm.Model) :=
  if features.length < 100 then
    .error (.valueError "HMM training needs >= 100 complete feature rows")
  else do
    let model ← service.hmm.trainHmm features
    .ok {
      model := model
      order := canonicalOrder (service.meanReturns model)
      features := regimeFeatures
      path := regimePath.text }

def trainHmm (features : List (RegimeRow F)) : Program F Unit := do
  let bundle ← compute (service.regimeBundle features)
  let _ ← (saveArtifact service.regimeStore bundle regimePath).hoist (fileHoisting F)
  .done ()

def loadRegimeModel : Program F (RegimeBundle service.hmm.Model) :=
  (loadArtifact service.regimeStore regimePath).hoist (fileHoisting F)

def select {α : Type} (indices : List ℕ) (rows : List α) : List α :=
  indices.filterMap fun index => rows[index]?

def metaBundle (pairs : List (TrainingPair F)) :
    Except PyError (MetaBundle service.lightgbm.Classifier F) :=
  if pairs.length = 0 then .error (.valueError "X must be a non-empty 2-D array")
  else if ¬pairs.all fun pair => decide (pair.label.value ∈ classes) then
    .error (.valueError ("labels must be subset of (-1, 0, 1), got " ++
      service.lightgbm.uniqueText (pairs.map fun pair => pair.label.value)))
  else do
    let folds ← service.lightgbm.splits pairs.length
    let foldLosses ← folds.mapM fun (trainIdx, testIdx) => do
      let model ← service.lightgbm.fit (select trainIdx pairs)
      service.lightgbm.logLoss model (select testIdx pairs)
    let final ← service.lightgbm.fit pairs
    .ok {
      model := final
      classes := classes
      featureNames := metaFeatureNames
      cvLogLosses := foldLosses
      horizon := verticalBars
      atrMult := 2 }

def trainMetaLabel (pairs : List (TrainingPair F)) :
    Program F (MetaBundle service.lightgbm.Classifier F) := do
  let bundle ← compute (service.metaBundle pairs)
  let _ ← (saveArtifact service.metaStore bundle metaPath).hoist (fileHoisting F)
  .done bundle

def loadMetaModel : Program F (MetaBundle service.lightgbm.Classifier F) :=
  (loadArtifact service.metaStore metaPath).hoist (fileHoisting F)

def outOfBounds (index : ℤ) (size : ℕ) : MlError :=
  .indexError ("index " ++ toString index ++ " is out of bounds for axis 0 with size " ++
    toString size)

def classP (bundle : MetaBundle service.lightgbm.Classifier F) (proba : List F) (target : ℤ) :
    Except MlError PyFloat :=
  match bundle.classes.findIdx? fun other => other = target with
  | none => .error (.python (.valueError (toString target ++ " is not in list")))
  | some index => match proba[index]? with
    | some probability => .ok (service.floatOf (roundTo 6 probability))
    | none => .error (outOfBounds index proba.length)

def predictProba (bundle : MetaBundle service.lightgbm.Classifier F) (row : List F) :
    Except MlError (PyFloat × PyFloat) := do
  let proba ← (service.lightgbm.predictProba bundle.model row).mapError .python
  .ok (← service.classP bundle proba 1, ← service.classP bundle proba (-1))

def pairs (model : service.hmm.Model) (matrix : List (Stamped (List F)))
    (prices : List (Stamped (F × F))) (hmmX : List (Stamped (RegimeRow F))) :
    List (TrainingPair F) :=
  let recent := tailSlice matrix.length hmmX
  let probs := List.zipWith (fun row posterior => Stamped.mk row.ts posterior) recent
    (service.hmm.predictProba model (recent.map Stamped.value))
  let labels := List.zipWith (fun price label => Stamped.mk price.ts label) prices
    (applyTripleBarrier (prices.map Stamped.value))
  alignPairs service.timeOfDay matrix probs labels

def trainSync (timeframe : String) : Program F Unit := do
  let rows ← await (.features service.symbol timeframe)
  let matrix := fetchFeatureMatrix rows
  let priceRows ← await (.features service.symbol timeframe)
  let prices := fetchCloseAtr priceRows
  if matrix.length < 500 then
    .raise (.python (.runtimeError ("insufficient training history: " ++ toString matrix.length ++
      " rows (need >= 500); run a backfill first")))
  else do
    let hmmX ← compute (buildRegimeMatrix service.numerics prices)
    let _ ← service.trainHmm (hmmX.map Stamped.value)
    let bundle ← service.loadRegimeModel
    let _ ← service.trainMetaLabel (service.pairs bundle.model matrix prices hmmX)
    .done ()

/-- The background task of a training request, with its `finally`. -/
def job (timeframe : String) : Program F Unit := do
  let acquired ← await .acquire
  if (acquired : Bool) then do
    let _ ← ((service.trainSync timeframe).rescue fun error =>
      await (.trainingFailed error)).rescue fun error => do
        let _ ← await .release
        .raise error
    await .release
  else await .trainingInProgress

def train (timeframe : String) : Program F Unit := do
  if timeframe ∉ ["M5", "M15", "H1"] then
    .raise (.httpException 422 ("unsupported timeframe " ++ timeframe))
  else do
    let correlationId ← await .uuid4
    let _ ← await (.respond (.queued timeframe [regimePath.text, metaPath.text] correlationId))
    service.job timeframe

def loadModels : Program F
    (RegimeBundle service.hmm.Model × MetaBundle service.lightgbm.Classifier F) :=
  (do
    let regimeBundle ← service.loadRegimeModel
    let metaBundle ← service.loadMetaModel
    .done (regimeBundle, metaBundle)).rescue fun _ =>
      .raise (.httpException 503 "models unavailable; POST /train first")

def posteriorOf (values : F × F × F) : Posterior :=
  ⟨[service.floatOf values.1, service.floatOf values.2.1, service.floatOf values.2.2], rfl⟩

def predictLatest (bundle : RegimeBundle service.hmm.Model) (hmmX : List (RegimeRow F)) :
    Except MlError (String × ℕ × List PyFloat) :=
  match hmmX.getLast? with
  | none => .error (outOfBounds (-1) 0)
  | some newest => match service.hmm.predictProba bundle.model [newest] with
    | posterior :: _ =>
        (predictRegime bundle.order (service.posteriorOf posterior)).mapError .python
    | [] => .error (outOfBounds 0 0)

def latestMetaFeatures (matrix : List (Stamped (List F))) (posteriors : List (F × F × F)) :
    Except MlError (List F) :=
  let probs := tailSlice matrix.length posteriors
  match matrix.getLast? with
  | none => .error (outOfBounds (-1) 0)
  | some newest =>
      let hour := service.timeOfDay (newest.ts / 3600000000 % 24)
      match probs.getLast? with
      -- Posteriors of size zero are left out.
      | none => .ok (newest.value ++ [hour.1, hour.2])
      | some posterior =>
          if probs.length = matrix.length then
            .ok (newest.value ++ [hour.1, hour.2] ++ [posterior.1, posterior.2.1, posterior.2.2])
          else .error (.python (.valueError ("all the input array dimensions except for the " ++
            "concatenation axis must match exactly, but along dimension 0, the array at index 0 " ++
            "has size " ++ toString matrix.length ++ " and the array at index 3 has size " ++
            toString probs.length)))

def predict (timeframe : String) : Program F Response := do
  let bundles ← service.loadModels
  let rows ← await (.features service.symbol timeframe)
  let matrix := inferenceMatrix rows
  match matrix.getLast? with
  | none => .raise (.httpException 503 "no features stored yet")
  | some newest => do
      let priceRows ← await (.features service.symbol timeframe)
      let hmmX ← compute (buildRegimeMatrix service.numerics (fetchCloseAtr priceRows))
      let regime ← Prog.ofExcept (service.predictLatest bundles.1 (hmmX.map Stamped.value))
      let posteriorsFull := service.hmm.predictProba bundles.1.model (hmmX.map Stamped.value)
      let latest ← Prog.ofExcept (service.latestMetaFeatures matrix posteriorsFull)
      let meta_ ← Prog.ofExcept (service.predictProba bundles.2 latest)
      .done (.predicted {
        symbol := service.symbol
        timeframe := timeframe
        ts := service.isoOf newest.ts
        regime := regime.1
        stateId := regime.2.1
        probabilities := regime.2.2
        pUp := meta_.1
        pDown := meta_.2 })

structure LoadedModels where
  regimeBundle : Option (RegimeBundle service.hmm.Model) := none
  metaBundle : Option (MetaBundle service.lightgbm.Classifier F) := none

def workerLoadModels (worker : LoadedModels service) : Program F (LoadedModels service × Bool) :=
  (do
    let regimeBundle ← service.loadRegimeModel
    let worker := { worker with
      regimeBundle := some { regimeBundle with path := regimePath.text } }
    (do
      let metaBundle ← service.loadMetaModel
      .done ({ worker with metaBundle := some metaBundle }, true)).rescue fun _ =>
        .done (worker, false)).rescue fun _ => .done (worker, false)

end Service

/-! All requests over one lock and one file system -/

inductive Request where
  | train (timeframe : String)
  | predict (timeframe : String)
  | workerLoad

def refused : MlError → Response
  | .httpException statusCode detail => .failed statusCode detail
  | _ => .failed 500 "Internal Server Error"

structure MlWorld where
  lock : Bool := false
  files : Files

namespace Service

variable (service : Service F)

def entry : Request → Program F Unit
  | .train timeframe =>
      (service.train timeframe).rescue fun error => await (.respond (refused error))
  | .predict timeframe => do
      let response ← (service.predict timeframe).rescue fun error => .done (refused error)
      await (.respond response)
  | .workerLoad => service.workerLoadModels {} >>= fun _ => .done ()

/-- A file as an access leaves it; a write that fails leaves anything. -/
def answerFile (files : Files) : (effect : FileEffect) → Except MlError effect.Reply → Option Files
  | effect, .ok reply => Artifacts.answer service.regimeStore files effect (.ok reply)
  | effect, .error (.artifact error) =>
      Artifacts.answer service.regimeStore files effect (.error error)
  | .joblibDump path _, .error (.torn content) => some (Function.update files path content)
  | .writeText path _, .error (.torn content) => some (Function.update files path content)
  | _, .error _ => none

/-- The rows of `features` may be any, and change between two queries. -/
def answer (world : MlWorld) :
    (effect : MlEffect) → Except MlError (effect.Reply F) → Option MlWorld
  | .acquire, .ok acquired =>
      if acquired = !world.lock then some { world with lock := true } else none
  | .release, .ok _ => if world.lock then some { world with lock := false } else none
  | .file effect, reply =>
      (service.answerFile world.files effect reply).map fun files => { world with files := files }
  | .trainingInProgress, .ok _ => some world
  | .trainingFailed _, .ok _ => some world
  | .uuid4, .ok _ => some world
  | .features _ _, .ok _ => some world
  | .features _ _, .error (.python _) => some world
  | .respond _, .ok _ => some world
  | .respond _, .error (.python _) => some world
  | _, .error _ => none

def system : System MlEffect (MlEffect.Reply F) MlError MlWorld Empty Request where
  entry := service.entry
  answer := service.answer
  environment := fun _ event => nomatch event

end Service

end Training

end MlService

end Vix75
