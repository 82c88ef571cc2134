import Mathlib.Algebra.Order.Ring.Rat
import Mathlib.Data.List.Perm.Basic
import Vix75.EffectProgram
import Vix75.PyFloatMath

/-! ml-service: regime labels from HMM posteriors, and the inference worker that caches
them. -/

namespace Vix75

open EffectProgram

namespace Inference

structure Posterior where
  probabilities : List PyFloat
  size : probabilities.length = 3

/-- `order` of a regime bundle: the three labels, one for each state id. -/
structure RegimeOrder where
  entries : List (String × ℕ)
  labels : (entries.map Prod.fst).Perm ["S0", "S1", "S2"]
  states : (entries.map Prod.snd).Perm [0, 1, 2]

/-- What the worker computes in a thread from the stored features: the time of the newest
row, the feature matrix and a posterior for each of its rows. -/
structure InferenceRow where
  tsIso : String
  matrix : List (List PyFloat)
  probs : List Posterior

structure MetaBundle where
  predict : InferenceRow → Except PyError (PyFloat × PyFloat)

structure InferenceWorker where
  regimeBundle : Option RegimeOrder
  metaBundle : Option MetaBundle

/-- `np.argmax` from a best index on: the first NaN, or else the first maximum. -/
def argmaxFrom (best : PyFloat) (bestIndex index : ℕ) : List PyFloat → ℕ
  | [] => bestIndex
  | value :: rest =>
      if best ≠ .nan ∧ (value = .nan ∨ best.lt value = true) then
        argmaxFrom value index (index + 1) rest
      else argmaxFrom best bestIndex (index + 1) rest

def argmax : List PyFloat → ℕ
  | [] => 0
  | first :: rest => argmaxFrom first 0 1 rest

def Posterior.at (posterior : Posterior) (state : ℕ) : PyFloat :=
  posterior.probabilities.getD state (.finite 0)

def Posterior.zeros : Posterior := ⟨[.finite 0, .finite 0, .finite 0], rfl⟩

namespace RegimeOrder

variable (order : RegimeOrder)

def labelByState (state : ℕ) : Option String :=
  (order.entries.reverse.find? fun entry => entry.2 = state).map Prod.fst

def state (label : String) : Except PyError ℕ :=
  match order.entries.lookup label with
  | some state => .ok state
  | none => .error (.keyError label)

def probabilities (posterior : Posterior) : Except PyError (List PyFloat) := do
  .ok [posterior.at (← order.state "S0"), posterior.at (← order.state "S1"),
    posterior.at (← order.state "S2")]

end RegimeOrder

def shortToRegime : List (String × RegimeState) :=
  [("S0", .s0Range), ("S1", .s1TrendUp), ("S2", .s2TrendDown)]

def predictRegime (order : RegimeOrder) (posterior : Posterior) :
    Except PyError (String × ℕ × List PyFloat) := do
  let bestState := argmax posterior.probabilities
  match order.labelByState bestState with
  | none => .error (.keyError (toString bestState))
  | some shortLabel => do
      let probabilities ← order.probabilities posterior
      let regimeLabel := match shortToRegime.lookup shortLabel with
        | some regime => regime.value
        | none => shortLabel
      .ok (regimeLabel, bestState, probabilities)

/-! InferenceWorker -/

def inferenceTimeframes : List String := ["M15", "H1"]

def regimeKey : String := "regime:current"

def metaKey : String := "meta_label:current"

def regimeEntry (order : RegimeOrder) (posterior : Posterior)
    (symbol timeframe tsIso correlationId : String) : Except PyError Json := do
  let bestState := argmax posterior.probabilities
  let regimeLabel := (order.labelByState bestState).getD "S0_range"
  let probabilities ← order.probabilities posterior
  .ok (.dict [("symbol", .str symbol), ("timeframe", .str timeframe), ("ts", .str tsIso),
    ("regime", .str regimeLabel), ("state", .int bestState),
    ("probabilities", .list (probabilities.map Json.float)),
    ("correlation_id", .str correlationId)])

def metaEntry (symbol timeframe : String) (meta_ : PyFloat × PyFloat) : Json :=
  .dict [("symbol", .str symbol), ("timeframe", .str timeframe), ("p_up", .float meta_.1),
    ("p_down", .float meta_.2)]

inductive InferenceEffect where
  | uuid4
  | latestFeatureRow (symbol timeframe : String)
  | set (key : String) (document : Json)

@[reducible] def InferenceEffect.Reply : InferenceEffect → Type
  | .uuid4 => String
  | .latestFeatureRow _ _ => Option InferenceRow
  | .set _ _ => Unit

abbrev Program (α : Type) := Prog InferenceEffect InferenceEffect.Reply PyError α

abbrev await (effect : InferenceEffect) : Program effect.Reply := Prog.perform effect

def getOrCreateCorrelationId (decoded : Fields) : Program String :=
  match decoded.correlationId with
  | some raw => .done raw
  | none => await .uuid4

namespace InferenceWorker

variable (worker : InferenceWorker)

def cache (order : RegimeOrder) (bundle : MetaBundle) (row : InferenceRow)
    (symbol timeframe correlationId : String) : Program Unit := do
  let posterior := row.probs.getLast?.getD .zeros
  let meta_ ← Prog.ofExcept (bundle.predict row)
  let document ← Prog.ofExcept
    (regimeEntry order posterior symbol timeframe row.tsIso correlationId)
  await (.set regimeKey document)
  await (.set metaKey (metaEntry symbol timeframe meta_))

def handle (decoded : Fields) : Program Unit := do
  let correlationId ← getOrCreateCorrelationId decoded
  let timeframe := (decoded.get? "timeframe").getD ""
  if timeframe ∉ inferenceTimeframes then .done ()
  else
    match worker.regimeBundle, worker.metaBundle, decoded.get? "symbol" with
    | some order, some bundle, some symbol => do
        match ← await (.latestFeatureRow symbol timeframe) with
        | none => .done ()
        | some row => cache order bundle row symbol timeframe correlationId
    | some _, some _, none => .raise (.keyError "symbol")
    | _, _, _ => .done ()

end InferenceWorker

end Inference

end Vix75
