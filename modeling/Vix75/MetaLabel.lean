import Vix75.TrainingCore

/-! ml-service: `apply_triple_barrier`, the labels of every entry bar of a close and ATR series.
An array of steps holds `none` where the source holds `np.inf`. -/

namespace Vix75

namespace MetaLabel

variable {F : Type} [Add F] [Sub F] [Mul F] [LE F] [DecidableLE F]

def upperBarriers (close atrValues : List F) (atrMult : F) : List F :=
  List.zipWith (fun entry atr => entry + atrMult * atr) close atrValues

def lowerBarriers (close atrValues : List F) (atrMult : F) : List F :=
  List.zipWith (fun entry atr => entry - atrMult * atr) close atrValues

/-- `steps[valid][hit & ~np.isfinite(steps[valid])] = k`, where `hit` compares `close[k:]` with
`barrier[valid]` and `valid` is `slice(0, n - k)`. -/
def recordHits (hit : F → F → Bool) (close barrier : List F) (k : ℕ) (steps : List (Option ℕ)) :
    List (Option ℕ) :=
  let valid := close.length - k
  let hits := List.zipWith hit (close.drop k) (barrier.take valid)
  List.zipWith (fun hits step => if hits && step.isNone then some k else step)
    hits (steps.take valid) ++ steps.drop valid

structure FirstSteps where
  up : List (Option ℕ)
  dn : List (Option ℕ)

def sweep (close upper lower : List F) : List ℕ → FirstSteps → FirstSteps
  | [], steps => steps
  | k :: later, steps =>
      if close.length ≤ k then steps
      else sweep close upper lower later {
        up := recordHits (fun future bound => decide (bound ≤ future)) close upper k steps.up
        dn := recordHits (fun future bound => decide (future ≤ bound)) close lower k steps.dn }

def applyTripleBarrier (close atrValues : List F) (horizon : ℤ) (atrMult : F) :
    Except PyError (List ℤ) :=
  if close.length ≠ atrValues.length then .error (.valueError "close/atrs shape mismatch")
  else
    let notYet := List.replicate close.length none
    let steps := sweep close (upperBarriers close atrValues atrMult)
      (lowerBarriers close atrValues atrMult) (List.range' 1 horizon.toNat) ⟨notYet, notYet⟩
    .ok (List.zipWith (fun up dn => Training.Hits.label ⟨up, dn⟩) steps.up steps.dn)

end MetaLabel

end Vix75
