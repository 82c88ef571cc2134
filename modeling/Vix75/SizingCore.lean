import Vix75.PyMath
import Vix75.WhileLoop

/-! Position sizing and stop distance validation, over any number type with the float
operations the code uses. -/

namespace Vix75

open WhileLoop

inductive SizingStatus where
  | ok
  | rejectRiskTooSmall
  | rejectInvalidInput
  | rejectMargin
  | rejectStopsLevel
  | cappedByVolumeMax
deriving DecidableEq, Repr

def SizingStatus.Accepted (status : SizingStatus) : Prop :=
  status = .ok ∨ status = .cappedByVolumeMax

instance (status : SizingStatus) : Decidable status.Accepted :=
  inferInstanceAs (Decidable (_ ∨ _))

structure SymbolConstraints (F : Type) where
  volumeMin : F
  volumeMax : F
  volumeStep : F
  tickSize : F
  tickValue : F
  point : F
  stopsLevelPoints : ℤ
  marginPerLot : F
deriving DecidableEq

structure LotSizingResult (F : Type) where
  status : SizingStatus
  lots : F
  reason : String
  riskAmount : F
deriving DecidableEq

structure SizingArgs (F : Type) where
  equity : F
  riskPct : F
  entry : F
  stopLoss : F
  takeProfit : F
  constraints : SymbolConstraints F
  freeMargin : Option F
  marginBuffer : F

section Sizing

variable {F : Type} [Add F] [Sub F] [Mul F] [Div F] [LT F] [LE F] [DecidableLT F] [DecidableLE F]
variable [PyMath F]

open PyMath

def floorToStep (value step : F) : Except PyError F :=
  if step ≤ ofRat 0 then .error (.valueError "volume_step must be positive")
  else do
    let steps ← floor (roundTo 10 (value / step))
    .ok (roundTo 10 (ofInt steps * step))

def validateStopDistances (entry stopLoss takeProfit : F) (constraints : SymbolConstraints F) :
    Option String :=
  let minDist := ofInt constraints.stopsLevelPoints * constraints.point
  let slDist := abs (entry - stopLoss)
  let tpDist := abs (takeProfit - entry)
  if minDist ≤ ofRat 0 then none
  else if slDist < minDist then
    some ("SL distance " ++ str slDist ++ " < stops level " ++ str minDist)
  else if tpDist < minDist then
    some ("TP distance " ++ str tpDist ++ " < stops level " ++ str minDist)
  else none

namespace SizingArgs

variable (args : SizingArgs F)

def riskAmount : F := args.equity * args.riskPct / ofRat 100

def lossPerLot : F :=
  abs (args.entry - args.stopLoss) / args.constraints.tickSize * args.constraints.tickValue

def budget (freeMargin : F) : F := freeMargin * args.marginBuffer

end SizingArgs

structure MarginState (F : Type) where
  lots : F
  required : F

/-- `while required > budget and lots > volume_min`. -/
def marginLoop (constraints : SymbolConstraints F) (budget : F) (fuel : ℕ) (start : MarginState F) :
    Outcome PyError (MarginState F) :=
  whileLoop
    (fun state => decide (budget < state.required) && decide (constraints.volumeMin < state.lots))
    (fun state => do
      let floored ← Outcome.ofExcept
        (floorToStep (state.lots - constraints.volumeStep) constraints.volumeStep)
      let lots := pyMax floored (ofRat 0)
      .returned ⟨lots, lots * constraints.marginPerLot⟩)
    fuel start

def applyMargin (args : SizingArgs F) (fuel : ℕ) (status : SizingStatus) (lots : F) :
    Outcome PyError (LotSizingResult F) :=
  match args.freeMargin with
  | none => .returned ⟨status, lots, "sized", args.riskAmount⟩
  | some freeMargin => do
      let budget := args.budget freeMargin
      let final ← marginLoop args.constraints budget fuel
        ⟨lots, lots * args.constraints.marginPerLot⟩
      if budget < final.required then
        .returned ⟨.rejectMargin, ofRat 0,
          "margin " ++ fixed 2 final.required ++ " exceeds usable free margin " ++ fixed 2 budget,
          args.riskAmount⟩
      else if final.lots < args.constraints.volumeMin then
        .returned ⟨.rejectRiskTooSmall, ofRat 0,
          "margin-adjusted lots fell below broker minimum", args.riskAmount⟩
      else .returned ⟨status, final.lots, "sized", args.riskAmount⟩

/-- The part of `compute_lots` after validation: clamp down, never up. -/
def sizeLots (args : SizingArgs F) (fuel : ℕ) : Outcome PyError (LotSizingResult F) := do
  let constraints := args.constraints
  let lots ← Outcome.ofExcept
    (floorToStep (args.riskAmount / args.lossPerLot) constraints.volumeStep)
  if lots < constraints.volumeMin then
    .returned ⟨.rejectRiskTooSmall, ofRat 0,
      "risk-sized " ++ str lots ++ " < volume_min " ++ str constraints.volumeMin ++
        "; refusing to clamp up", args.riskAmount⟩
  else if constraints.volumeMax < lots then
    applyMargin args fuel .cappedByVolumeMax constraints.volumeMax
  else
    applyMargin args fuel .ok lots

def computeLots (args : SizingArgs F) (fuel : ℕ) : Outcome PyError (LotSizingResult F) :=
  let constraints := args.constraints
  if args.equity ≤ ofRat 0 ∨ args.riskPct ≤ ofRat 0 then
    .returned ⟨.rejectInvalidInput, ofRat 0, "equity/risk_pct must be positive", ofRat 0⟩
  else if constraints.tickSize ≤ ofRat 0 ∨ constraints.tickValue ≤ ofRat 0 then
    .returned ⟨.rejectInvalidInput, ofRat 0, "invalid tick_size/tick_value", ofRat 0⟩
  else if args.entry ≤ ofRat 0 ∨ args.stopLoss ≤ ofRat 0 then
    .returned ⟨.rejectInvalidInput, ofRat 0, "prices must be positive", ofRat 0⟩
  else
    match validateStopDistances args.entry args.stopLoss args.takeProfit constraints with
    | some reason => .returned ⟨.rejectStopsLevel, ofRat 0, reason, args.riskAmount⟩
    | none =>
        if args.lossPerLot ≤ ofRat 0 then
          .returned ⟨.rejectInvalidInput, ofRat 0, "loss_per_lot computed as zero",
            args.riskAmount⟩
        else sizeLots args fuel

end Sizing

end Vix75
