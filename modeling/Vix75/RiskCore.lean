import Vix75.EffectProgram
import Vix75.KeyedTable
import Vix75.SizingCore

/-! risk-service: the exposure tracker, the validator and the gating consumer, as programs
over the Redis commands they await. -/

namespace Vix75

open EffectProgram

structure OpenPosition (F : Type) where
  idempotencyKey : String
  signalId : String
  symbol : String
  direction : Direction
  lots : F
  entry : F
  sl : F
  riskAmount : F
deriving DecidableEq

structure AccountSnapshot (F : Type) where
  balance : F
  equity : F
  marginFree : F
deriving DecidableEq

structure SignalRejection where
  signalId : String
  symbol : String
  direction : Direction
  rejectedReason : String
  detail : String
  correlationId : String
deriving DecidableEq

/-- The Redis commands of risk-service. The hash of open positions is read and written in
the JSON form of a position, which `from_json` reads back as it was. -/
inductive RiskEffect where
  | xgroupCreate
  | xreadgroup (count : ℕ)
  | xack (messageId : String)
  | sleep (seconds : ℚ)
  | uuid4
  | get (key : String)
  | hgetall
  | hset (position : OpenPosition ℚ)
  | hdel (key : String)
  | xaddApproved (order : OrderRequest ℚ) (correlationId : String)
  | xaddRejected (entry : SignalRejection)
  /-- A computation that never ends. -/
  | hang
deriving DecidableEq

@[reducible] def RiskEffect.Reply : RiskEffect → Type
  | .xreadgroup _ => List Message
  | .uuid4 => String
  | .get _ => Option String
  | .hgetall => List (OpenPosition ℚ)
  | .hang => Empty
  | _ => Unit

namespace Risk

abbrev Program (α : Type) := Prog RiskEffect RiskEffect.Reply PyError α

abbrev await (effect : RiskEffect) : Program effect.Reply := Prog.perform effect

/-- The text decoders the service is run with; `floatOf` is Python's `float(...)`. -/
structure Decoders extends Codec (Signal ℚ) where
  floatOf : Json → Option ℚ
  intOfJson : Json → Option ℤ

structure RiskConsumer where
  settings : Settings
  codec : Decoders
  /-- Rounds after which the margin loop of the sizing counts as endless. -/
  sizingRounds : ℕ

def getOrCreateCorrelationId (decoded : Fields) : Program String :=
  match decoded.correlationId with
  | some raw => .done raw
  | none => await .uuid4

section Decisions

variable {F : Type} [PyMath F]

open PyMath

structure Decision (F : Type) where
  approved : Bool
  reason : Option RejectionReason := none
  detail : String := ""
  lots : F
  riskAmount : F

def Decision.refusal (reason : RejectionReason) (detail : String) : Decision F where
  approved := false
  reason := some reason
  detail := detail
  lots := ofRat 0
  riskAmount := ofRat 0

@[simp] theorem Decision.refusal_approved (reason : RejectionReason) (detail : String) :
    (refusal reason detail : Decision F).approved = false := rfl

@[simp] theorem Decision.refusal_reason (reason : RejectionReason) (detail : String) :
    (refusal reason detail : Decision F).reason = some reason := rfl

variable [Add F] [Sub F] [Mul F] [Div F] [LT F] [LE F] [DecidableLT F] [DecidableLE F]

def totalOpenRisk (positions : List (OpenPosition F)) : F :=
  sum (positions.map OpenPosition.riskAmount)

def totalRiskPct (balance totalOpenRisk : F) : F :=
  if ofRat 0 < balance then totalOpenRisk / balance * ofRat 100 else ofRat 0

def exposureReason (settings : Settings) (openCount : ℕ) (totalRiskPct : F) :
    Option RejectionReason :=
  if settings.maxOpenPositions ≤ (openCount : ℤ) then some .maxOpenTradesReached
  else if ofRat settings.maxTotalRiskPct ≤ totalRiskPct then some .maxTotalRiskExceeded
  else none

def sizingArgs (settings : Settings) (signal : Signal F) (account : AccountSnapshot F)
    (constraints : SymbolConstraints F) : SizingArgs F where
  equity := account.balance
  riskPct := ofRat settings.riskPctPerTrade
  entry := signal.entry
  stopLoss := signal.sl
  takeProfit := signal.tp1
  constraints := constraints
  freeMargin := some account.marginFree
  marginBuffer := ofRat settings.marginUsageCap

def riskAmount (signal : Signal F) (constraints : SymbolConstraints F) (lots : F) : F :=
  let slDistance := abs (signal.entry - signal.sl)
  let lossPerLot := slDistance / constraints.tickSize * constraints.tickValue
  roundTo 2 (lossPerLot * lots)

def rejectionOf : SizingStatus → RejectionReason
  | .rejectRiskTooSmall => .riskTooSmall
  | .rejectMargin => .marginExceeded
  | .rejectStopsLevel => .stopsLevelViolation
  | _ => .invalidSignal

def decideSized (signal : Signal F) (constraints : SymbolConstraints F)
    (result : LotSizingResult F) : Decision F :=
  if result.status = .ok ∨ result.status = .cappedByVolumeMax then {
    approved := true
    lots := result.lots
    riskAmount := riskAmount signal constraints result.lots }
  else .refusal (rejectionOf result.status) result.reason

def orderOf (signal : Signal F) (lots : F) : OrderRequest F where
  idempotencyKey := signal.id
  signalId := signal.id
  symbol := signal.symbol
  direction := signal.direction
  lots := lots
  entry := signal.entry
  sl := signal.sl
  tp := signal.tp1

def positionOf (signal : Signal F) (order : OrderRequest F) (riskAmount : F) :
    OpenPosition F where
  idempotencyKey := order.idempotencyKey
  signalId := signal.id
  symbol := order.symbol
  direction := order.direction
  lots := order.lots
  entry := order.entry
  sl := order.sl
  riskAmount := riskAmount

def rejectionEntry (signal : Signal F) (reason : RejectionReason) (detail correlationId : String) :
    SignalRejection where
  signalId := signal.id
  symbol := signal.symbol
  direction := signal.direction
  rejectedReason := reason.value
  detail := String.ofList (detail.toList.take 300)
  correlationId := correlationId

end Decisions

/-- The preflight of exact numbers; `none` as the balance is an infinite one. -/
def preflightReason (settings : Settings) (balance : Option ℚ)
    (positions : List (OpenPosition ℚ)) : Option RejectionReason :=
  exposureReason settings positions.length <| match balance with
    | some balance => totalRiskPct balance (totalOpenRisk positions)
    | none => 0

def preflight (settings : Settings) (balance : Option ℚ) : Program (Option RejectionReason) := do
  let positions ← await .hgetall
  .done (preflightReason settings balance positions)

def release (idempotencyKey : String) : Program Unit := await (.hdel idempotencyKey)

def accountKey : String := "mt5:account_info"

def symbolKey (symbol : String) : String := "mt5:symbol:" ++ symbol

def requiredSpecFields : List String :=
  ["volume_min", "volume_max", "volume_step", "tick_size", "tick_value", "point",
   "stops_level_points", "margin_per_lot"]

/-- `except (KeyError, TypeError, ValueError): return None`. -/
def unlessMalformed {α : Type} : Except PyError α → Except PyError (Option α)
  | .ok value => .ok (some value)
  | .error error => if error.malformed then .ok none else .error error

def document {α : Type} (codec : Codec α) (raw : Option String) :
    Except PyError (Option Json) :=
  match raw with
  | none => .ok none
  | some raw => unlessMalformed (codec.loads raw)

namespace Decoders

variable (codec : Decoders)

def float (data : Json) (name : String) : Option ℚ := do
  codec.floatOf (← data.item? name)

def accountOf (data : Json) : Option (AccountSnapshot ℚ) := do
  some {
    balance := ← codec.float data "balance"
    equity := ← codec.float data "equity"
    marginFree := ← codec.float data "margin_free" }

def constraintsOf (data : Json) : Option (SymbolConstraints ℚ) := do
  if requiredSpecFields.any fun name => (data.item? name).isNone then none
  else some {
    volumeMin := ← codec.float data "volume_min"
    volumeMax := ← codec.float data "volume_max"
    volumeStep := ← codec.float data "volume_step"
    tickSize := ← codec.float data "tick_size"
    tickValue := ← codec.float data "tick_value"
    point := ← codec.float data "point"
    stopsLevelPoints := ← (data.item? "stops_level_points").bind codec.intOfJson
    marginPerLot := ← codec.float data "margin_per_lot" }

def account (raw : Option String) : Except PyError (Option (AccountSnapshot ℚ)) := do
  let data ← document codec.toCodec raw
  .ok (data.bind codec.accountOf)

def constraints (raw : Option String) : Except PyError (Option (SymbolConstraints ℚ)) := do
  let data ← document codec.toCodec raw
  .ok (data.bind codec.constraintsOf)

end Decoders

def signalOf {F : Type} (codec : Codec (Signal F)) (decoded : Fields) :
    Except PyError (Option (Signal F)) :=
  match decoded.get? "signal" with
  | none => .ok none
  | some raw =>
      match codec.loads raw with
      | .ok data => .ok (if data.truthy then codec.validate data else none)
      | .error error => if error.isValueError then .ok none else .error error

theorem signalOf_eq_some {F : Type} {codec : Codec (Signal F)} {decoded : Fields} {raw : String}
    {signal : Signal F} (given : decoded.get? "signal" = some raw)
    (read : signalOf codec decoded = .ok (some signal)) :
    ∃ data, codec.loads raw = .ok data ∧ codec.validate data = some signal := by
  simp only [signalOf, given] at read
  cases loaded : codec.loads raw with
  | ok data =>
      simp only [loaded, Except.ok.injEq] at read
      split at read
      · exact ⟨data, rfl, read⟩
      · cases read
  | error error =>
      simp only [loaded] at read
      split at read <;> cases read

namespace RiskConsumer

variable (consumer : RiskConsumer)

def loadAccount : Program (Option (AccountSnapshot ℚ)) := do
  let raw ← await (.get accountKey)
  Prog.ofExcept (consumer.codec.account raw)

def loadSymbolConstraints (symbol : String) : Program (Option (SymbolConstraints ℚ)) := do
  let raw ← await (.get (symbolKey symbol))
  Prog.ofExcept (consumer.codec.constraints raw)

def sizePosition (signal : Signal ℚ) (account : AccountSnapshot ℚ)
    (constraints : SymbolConstraints ℚ) : WhileLoop.Outcome PyError (LotSizingResult ℚ) :=
  computeLots (sizingArgs consumer.settings signal account constraints) consumer.sizingRounds

def decide (signal : Signal ℚ) : Program (Decision ℚ) := do
  let hint ← consumer.loadAccount
  match ← preflight consumer.settings (hint.map AccountSnapshot.balance) with
  | some reason => .done (.refusal reason "exposure limits reached")
  | none => do
      let account ← consumer.loadAccount
      let constraints ← consumer.loadSymbolConstraints signal.symbol
      match account, constraints with
      | some account, some constraints =>
          match validateStopDistances signal.entry signal.sl signal.tp1 constraints with
          | some detail => .done (.refusal .stopsLevelViolation detail)
          | none =>
              match consumer.sizePosition signal account constraints with
              | .returned result => .done (decideSized signal constraints result)
              | .raised error => .raise error
              | .running => do
                  let never ← await .hang
                  nomatch never
      | _, _ => .done (.refusal .accountDataUnavailable
          "mt5:account_info / symbol spec missing from Redis cache")

def handleSignal (signal : Signal ℚ) (correlationId : String) : Program Unit := do
  let decision ← consumer.decide signal
  if decision.approved then do
    let order := orderOf signal decision.lots
    await (.xaddApproved order correlationId)
    await (.hset (positionOf signal order decision.riskAmount))
  else
    match decision.reason with
    | none => .raise .assertionError
    | some reason =>
        await (.xaddRejected (rejectionEntry signal reason decision.detail correlationId))

def parseSignal (decoded : Fields) : Except PyError (Option (Signal ℚ)) :=
  signalOf consumer.codec.toCodec decoded

def handle (fields : Fields) : Program Unit := do
  let correlationId ← getOrCreateCorrelationId fields
  match ← Prog.ofExcept (consumer.parseSignal fields) with
  | none => .done ()
  | some signal => consumer.handleSignal signal correlationId

def handleMessage (message : Message) : Program Unit := do
  consumer.handle message.fields
  await (.xack message.id)

end RiskConsumer

def ensureGroup : Program Unit :=
  (await .xgroupCreate).rescue fun
    | .busyGroup => .done ()
    | error => .raise error

def readBatch : Program (List Message) :=
  (await (.xreadgroup 16)).rescue fun
    | .noGroup => do
        ensureGroup
        .done []
    | _ => do
        await (.sleep 2)
        .done []

def drain (consumer : RiskConsumer) : Program Unit := do
  let messages ← readBatch
  Prog.forEach messages consumer.handleMessage

end Risk

end Vix75
