import Vix75.PyFloatMath
import Vix75.RiskCore

/-! RiskConsumer._handle over Python floats and whatever documents the snapshot keys hold, for
a Redis whose commands succeed. -/

namespace Vix75

open WhileLoop

namespace Gate

structure Contents where
  get : String → Option String
  openPositions : List (OpenPosition PyFloat) := []
  uuid : String := ""

inductive Write where
  | approved (order : OrderRequest PyFloat) (correlationId : String)
  | rejected (entry : SignalRejection)
  | registered (position : OpenPosition PyFloat)

structure RiskConsumer where
  settings : Settings
  codec : Codec (Signal PyFloat)
  floatOf : String → Option PyFloat

def item (data : Json) (name : String) : Except PyError Json :=
  match data with
  | .dict entries =>
      match entries.lookup name with
      | some value => .ok value
      | none => .error (.keyError name)
  | _ => .error (.typeError "indices must be integers")

/-- `int(value)`, which truncates a float towards zero. -/
def intOfJson (parse : String → Option ℤ) : Json → Except PyError ℤ
  | .bool value => .ok (if value then 1 else 0)
  | .int value => .ok value
  | .float (.finite value) => .ok (value.num.tdiv value.den)
  | .float .nan => .error (.valueError "cannot convert float NaN to integer")
  | .float _ => .error (.overflowError "cannot convert float infinity to integer")
  | .str raw =>
      match parse raw with
      | some value => .ok value
      | none => .error (.valueError ("invalid literal for int(): " ++ raw))
  | _ => .error (.typeError "int() argument must be a string or a real number")

namespace RiskConsumer

variable (consumer : RiskConsumer)

def float (data : Json) (name : String) : Except PyError PyFloat := do
  let value ← floatOfJson consumer.floatOf (← item data name)
  .ok value.double

def account (data : Json) : Except PyError (AccountSnapshot PyFloat) := do
  let balance ← consumer.float data "balance"
  let equity ← consumer.float data "equity"
  let marginFree ← consumer.float data "margin_free"
  .ok { balance := balance, equity := equity, marginFree := marginFree }

def loadAccount (contents : Contents) : Except PyError (Option (AccountSnapshot PyFloat)) := do
  match ← Risk.document consumer.codec (contents.get Risk.accountKey) with
  | none => .ok none
  | some data => Risk.unlessMalformed (consumer.account data)

def constraints (data : Json) : Except PyError (SymbolConstraints PyFloat) := do
  let volumeMin ← consumer.float data "volume_min"
  let volumeMax ← consumer.float data "volume_max"
  let volumeStep ← consumer.float data "volume_step"
  let tickSize ← consumer.float data "tick_size"
  let tickValue ← consumer.float data "tick_value"
  let point ← consumer.float data "point"
  let stopsLevelPoints ← intOfJson consumer.codec.intOf (← item data "stops_level_points")
  let marginPerLot ← consumer.float data "margin_per_lot"
  .ok {
    volumeMin := volumeMin
    volumeMax := volumeMax
    volumeStep := volumeStep
    tickSize := tickSize
    tickValue := tickValue
    point := point
    stopsLevelPoints := stopsLevelPoints
    marginPerLot := marginPerLot }

/-- A document that is no dict misses the fields or cannot be asked for them. -/
def loadSymbolConstraints (contents : Contents) (symbol : String) :
    Except PyError (Option (SymbolConstraints PyFloat)) := do
  match ← Risk.document consumer.codec (contents.get (Risk.symbolKey symbol)) with
  | none => .ok none
  | some data =>
      if Risk.requiredSpecFields.any fun name => (data.item? name).isNone then .ok none
      else Risk.unlessMalformed (consumer.constraints data)

/-- `stops_level_points * point` makes the int a float first. -/
def checkStops (signal : Signal PyFloat) (constraints : SymbolConstraints PyFloat) :
    Except PyError (Option String) := do
  let _ ← floatOfInt constraints.stopsLevelPoints
  .ok (validateStopDistances signal.entry signal.sl signal.tp1 constraints)

def preflightReason (balance : PyFloat) (positions : List (OpenPosition PyFloat)) :
    Option RejectionReason :=
  Risk.exposureReason consumer.settings positions.length
    (Risk.totalRiskPct balance (Risk.totalOpenRisk positions))

def decideFunded (signal : Signal PyFloat) (account : AccountSnapshot PyFloat)
    (constraints : SymbolConstraints PyFloat) (rounds : ℕ) :
    Outcome PyError (Risk.Decision PyFloat) := do
  match ← Outcome.ofExcept (checkStops signal constraints) with
  | some detail => .returned (.refusal .stopsLevelViolation detail)
  | none => do
      let result ←
        computeLots (Risk.sizingArgs consumer.settings signal account constraints) rounds
      .returned (Risk.decideSized signal constraints result)

def decide (contents : Contents) (signal : Signal PyFloat) (rounds : ℕ) :
    Outcome PyError (Risk.Decision PyFloat) := do
  let hint ← Outcome.ofExcept (consumer.loadAccount contents)
  match consumer.preflightReason ((hint.map AccountSnapshot.balance).getD .posInf)
    contents.openPositions with
  | some reason => .returned (.refusal reason "exposure limits reached")
  | none => do
      let account ← Outcome.ofExcept (consumer.loadAccount contents)
      let constraints ← Outcome.ofExcept (consumer.loadSymbolConstraints contents signal.symbol)
      match account, constraints with
      | some account, some constraints => consumer.decideFunded signal account constraints rounds
      | _, _ => .returned (.refusal .accountDataUnavailable
          "mt5:account_info / symbol spec missing from Redis cache")

def report (signal : Signal PyFloat) (decision : Risk.Decision PyFloat) (correlationId : String) :
    Outcome PyError (List Write) :=
  if decision.approved then
    let order := Risk.orderOf signal decision.lots
    .returned [.approved order correlationId,
      .registered (Risk.positionOf signal order decision.riskAmount)]
  else
    match decision.reason with
    | none => .raised .assertionError
    | some reason =>
        .returned [.rejected (Risk.rejectionEntry signal reason decision.detail correlationId)]

def parseSignal (decoded : Fields) : Except PyError (Option (Signal PyFloat)) :=
  Risk.signalOf consumer.codec decoded

def handle (contents : Contents) (fields : Fields) (rounds : ℕ) :
    Outcome PyError (List Write) :=
  let correlationId := fields.correlationId.getD contents.uuid
  match consumer.parseSignal fields with
  | .error error => .raised error
  | .ok none => .returned []
  | .ok (some signal) => do
      let decision ← consumer.decide contents signal rounds
      report signal decision correlationId

end RiskConsumer

end Gate

end Vix75
