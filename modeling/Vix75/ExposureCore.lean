import Vix75.KeyedHistory
import Vix75.RiskGateCore
import Vix75.WireFormats

/-! The exposure tracker of risk-service as it is written: a mirror of the open positions in each
process, the Redis hash that they share, and the JSON texts in the hash. -/

namespace Vix75

open KeyedTable

namespace Exposure

structure OpenPosition extends Vix75.OpenPosition PyFloat where
  openedTs : String

def OpenPosition.toJson (position : OpenPosition) : Json :=
  .dict
    [("idempotency_key", .str position.idempotencyKey),
     ("signal_id", .str position.signalId),
     ("symbol", .str position.symbol),
     ("direction", .str position.direction.value),
     ("lots", .float position.lots),
     ("entry", .float position.entry),
     ("sl", .float position.sl),
     ("risk_amount", .float position.riskAmount),
     ("opened_ts", .str position.openedTs)]

def direction (value : String) : Except PyError Direction :=
  if value = Direction.buy.value then .ok .buy
  else if value = Direction.sell.value then .ok .sell
  else .error (.valueError (value ++ " is not a valid Direction"))

abbrev Mirror := Dict String OpenPosition

structure ExposureTracker where
  formats : TextFormats
  floatOf : String → Option PyFloat
  redis : Bool := true
  settings : Settings

abbrev Ending := Except PyError Unit

def Ending.applied : Ending → Bool
  | .ok _ => true
  | .error error => error.applied

namespace ExposureTracker

variable (tracker : ExposureTracker)

def json (position : OpenPosition) : Option String := tracker.formats.dumps position.toJson

def str (data : Json) (name : String) : Except PyError String := do
  match tracker.formats.str (← Gate.item data name) with
  | some text => .ok text
  | none => .error (.valueError "Exceeds the limit for integer string conversion")

def float (data : Json) (name : String) : Except PyError PyFloat := do
  floatOfJson tracker.floatOf (← Gate.item data name)

def fromJson (raw : String) : Except PyError OpenPosition := do
  let data ← tracker.formats.loads raw
  let idempotencyKey ← tracker.str data "idempotency_key"
  let signalId ← tracker.str data "signal_id"
  let symbol ← tracker.str data "symbol"
  let direction ← direction (← tracker.str data "direction")
  let lots ← tracker.float data "lots"
  let entry ← tracker.float data "entry"
  let sl ← tracker.float data "sl"
  let riskAmount ← tracker.float data "risk_amount"
  let openedTs ← tracker.str data "opened_ts"
  .ok {
    idempotencyKey := idempotencyKey
    signalId := signalId
    symbol := symbol
    direction := direction
    lots := lots
    entry := entry
    sl := sl
    riskAmount := riskAmount
    openedTs := openedTs }

/-- The risk amounts, added exactly: a rounded sum would depend on the order of the hash. -/
def totalOpenRisk (positions : List OpenPosition) : PyFloat :=
  positions.foldl (fun total position => total.exactAdd position.riskAmount) (.finite 0)

def judge (balance : PyFloat) (positions : List OpenPosition) : Option RejectionReason :=
  Risk.exposureReason tracker.settings positions.length
    (Risk.totalRiskPct balance (totalOpenRisk positions))

/-- The fields of the hash, in any order, each read back. -/
def mirrorOf (raw : List (String × String)) : Except PyError Mirror :=
  raw.foldlM
    (fun mirror field => do
      let position ← tracker.fromJson field.2
      .ok (mirror.write (.set field.1 position)))
    empty

def refresh (mirror : Mirror) (reply : Except PyError (List (String × String))) :
    Except PyError Unit × Mirror :=
  if tracker.redis then
    match reply with
    | .error error => (.error error, mirror)
    | .ok raw =>
        match tracker.mirrorOf raw with
        | .error error => (.error error, mirror)
        | .ok reloaded => (.ok (), reloaded)
  else (.ok (), mirror)

def preflight (mirror : Mirror) (balance : PyFloat)
    (reply : Except PyError (List (String × String))) :
    Except PyError (Option RejectionReason) × Mirror :=
  match tracker.refresh mirror reply with
  | (.error error, mirror) => (.error error, mirror)
  | (.ok _, mirror) => (.ok (tracker.judge balance (mirror.rows.map Prod.snd)), mirror)

def register (mirror : Mirror) (position : OpenPosition) (text : String) (ending : Ending) :
    Except PyError Unit × Mirror × Option (Write String String) :=
  let mirror := mirror.write (.set position.idempotencyKey position)
  if tracker.redis then
    (ending, mirror, if ending.applied then some (.set position.idempotencyKey text) else none)
  else (.ok (), mirror, none)

def release (mirror : Mirror) (idempotencyKey : String) (ending : Ending) :
    Except PyError Bool × Mirror × Option (Write String String) :=
  let removed := mirror.get? idempotencyKey
  let mirror := mirror.write (.delete idempotencyKey)
  if tracker.redis then
    (ending.map fun _ => removed.isSome, mirror,
      if ending.applied then some (.delete idempotencyKey) else none)
  else (.ok removed.isSome, mirror, none)

end ExposureTracker

inductive Call where
  | preflight (balance : PyFloat) (reply : Except PyError (List (String × String)))
  | register (position : OpenPosition) (ending : Ending)
  | release (idempotencyKey : String) (ending : Ending)

inductive Answer where
  | verdict (reason : Except PyError (Option RejectionReason))
  | registered (result : Except PyError Unit)
  | released (result : Except PyError Bool)

structure Registry (Pid : Type) where
  hash : Dict String String := empty
  mirrors : Pid → Mirror := fun _ => empty

section Runs

variable {Pid : Type} [DecidableEq Pid] (tracker : ExposureTracker)

/-- Redis gives the fields of the hash in whatever order. -/
def Registry.replies (registry : Registry Pid) :
    Except PyError (List (String × String)) → Bool
  | .ok raw => raw.isPerm registry.hash.rows
  | .error _ => true

def Registry.put (registry : Registry Pid) (pid : Pid) (mirror : Mirror)
    (command : Option (Write String String)) : Registry Pid where
  hash := (command.map registry.hash.write).getD registry.hash
  mirrors := Function.update registry.mirrors pid mirror

def Registry.step (registry : Registry Pid) (pid : Pid) : Call → Option (Answer × Registry Pid)
  | .preflight balance reply =>
      if registry.replies reply then
        let (reason, mirror) := tracker.preflight (registry.mirrors pid) balance reply
        some (.verdict reason, registry.put pid mirror none)
      else none
  | .register position ending =>
      match tracker.json position with
      | none => none  -- a number of it is no float
      | some text =>
          let (result, mirror, command) :=
            tracker.register (registry.mirrors pid) position text ending
          some (.registered result, registry.put pid mirror command)
  | .release idempotencyKey ending =>
      let (result, mirror, command) :=
        tracker.release (registry.mirrors pid) idempotencyKey ending
      some (.released result, registry.put pid mirror command)

abbrev History (Pid : Type) := List (Pid × Call)

def Registry.run (registry : Registry Pid) : History Pid → Option (Registry Pid)
  | [] => some registry
  | (pid, call) :: history =>
      (registry.step tracker pid call).bind fun next => next.2.run history

end Runs

end Exposure

end Vix75
