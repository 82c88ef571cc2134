import Mathlib.Data.Rat.Init
import Mathlib.Data.Rat.Defs
import Mathlib.Algebra.Order.Ring.Unbundled.Rat

/-! Values that cross the service boundaries: Python exceptions, JSON documents, the
settings that the modelled code reads, and the shared domain schemas. A finite Python
float is an exact rational; the number type stays a parameter where the code only
passes prices on. -/

namespace Vix75

/-- Exceptions, by the class the `except` clauses tell apart. The flag of a lost
connection says whether the server had applied the command before the reply was lost. -/
inductive PyError where
  | valueError (message : String)
  | jsonDecodeError (message : String)
  | overflowError (message : String)
  | typeError (message : String)
  | runtimeError (message : String)
  | attributeError (message : String)
  | keyError (key : String)
  | assertionError
  | recursionError
  | busyGroup
  | noGroup
  | responseError (message : String)
  | connectionError (applied : Bool)
  | psycopgError (applied : Bool)
  | terminalError (message : String)
deriving DecidableEq, Repr

def PyError.isValueError : PyError → Bool
  | .valueError _ => true
  | .jsonDecodeError _ => true
  | _ => false

/-- Caught by `except (KeyError, TypeError, ValueError)`. -/
def PyError.malformed : PyError → Bool
  | .keyError _ => true
  | .typeError _ => true
  | error => error.isValueError

def PyError.applied : PyError → Bool
  | .connectionError applied => applied
  | .psycopgError applied => applied
  | _ => false

inductive PyFloat where
  | finite (value : ℚ)
  | posInf
  | negInf
  | nan
deriving DecidableEq

/-- A document as `json.loads` returns it; a dict keeps its insertion order. -/
inductive Json where
  | null
  | bool (value : Bool)
  | int (value : ℤ)
  | float (value : PyFloat)
  | str (value : String)
  | list (items : List Json)
  | dict (entries : List (String × Json))

namespace Json

def truthy : Json → Bool
  | .null => false
  | .bool value => value
  | .int value => value ≠ 0
  | .float value => value ≠ .finite 0
  | .str value => value ≠ ""
  | .list items => !items.isEmpty
  | .dict entries => !entries.isEmpty

def isNumber : Json → Bool
  | .bool _ => true
  | .int _ => true
  | .float _ => true
  | _ => false

def item? (name : String) : Json → Option Json
  | .dict entries => entries.lookup name
  | _ => none

end Json

abbrev Fields := List (String × String)

def Fields.get? (fields : Fields) (name : String) : Option String := fields.lookup name

/-- The correlation id that an entry carries; an empty one counts as missing. -/
def Fields.correlationId (fields : Fields) : Option String :=
  ((fields.get? "correlation_id").filter (· ≠ "")).or
    ((fields.get? "X-Correlation-Id").filter (· ≠ ""))

structure Message where
  id : String
  fields : Fields
deriving DecidableEq

/-- Text decoders of the Python standard library and of pydantic that a service is run with.
`loads` may also raise for an int of too many digits or for arrays nested too deeply. -/
structure Codec (α : Type) where
  loads : String → Except PyError Json
  intOf : String → Option ℤ
  validate : Json → Option α

structure Settings where
  symbol : String := "Volatility 75 Index"
  riskPctPerTrade : ℚ := 1
  minPWin : ℚ := 55 / 100
  maxOpenPositions : ℤ := 3
  dryRunMode : Bool := true
  ltfTimeframes : List String := ["M5", "M15"]
  htfTimeframes : List String := ["H4", "D1"]
  confluenceMin : ℚ := 9 / 2
  allowS0Fade : Bool := false
  slAtrBuffer : ℚ := 1 / 2
  tpRr1 : ℚ := 2
  tpRr2 : ℚ := 3
  maxTotalRiskPct : ℚ := 3
  marginUsageCap : ℚ := 1 / 2
  mt5Magic : ℤ := 750101

/-! Domain schemas -/

abbrev Timestamp := ℤ

structure Bar (F : Type) where
  ts : Timestamp
  open_ : F
  high : F
  low : F
  close : F
deriving DecidableEq

inductive ZoneKind where
  | supply
  | demand
deriving DecidableEq, Repr

inductive ZoneState where
  | fresh
  | tested
  | mitigated
  | broken
deriving DecidableEq, Repr

def ZoneKind.value : ZoneKind → String
  | .supply => "supply"
  | .demand => "demand"

def ZoneState.value : ZoneState → String
  | .fresh => "fresh"
  | .tested => "tested"
  | .mitigated => "mitigated"
  | .broken => "broken"

structure Zone (F : Type) where
  id : String
  kind : ZoneKind
  top : F
  bottom : F
  createdTs : Timestamp
  state : ZoneState := .fresh
  touches : ℤ := 0
  score : ℤ := 0
deriving DecidableEq

inductive RegimeState where
  | s0Range
  | s1TrendUp
  | s2TrendDown
deriving DecidableEq, Repr

def RegimeState.value : RegimeState → String
  | .s0Range => "S0_range"
  | .s1TrendUp => "S1_trend_up"
  | .s2TrendDown => "S2_trend_down"

def RegimeState.ofValue (raw : String) : Option RegimeState :=
  if raw = "S0_range" then some .s0Range
  else if raw = "S1_trend_up" then some .s1TrendUp
  else if raw = "S2_trend_down" then some .s2TrendDown
  else none

@[simp] theorem RegimeState.ofValue_value (state : RegimeState) :
    RegimeState.ofValue state.value = some state := by
  cases state <;> decide

inductive Direction where
  | buy
  | sell
deriving DecidableEq, Repr

def Direction.value : Direction → String
  | .buy => "BUY"
  | .sell => "SELL"

inductive RejectionReason where
  | invalidSignal
  | accountDataUnavailable
  | maxOpenTradesReached
  | maxTotalRiskExceeded
  | stopsLevelViolation
  | riskTooSmall
  | marginExceeded
deriving DecidableEq, Repr

def RejectionReason.value : RejectionReason → String
  | .invalidSignal => "invalid_signal"
  | .accountDataUnavailable => "account_data_unavailable"
  | .maxOpenTradesReached => "max_open_trades_reached"
  | .maxTotalRiskExceeded => "max_total_risk_exceeded"
  | .stopsLevelViolation => "stops_level_violation"
  | .riskTooSmall => "risk_too_small"
  | .marginExceeded => "margin_exceeded"

inductive SignalStatus where
  | proposed
  | approved
  | rejected
  | executed
  | shadowFilled
deriving DecidableEq, Repr

def SignalStatus.value : SignalStatus → String
  | .proposed => "proposed"
  | .approved => "approved"
  | .rejected => "rejected"
  | .executed => "executed"
  | .shadowFilled => "shadow_filled"

structure ConfluenceComponents where
  htfTrendAligned : Bool := false
  zoneTouch : Bool := false
  bbmaConfirm : Bool := false
  rsiDivergence : Bool := false
  regimeOk : Bool := false
  metaLabelOk : Bool := false
deriving DecidableEq

structure Signal (F : Type) where
  id : String
  createdTs : Timestamp
  symbol : String
  ltfTimeframe : String
  direction : Direction
  entry : F
  sl : F
  tp1 : F
  tp2 : F
  score : ℤ
  maxScore : ℤ
  components : ConfluenceComponents
  pWin : Option F := none
  status : SignalStatus := .proposed
deriving DecidableEq

structure OrderRequest (F : Type) where
  idempotencyKey : String
  signalId : String
  symbol : String
  direction : Direction
  lots : F
  entry : F
  sl : F
  tp : F
  deviationPoints : ℤ := 30
deriving DecidableEq

structure OrderResult (F : Type) where
  idempotencyKey : String
  accepted : Bool
  retcode : Option ℤ := none
  retcodeDescription : Option String := none
  ticket : Option ℤ := none
  price : Option F := none
deriving DecidableEq

def uuidFromHex (signalId : String) : Except PyError String :=
  let h := signalId.toList.filter (· ≠ '-')
  if h.length ≠ 32 || h.any (fun c => c ∉ "0123456789abcdefABCDEF".toList) then
    .error (.valueError ("signal id must be 32 hex chars: " ++ signalId))
  else
    .ok (String.ofList (h.take 8 ++ ['-'] ++ (h.drop 8).take 4 ++ ['-'] ++ (h.drop 12).take 4 ++
      ['-'] ++ (h.drop 16).take 4 ++ ['-'] ++ h.drop 20))

end Vix75
