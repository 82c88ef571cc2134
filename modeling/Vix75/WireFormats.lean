import Vix75.Documents
import Vix75.ExecutionCore
import Vix75.PyFloatMath
import Vix75.SignalConsumer

/-! What the services write of an order, of a signal and of zones, and how the next service
reads it: stream entries, JSON blobs and a JSONB column. -/

namespace Vix75

open Json

/-- Text conversions of Python and of pydantic. A text is `none` where Python raises a
`ValueError`, and for a rational that is no float. -/
structure TextFormats where
  dumps : Json → Option String
  loads : String → Except PyError Json
  intText : ℤ → Option String
  floatText : PyFloat → Option String
  repr : Json → Option String
  int : String → Option ℤ
  float : ℤ → Option PyFloat
  isoformat : Timestamp → String
  laxInt : String → Option ℤ
  laxFloat : String → Option PyFloat
  laxDatetime : Json → Option Timestamp

def OrderRequest.modelDump (order : OrderRequest PyFloat) : List (String × Json) :=
  [("idempotency_key", .str order.idempotencyKey),
   ("signal_id", .str order.signalId),
   ("symbol", .str order.symbol),
   ("direction", .str order.direction.value),
   ("lots", .float order.lots),
   ("entry", .float order.entry),
   ("sl", .float order.sl),
   ("tp", .float order.tp),
   ("deviation_points", .int order.deviationPoints)]

def ConfluenceComponents.modelDump (components : ConfluenceComponents) : List (String × Json) :=
  [("htf_trend_aligned", .bool components.htfTrendAligned),
   ("zone_touch", .bool components.zoneTouch),
   ("bbma_confirm", .bool components.bbmaConfirm),
   ("rsi_divergence", .bool components.rsiDivergence),
   ("regime_ok", .bool components.regimeOk),
   ("meta_label_ok", .bool components.metaLabelOk)]

def pWinJson : Option PyFloat → Json
  | none => .null
  | some pWin => .float pWin

namespace TextFormats

variable (formats : TextFormats)

def dumpSignal (signal : Signal PyFloat) : List (String × Json) :=
  [("id", .str signal.id),
   ("created_ts", .str (formats.isoformat signal.createdTs)),
   ("symbol", .str signal.symbol),
   ("ltf_timeframe", .str signal.ltfTimeframe),
   ("direction", .str signal.direction.value),
   ("entry", .float signal.entry),
   ("sl", .float signal.sl),
   ("tp1", .float signal.tp1),
   ("tp2", .float signal.tp2),
   ("score", .int signal.score),
   ("max_score", .int signal.maxScore),
   ("components", .dict signal.components.modelDump),
   ("p_win", pWinJson signal.pWin),
   ("status", .str signal.status.value)]

/-- A float is read as an integer if it is whole and fits 64 bits. -/
def readInt : Json → Option ℤ
  | .bool value => some (if value then 1 else 0)
  | .int value => some value
  | .float (.finite value) => if value.den = 1 ∧ |value| < 2 ^ 63 then some value.num else none
  | .str text => formats.laxInt text
  | _ => none

def readFloat : Json → Option PyFloat
  | .bool value => some (.finite (if value then 1 else 0))
  | .int value => formats.float value
  | .float value => some value
  | .str text => formats.laxFloat text
  | _ => none

end TextFormats

def validateComponents (document : Json) : Option ConfluenceComponents := do
  let data ← strict ["htf_trend_aligned", "zone_touch", "bbma_confirm", "rsi_divergence",
    "regime_ok", "meta_label_ok"] document
  some {
    htfTrendAligned := ← defaulted readBool "htf_trend_aligned" false data
    zoneTouch := ← defaulted readBool "zone_touch" false data
    bbmaConfirm := ← defaulted readBool "bbma_confirm" false data
    rsiDivergence := ← defaulted readBool "rsi_divergence" false data
    regimeOk := ← defaulted readBool "regime_ok" false data
    metaLabelOk := ← defaulted readBool "meta_label_ok" false data }

namespace TextFormats

variable (formats : TextFormats)

/-- `uuid` is the id that a signal without one would draw. -/
def validateSignal (uuid : String) (document : Json) : Option (Signal PyFloat) := do
  let data ← strict ["id", "created_ts", "symbol", "ltf_timeframe", "direction", "entry", "sl",
    "tp1", "tp2", "score", "max_score", "components", "p_win", "status"] document
  some {
    id := ← defaulted readStr "id" uuid data
    createdTs := ← required formats.laxDatetime "created_ts" data
    symbol := ← required readStr "symbol" data
    ltfTimeframe := ← required readStr "ltf_timeframe" data
    direction := ← required (enumeration Direction.value [.buy, .sell]) "direction" data
    entry := ← required formats.readFloat "entry" data
    sl := ← required formats.readFloat "sl" data
    tp1 := ← required formats.readFloat "tp1" data
    tp2 := ← required formats.readFloat "tp2" data
    score := ← required formats.readInt "score" data
    maxScore := ← required formats.readInt "max_score" data
    components := ← required validateComponents "components" data
    pWin := ← defaulted (optional formats.readFloat) "p_win" none data
    status := ← defaulted (enumeration SignalStatus.value
      [.proposed, .approved, .rejected, .executed, .shadowFilled]) "status" .proposed data }

def validateZone (uuid : String) (document : Json) : Option (Zone PyFloat) := do
  let data ← strict ["id", "kind", "top", "bottom", "created_ts", "state", "touches", "score"]
    document
  some {
    id := ← defaulted readStr "id" uuid data
    kind := ← required (enumeration ZoneKind.value [.supply, .demand]) "kind" data
    top := ← required formats.readFloat "top" data
    bottom := ← required formats.readFloat "bottom" data
    createdTs := ← required formats.laxDatetime "created_ts" data
    state := ← defaulted (enumeration ZoneState.value [.fresh, .tested, .mitigated, .broken])
      "state" .fresh data
    touches := ← defaulted formats.readInt "touches" 0 data
    score := ← defaulted formats.readInt "score" 0 data }

/-! Stream entries -/

def str : Json → Option String
  | .null => some "None"
  | .bool value => some (if value then "True" else "False")
  | .int value => formats.intText value
  | .float value => formats.floatText value
  | .str text => some text
  | document => formats.repr document

end TextFormats

def Fields.set (fields : Fields) (name value : String) : Fields :=
  if (fields.get? name).isSome then
    fields.map fun entry => if entry.1 = name then (name, value) else entry
  else fields ++ [(name, value)]

namespace TextFormats

variable (formats : TextFormats)

def streamFields (uuid : String) (payload : List (String × Json)) (correlationId : Option String) :
    Option Fields := do
  let cid := (correlationId.filter (· ≠ "")).getD uuid
  let fields ← payload.mapM fun entry => (formats.str entry.2).map fun text => (entry.1, text)
  some (Fields.set fields "correlation_id" cid)

def signalEntry (uuid : String) (signal : Signal PyFloat) (correlationId : String) :
    Option Fields := do
  let blob ← formats.dumps (.dict (formats.dumpSignal signal))
  formats.streamFields uuid [("signal", .str blob)] (some correlationId)

def signalCodec (uuid : String) : Codec (Signal PyFloat) where
  loads := formats.loads
  intOf := formats.int
  validate := formats.validateSignal uuid

structure FeatureRow where
  ts : Timestamp
  close : Option PyFloat
  atr : Option PyFloat
  rsi : Option PyFloat
  ema50 : Option PyFloat
  ema200 : Option PyFloat
  zones : Json

def iterate : Json → Except PyError (List Json)
  | .list items => .ok items
  | .dict entries => .ok (entries.map fun entry => .str entry.1)
  | .str text => .ok (text.toList.map fun char => .str (String.singleton char))
  | _ => .error (.typeError "object is not iterable")

def zonesData (raw : Json) : Except PyError Json :=
  match raw with
  | .str text => formats.loads text
  | raw => .ok (if raw.truthy then raw else .list [])

def readZones (uuids : ℕ → String) (raw : Json) : Except PyError (List (Zone PyFloat)) := do
  let items ← iterate (← formats.zonesData raw)
  match (items.mapIdx fun i item => formats.validateZone (uuids i) item).mapM id with
  | some zones => .ok zones
  | none => .error (.valueError "validation error for Zone")

def rowToSnapshot (uuids : ℕ → String) (symbol timeframe : String) (row : FeatureRow) :
    Except PyError (LtfSnapshot PyFloat) := do
  let zones ← formats.readZones uuids row.zones
  .ok {
    symbol := symbol
    timeframe := timeframe
    ts := row.ts
    close := ← Signalling.required row.close
    atr := ← Signalling.required row.atr
    rsi := ← Signalling.required row.rsi
    ema50 := ← Signalling.required row.ema50
    ema200 := ← Signalling.required row.ema200
    zones := zones }

end TextFormats

end Vix75
