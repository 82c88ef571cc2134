import Mathlib.Data.List.Infix
import Vix75.RiskCore
import Vix75.WireFormats

/-! notify-service: the consumer of the five lifecycle streams, its audit trail and its alerts,
and the entries that the other services add to these streams. -/

namespace Vix75

open EffectProgram

/-- A text as the Redis client hands it over: a `str` if it was created with
`decode_responses=True`. -/
inductive Raw where
  | bytes (text : String)
  | str (text : String)
deriving DecidableEq

namespace Raw

def text : Raw → String
  | .bytes text => text
  | .str text => text

/-- `value.decode()`, which a `str` does not have. -/
def decode : Raw → Except PyError String
  | .bytes text => .ok text
  | .str _ => .error (.attributeError "'str' object has no attribute 'decode'")

end Raw

structure RawMessage where
  id : Raw
  fields : List (Raw × Raw)
deriving DecidableEq

structure AuditRow where
  actor : String
  action : String
  subject : String
  outcome : String
  payload : List (String × Option String)
deriving DecidableEq

structure TelegramPost where
  path : String
  chatId : String
  text : String
  parseMode : String

inductive HttpAnswer where
  | response (status : ℕ)
  | httpError

inductive NotifyEffect where
  | xgroupCreate (stream : String)
  | xreadgroup (count : ℕ)
  | xack (stream : String) (messageId : Raw)
  | sleep (seconds : ℚ)
  | uuid4
  | insertAudit (row : AuditRow)
  | post (request : TelegramPost)

@[reducible] def NotifyEffect.Reply : NotifyEffect → Type
  | .xreadgroup _ => List (String × List RawMessage)
  | .uuid4 => String
  | .post _ => HttpAnswer
  | _ => Unit

namespace Notifying

/-- `isdigit` is the method of `str`, and `twoDecimals` is `f"{float(value):.2f}"`. -/
structure NotifyConsumer where
  telegramToken : String := ""
  telegramChatId : String := ""
  pollIntervalSeconds : ℚ := 5
  alertRejections : Bool := false
  formats : TextFormats
  isdigit : String → Bool
  twoDecimals : Json → Except PyError String

abbrev Program (α : Type) := Prog NotifyEffect NotifyEffect.Reply PyError α

abbrev await (effect : NotifyEffect) : Program effect.Reply := Prog.perform effect

def streams : List String :=
  ["signal.generated", "signal.rejected", "order.filled", "order.rejected", "order.closed"]

def record (event subject outcome : String) (payload : List (String × Option String)) :
    Program Unit :=
  (await (.insertAudit ⟨"notify-service", event, subject, outcome, payload⟩)).rescue fun
    | .psycopgError _ => .done ()
    | error => .raise error

def entities : List (Char × String) :=
  [('&', "&amp;"), ('<', "&lt;"), ('>', "&gt;"), (Char.ofNat 34, "&quot;"),
    (Char.ofNat 39, "&#x27;")]

def escape (text : String) : String :=
  String.join (text.toList.map fun char =>
    (entities.lookup char).getD (String.singleton char))

abbrev Payload := List (String × Json)

def Payload.get (payload : Payload) (name default : String) : Json :=
  (payload.lookup name).getD (.str default)

def Payload.either (payload : Payload) (first second : String) : Json :=
  (((payload.lookup first).filter Json.truthy).or
    ((payload.lookup second).filter Json.truthy)).getD (.str "—")

namespace NotifyConsumer

variable (consumer : NotifyConsumer)

def configured : Bool :=
  consumer.telegramToken ≠ "" ∧ ¬"...".toList <:+: consumer.telegramToken.toList ∧
    consumer.isdigit consumer.telegramChatId

def send (text : String) : Program Bool :=
  if consumer.configured then do
    let answer ← await (.post {
      path := "/bot" ++ consumer.telegramToken ++ "/sendMessage"
      chatId := consumer.telegramChatId
      text := text
      parseMode := "HTML" })
    match answer with
    | .response status => .done (200 ≤ status ∧ status < 300)
    | .httpError => .done false
  else .done false

def str (value : Json) : Except PyError String :=
  match consumer.formats.str value with
  | some text => .ok text
  | none => .error (.valueError "Exceeds the limit for integer string conversion")

def formatGenerated (payload : Payload) : Except PyError String := do
  let pWin ← match payload.lookup "p_win" with
    | some pWin => if pWin.isNumber then consumer.twoDecimals pWin else .ok "—"
    | none => .ok "—"
  let symbol ← consumer.str (payload.get "symbol" "—")
  let direction ← consumer.str (payload.get "direction" "—")
  let tf ← consumer.str (payload.either "timeframe" "ltf_timeframe")
  let score ← consumer.str (payload.get "score" "—")
  let maxScore ← consumer.str ((payload.lookup "max_score").getD (.int 7))
  let regime ← consumer.str (payload.either "regime" "regime_label")
  let entry ← consumer.str (payload.get "entry" "—")
  let sl ← consumer.str (payload.get "sl" "—")
  let tp1 ← consumer.str (payload.get "tp1" "—")
  let tp2 ← consumer.str (payload.get "tp2" "—")
  .ok ("🟡 <b>SIGNAL GENERATED</b>\n" ++
    "Symbol: " ++ escape symbol ++ "\n" ++
    "Direction: " ++ escape direction ++ " | TF: " ++ escape tf ++ "\n" ++
    "Score: " ++ score ++ "/" ++ maxScore ++ "\n" ++
    "Regime: " ++ escape regime ++ " | P(win): " ++ pWin ++ "\n" ++
    "Entry: " ++ entry ++ "\n" ++
    "SL: " ++ sl ++ " | TP1: " ++ tp1 ++ " | TP2: " ++ tp2)

def formatFilled (payload : Payload) : Except PyError String := do
  let symbol ← consumer.str (payload.get "symbol" "—")
  let direction ← consumer.str (payload.get "direction" "—")
  let ticket ← consumer.str (payload.get "ticket" "—")
  let lots ← consumer.str (payload.get "lots" "—")
  let fillPrice ← consumer.str (payload.either "fill_price" "entry")
  let sl ← consumer.str (payload.get "sl" "—")
  let tp ← consumer.str (payload.get "tp" "—")
  .ok ("🟢 <b>ORDER FILLED</b>\n" ++
    "Ticket #" ++ ticket ++ "\n" ++
    "Symbol: " ++ escape symbol ++ "\n" ++
    "Direction: " ++ escape direction ++ " | Lots: " ++ lots ++ "\n" ++
    "Entry: " ++ fillPrice ++ "\n" ++
    "SL: " ++ sl ++ " | TP: " ++ tp)

def formatRejected (payload : Payload) : Except PyError String := do
  let reason ← consumer.str (payload.get "rejected_reason" "—")
  let symbol ← consumer.str (payload.get "symbol" "—")
  let signalId ← consumer.str (payload.get "signal_id" "—")
  let detail ← consumer.str (payload.get "detail" "")
  .ok ("🔴 <b>ORDER REJECTED</b>\n" ++
    "Reason: " ++ escape reason ++ "\n" ++
    "Symbol: " ++ escape symbol ++ "\n" ++
    "Signal: " ++ escape signalId ++ "\n" ++
    "Detail: " ++ escape (String.ofList (detail.toList.take 200)))

def formatClosed (payload : Payload) : Except PyError String := do
  let pnl := (payload.lookup "pnl").getD (.float (.finite 0))
  let profit := match pnl with
    | .bool _ => true
    | .int value => decide (0 ≤ value)
    | .float value => PyFloat.le (.finite 0) value
    | _ => false
  let symbol ← consumer.str (payload.get "symbol" "—")
  let pnl ← consumer.str pnl
  let ticket ← consumer.str (payload.get "ticket" "—")
  let exitPrice ← consumer.str (payload.get "exit_price" "—")
  .ok ("🔵 <b>TRADE CLOSED</b> " ++ (if profit then "📈" else "📉") ++ "\n" ++
    "PnL: " ++ pnl ++ "\n" ++
    "Ticket #" ++ ticket ++ " | Symbol: " ++ escape symbol ++ "\n" ++
    "Exit: " ++ exitPrice)

end NotifyConsumer

def decode (fields : List (Raw × Raw)) : Fields :=
  fields.map fun entry => (entry.1.text, entry.2.text)

def payloadOf (decoded : Fields) : Payload := decoded.map fun entry => (entry.1, .str entry.2)

def getOrCreateCorrelationId (decoded : Fields) : Program String :=
  match decoded.correlationId with
  | some raw => .done raw
  | none => await .uuid4

/-- The first text that is not empty, or else the id of the message. -/
def subjectOf (decoded : Fields) (messageId : Raw) : Except PyError String :=
  match ((decoded.get? "signal_id").filter (· ≠ "")).or
      ((decoded.get? "idempotency_key").filter (· ≠ "")) with
  | some subject => .ok subject
  | none => messageId.decode

def keyedSubject (decoded : Fields) (subject : String) : String :=
  (decoded.get? "idempotency_key").getD subject

def signalFields : List String :=
  ["direction", "symbol", "entry", "sl", "tp1", "tp2", "score", "max_score"]

/-- Where a field of the blob has the name of a field of the entry, the blob's counts. -/
def signalPayload (loads : String → Except PyError Json) (decoded : Fields) :
    Except PyError Payload :=
  match (decoded.get? "signal").filter (· ≠ "") with
  | none => .ok (payloadOf decoded)
  | some blob =>
      match loads blob with
      | .error (.jsonDecodeError _) => .ok (payloadOf decoded)
      | .error error => .error error
      | .ok (.dict parsed) =>
          .ok (signalFields.map (fun name => (name, (parsed.lookup name).getD .null)) ++
            payloadOf decoded)
      | .ok _ => .error (.attributeError "object has no attribute 'get'")

namespace NotifyConsumer

variable (consumer : NotifyConsumer)

def alert (text : Except PyError String) : Program Unit := do
  let text ← Prog.ofExcept text
  let _ ← consumer.send text
  .done ()

def handleSignalGenerated (decoded : Fields) (correlationId subject : String) : Program Unit := do
  let payload ← Prog.ofExcept (signalPayload consumer.formats.loads decoded)
  let text ← Prog.ofExcept (consumer.formatGenerated payload)
  record "signal.generated" subject "ok" [("correlation_id", some correlationId)]
  consumer.alert (.ok text)

def handleSignalRejected (decoded : Fields) (subject : String) : Program Unit := do
  record "signal.rejected" subject "rejected"
    [("rejected_reason", decoded.get? "rejected_reason")]
  if consumer.alertRejections then consumer.alert (consumer.formatRejected (payloadOf decoded))
  else .done ()

def handleOrderFilled (decoded : Fields) (subject : String) : Program Unit := do
  record "order.filled" (keyedSubject decoded subject) "ok" [("ticket", decoded.get? "ticket")]
  consumer.alert (consumer.formatFilled (payloadOf decoded))

def handleOrderRejected (decoded : Fields) (subject : String) : Program Unit := do
  record "order.rejected" (keyedSubject decoded subject) "error"
    [("rejected_reason", decoded.get? "rejected_reason"), ("detail", decoded.get? "detail")]
  consumer.alert (consumer.formatRejected (payloadOf decoded))

def handleOrderClosed (decoded : Fields) (subject : String) : Program Unit := do
  record "order.closed" (keyedSubject decoded subject) "ok"
    [("pnl", decoded.get? "pnl"), ("ticket", decoded.get? "ticket")]
  consumer.alert (consumer.formatClosed (payloadOf decoded))

def handle (stream : String) (messageId : Raw) (fields : List (Raw × Raw)) : Program Unit := do
  let decoded := decode fields
  let correlationId ← getOrCreateCorrelationId decoded
  let subject ← Prog.ofExcept (subjectOf decoded messageId)
  if stream = "signal.generated" then
    consumer.handleSignalGenerated decoded correlationId subject
  else if stream = "signal.rejected" then consumer.handleSignalRejected decoded subject
  else if stream = "order.filled" then consumer.handleOrderFilled decoded subject
  else if stream = "order.rejected" then consumer.handleOrderRejected decoded subject
  else if stream = "order.closed" then consumer.handleOrderClosed decoded subject
  else .done ()

def handleMessage (stream : String) (message : RawMessage) : Program Unit := do
  consumer.handle stream message.id message.fields
  await (.xack stream message.id)

end NotifyConsumer

def ensureGroup (stream : String) : Program Unit :=
  (await (.xgroupCreate stream)).rescue fun
    | .busyGroup => .done ()
    | error => .raise error

def ensureGroups : Program Unit := Prog.forEach streams ensureGroup

def readBatch : Program (List (String × List RawMessage)) :=
  (await (.xreadgroup 16)).rescue fun
    | .noGroup => do
        ensureGroups
        .done []
    | _ => do
        await (.sleep 2)
        .done []

namespace NotifyConsumer

variable (consumer : NotifyConsumer)

def drain : Program ℕ := do
  let response ← readBatch
  Prog.forEach response fun group => Prog.forEach group.2 (consumer.handleMessage group.1)
  .done (response.map fun group => group.2.length).sum

def serve : ℕ → Program Unit
  | 0 => .done ()
  | rounds + 1 => do
      let processed ← consumer.drain
      if processed = 0 then await (.sleep consumer.pollIntervalSeconds)
      serve rounds

def runForever (rounds : ℕ) : Program Unit := do
  ensureGroups
  consumer.serve rounds

end NotifyConsumer

/-! The streams -/

inductive LifecycleStream where
  | signalGenerated
  | signalRejected
  | orderFilled
  | orderRejected
  | orderClosed
deriving DecidableEq, Repr

namespace LifecycleStream

def value : LifecycleStream → String
  | .signalGenerated => "signal.generated"
  | .signalRejected => "signal.rejected"
  | .orderFilled => "order.filled"
  | .orderRejected => "order.rejected"
  | .orderClosed => "order.closed"

def names : LifecycleStream → List String
  | .signalGenerated => ["signal", "correlation_id"]
  | .signalRejected =>
      ["signal_id", "symbol", "direction", "rejected_reason", "detail", "correlation_id"]
  | .orderFilled => ["signal", "idempotency_key", "signal_id", "symbol", "direction", "lots",
      "entry", "sl", "tp", "ticket", "fill_price", "correlation_id"]
  | .orderRejected => ["signal_id", "idempotency_key", "symbol", "direction", "rejected_reason",
      "detail", "correlation_id"]
  | .orderClosed => ["signal_id", "idempotency_key", "symbol", "ticket", "pnl", "exit_price",
      "correlation_id"]

end LifecycleStream

end Notifying

def SignalRejection.payload (rejection : SignalRejection) : List (String × Json) :=
  [("signal_id", .str rejection.signalId),
   ("symbol", .str rejection.symbol),
   ("direction", .str rejection.direction.value),
   ("rejected_reason", .str rejection.rejectedReason),
   ("detail", .str rejection.detail)]

def OrderRequest.floats (order : OrderRequest ℚ) : OrderRequest PyFloat where
  idempotencyKey := order.idempotencyKey
  signalId := order.signalId
  symbol := order.symbol
  direction := order.direction
  lots := .finite order.lots
  entry := .finite order.entry
  sl := .finite order.sl
  tp := .finite order.tp
  deviationPoints := order.deviationPoints

def jsonOr {α : Type} (dump : α → Json) : Option α → Json
  | some value => dump value
  | none => .null

def ResultView.dump (view : ResultView) : List (String × Json) :=
  [("accepted", .bool view.accepted),
   ("retcode", jsonOr .int view.retcode),
   ("retcode_description", jsonOr .str view.retcodeDescription),
   ("ticket", jsonOr .int view.ticket),
   ("price", jsonOr (fun price => .float (.finite price)) view.price)]

def FilledEntry.payload (filled : FilledEntry) (blob : String) : List (String × Json) :=
  [("signal", .str blob),
   ("idempotency_key", .str filled.order.idempotencyKey),
   ("signal_id", .str filled.order.signalId),
   ("symbol", .str filled.order.symbol),
   ("direction", .str filled.order.direction.value),
   ("lots", .float (.finite filled.order.lots)),
   ("entry", .float (.finite filled.order.entry)),
   ("sl", .float (.finite filled.order.sl)),
   ("tp", .float (.finite filled.order.tp)),
   ("ticket", .int filled.ticket),
   ("fill_price", .float (.finite filled.fillPrice))]

def RejectedEntry.payload (rejected : RejectedEntry) : List (String × Json) :=
  [("signal_id", .str rejected.signalId),
   ("idempotency_key", .str rejected.idempotencyKey),
   ("symbol", .str rejected.symbol),
   ("direction", .str rejected.direction.value),
   ("rejected_reason", .str rejected.rejectedReason),
   ("detail", .str rejected.detail)]

def ClosedEntry.payload (closed : ClosedEntry) : List (String × Json) :=
  [("signal_id", .str closed.signalId),
   ("idempotency_key", .str closed.idempotencyKey),
   ("symbol", .str closed.symbol),
   ("ticket", .int closed.ticket),
   ("pnl", .float (.finite closed.pnl)),
   ("exit_price", .float (.finite closed.exitPrice))]

def FilledEntry.fields (formats : TextFormats) (uuid : String) (filled : FilledEntry) :
    Option Fields := do
  let blob ← formats.dumps (.dict (filled.order.floats.modelDump ++ filled.result.dump))
  formats.streamFields uuid (filled.payload blob) (some filled.correlationId)

namespace Notifying

inductive Published (formats : TextFormats) : LifecycleStream → Fields → Prop
  | signalGenerated {uuid : String} {signal : Signal PyFloat} {correlationId : String}
      {fields : Fields} (written : formats.signalEntry uuid signal correlationId = some fields) :
      Published formats .signalGenerated fields
  | signalRejected {uuid : String} {rejection : SignalRejection} {fields : Fields}
      (written : formats.streamFields uuid rejection.payload (some rejection.correlationId) =
        some fields) : Published formats .signalRejected fields
  | orderFilled {uuid : String} {filled : FilledEntry} {fields : Fields}
      (written : filled.fields formats uuid = some fields) :
      Published formats .orderFilled fields
  | orderRejected {uuid : String} {rejected : RejectedEntry} {fields : Fields}
      (written : formats.streamFields uuid rejected.payload (some rejected.correlationId) =
        some fields) : Published formats .orderRejected fields
  | orderClosed {uuid : String} {closed : ClosedEntry} {fields : Fields}
      (written : formats.streamFields uuid closed.payload (some closed.correlationId) =
        some fields) : Published formats .orderClosed fields

end Notifying

end Vix75
