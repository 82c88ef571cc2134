import Mathlib.Data.List.Sort
import Mathlib.Data.Rat.Floor
import Vix75.DecimalRounding
import Vix75.EffectProgram
import Vix75.Schemas

/-! execution-service: the MT5 executor, the order consumer, the manual close route and
the reconciler, as programs over the effects they await. -/

namespace Vix75

open EffectProgram

structure Tick where
  bid : ℚ
  ask : ℚ
deriving DecidableEq

structure SendRequest where
  action : ℤ
  symbol : String
  volume : ℚ
  type : ℤ
  price : ℚ
  sl : Option ℚ := none
  tp : Option ℚ := none
  position : Option ℤ := none
  deviation : ℤ
  magic : ℤ
  comment : String
  typeTime : Option ℤ := none
  typeFilling : ℤ
deriving DecidableEq

structure SendResult where
  retcode : ℤ
  order : ℤ := 0
  price : ℚ := 0
  comment : String := ""
  volume : ℚ := 0
deriving DecidableEq

structure Position where
  ticket : ℤ
  symbol : Option String := none
  type : Option ℤ := none
deriving DecidableEq

structure Deal where
  entry : Option ℤ
  volume : ℚ
  price : ℚ
  profit : ℚ
deriving DecidableEq

structure Mt5Module where
  tradeActionDeal : ℤ := 1
  orderTypeBuy : ℤ := 0
  orderTypeSell : ℤ := 1
  positionTypeBuy : Option ℤ := some 0
  orderTimeGtc : Option ℤ := some 0
  orderFillingIoc : Option ℤ := some 1
deriving DecidableEq

inductive TradeStatus where
  | pending
  | submitted
  | filled
  | rejected
  | cancelled
deriving DecidableEq, Repr

structure TradeRow where
  idempotencyKey : String
  signalId : String
  symbol : String
  side : Direction
  lots : ℚ
  entryPrice : ℚ
  slPrice : ℚ
  tpPrice : ℚ
  status : TradeStatus := .pending
  retcode : Option ℤ := none
  retcodeDesc : Option String := none
  brokerTicket : Option ℤ := none
  closedAt : Option ℚ := none
  profit : Option ℚ := none
deriving DecidableEq

structure ResultView where
  accepted : Bool
  retcode : Option ℤ
  retcodeDescription : Option String
  ticket : Option ℤ
  price : Option ℚ
deriving DecidableEq

structure FilledEntry where
  order : OrderRequest ℚ
  result : ResultView
  ticket : ℤ
  fillPrice : ℚ
  correlationId : String
deriving DecidableEq

structure RejectedEntry where
  signalId : String
  idempotencyKey : String
  symbol : String
  direction : Direction
  rejectedReason : String
  detail : String
  correlationId : String
deriving DecidableEq

structure ClosedEntry where
  signalId : String
  idempotencyKey : String
  symbol : String
  ticket : ℤ
  pnl : ℚ
  exitPrice : ℚ
  correlationId : String
deriving DecidableEq

structure AuditEntry where
  actor : String
  action : String
  subject : String
  outcome : String
  payload : ResultView
  error : Option String
deriving DecidableEq

structure StatusUpdate where
  status : TradeStatus
  retcode : Option ℤ := none
  desc : Option String := none
  ticket : Option ℤ := none
  price : Option ℚ := none
deriving DecidableEq

inductive Effect where
  | xgroupCreate
  | xreadgroup (count : ℕ)
  | xack (messageId : String)
  | redisGet (key : String)
  | redisSet (key : String) (view : ResultView)
  | xaddFilled (entry : FilledEntry)
  | xaddRejected (entry : RejectedEntry)
  | xaddClosed (entry : ClosedEntry)
  | insertPending (row : TradeRow)
  | setStatus (key : String) (update : StatusUpdate)
  | closeByTicket (ticket : ℤ) (closedAt : ℚ) (profit : ℚ)
  | openTrades
  | tradeByTicket (ticket : ℤ)
  | audit (entry : AuditEntry)
  /-- `asyncio.to_thread(self._executor.execute, order)`: the executor starts. -/
  | startExecute (idempotencyKey : String)
  | symbolInfoTick (symbol : String)
  | orderSend (request : SendRequest)
  | lastError
  | positionsGet (ticket : Option ℤ)
  | historyDealsGet (dateFrom dateTo : ℚ) (position : ℤ)
  | time
  | sleep (seconds : ℚ)
  | uuid4
deriving DecidableEq

@[reducible] def Effect.Reply : Effect → Type
  | .xreadgroup _ => List Message
  | .redisGet _ => Option ResultView
  | .insertPending _ => ℕ
  | .closeByTicket _ _ _ => ℕ
  | .openTrades => List TradeRow
  | .tradeByTicket _ => Option TradeRow
  | .symbolInfoTick _ => Option Tick
  | .orderSend _ => Option SendResult
  | .lastError => String
  | .positionsGet _ => Option (List Position)
  | .historyDealsGet _ _ _ => Option (List Deal)
  | .time => ℚ
  | .uuid4 => String
  | _ => Unit

abbrev Execution (α : Type) := Prog Effect Effect.Reply PyError α

abbrev await (effect : Effect) : Execution effect.Reply := Prog.perform effect

def tradeRetcodeDone : ℤ := 10009
def tradeRetcodeDonePartial : ℤ := 10010

def SendResult.Filled (result : SendResult) : Prop :=
  result.retcode = tradeRetcodeDone ∨ result.retcode = tradeRetcodeDonePartial

instance (result : SendResult) : Decidable result.Filled :=
  inferInstanceAs (Decidable (_ ∨ _))
def tradeRetcodeTimeout : ℤ := 10012

def retryableRetcodes : List ℤ := [10004, 10020, 10021, 10012, 10018]

def maxAttempts : ℕ := 3

structure ExecOutcome where
  result : OrderResult ℚ
  attempts : ℕ := 1
  retryableGaveUp : Bool := false
  lastError : Option String := none

structure MT5Executor where
  settings : Settings
  mt5 : Option Mt5Module
  backoffBaseS : ℚ := 1 / 2

def descriptions : List (ℤ × String) :=
  [(10004, "REQUOTE"), (10006, "REJECT"), (10009, "DONE"), (10010, "DONE_PARTIAL"),
   (10012, "TIMEOUT"), (10013, "INVALID_REQUEST"), (10014, "INVALID_VOLUME"),
   (10015, "INVALID_PRICE"), (10016, "INVALID_STOPS"), (10017, "TRADE_DISABLED"),
   (10018, "MARKET_CLOSED"), (10019, "NO_MONEY"), (10020, "PRICE_CHANGED"), (10021, "PRICE_OFF")]

def describeRetcode (retcode : ℤ) (comment : String) : String :=
  (descriptions.lookup retcode).getD ("RETCODE_" ++ toString retcode) ++
    (if comment ≠ "" then ":" ++ comment else "")

def rejected (order : OrderRequest ℚ) (retcode : Option ℤ) (desc : String) : OrderResult ℚ :=
  { idempotencyKey := order.idempotencyKey, accepted := false, retcode := retcode,
    retcodeDescription := some desc }

namespace MT5Executor

variable (executor : MT5Executor)

def module : Execution Mt5Module :=
  match executor.mt5 with
  | some mt5 => .done mt5
  | none => .raise .assertionError

def tick (symbol : String) : Execution Tick := do
  let _ ← executor.module
  match ← await (.symbolInfoTick symbol) with
  | some tick => .done tick
  | none => .raise (.runtimeError ("symbol_info_tick returned None for " ++ symbol))

def buildRequest (order : OrderRequest ℚ) (price : Option ℚ) : Execution SendRequest := do
  let mt5 ← executor.module
  let orderType := if order.direction = .buy then mt5.orderTypeBuy else mt5.orderTypeSell
  let tick ← executor.tick order.symbol
  let tickPrice := if order.direction = .buy then tick.ask else tick.bid
  let dealPrice := match price with
    | some given => if given ≠ 0 then given else tickPrice
    | none => tickPrice
  .done {
    action := mt5.tradeActionDeal
    symbol := order.symbol
    volume := order.lots
    type := orderType
    price := dealPrice
    sl := some order.sl
    tp := some order.tp
    deviation := order.deviationPoints
    magic := executor.settings.mt5Magic
    comment := "vix75:" ++ String.ofList (order.idempotencyKey.toList.take 16)
    typeTime := some (mt5.orderTimeGtc.getD 1)
    typeFilling := mt5.orderFillingIoc.getD 1 }

def executeDryRun (order : OrderRequest ℚ) : Execution ExecOutcome := do
  let price ← if executor.mt5.isSome then do
      let tick ← executor.tick order.symbol
      Prog.done (if order.direction = .buy then tick.ask else tick.bid)
    else
      Prog.done order.entry
  let now ← await .time
  .done {
    result := {
      idempotencyKey := order.idempotencyKey
      accepted := true
      retcode := some tradeRetcodeDone
      retcodeDescription := some "DONE (dry_run)"
      ticket := some (now.num.tdiv now.den)
      price := some price }
    attempts := 0 }

structure SendState where
  attempts : ℕ := 0
  delay : ℚ
  lastDesc : String := "no response"
  lastError : Option String := none

def sendLoop (order : OrderRequest ℚ) (request : SendRequest) :
    ℕ → SendState → Execution ExecOutcome
  | 0, state => .done {
      result := rejected order none
        ("RETRY_EXHAUSTED after " ++ toString state.attempts ++ ": " ++ state.lastDesc)
      attempts := state.attempts
      retryableGaveUp := true
      lastError := state.lastError }
  | rounds + 1, state => do
      let attempts := state.attempts + 1
      let backOff : SendState → Execution ExecOutcome := fun retry => do
        if attempts < maxAttempts then
          await (.sleep retry.delay)
          sendLoop order request rounds { retry with delay := retry.delay * 2 }
        else
          sendLoop order request rounds retry
      match ← await (.orderSend request) with
      | none => do
          let error ← await .lastError
          backOff { state with
            attempts := attempts
            lastError := some error
            lastDesc := "order_send returned None (" ++ error ++ ")" }
      | some result => do
          let desc := describeRetcode result.retcode result.comment
          if result.retcode = tradeRetcodeDone ∨ result.retcode = tradeRetcodeDonePartial then
            .done {
              result := {
                idempotencyKey := order.idempotencyKey
                accepted := true
                retcode := some result.retcode
                retcodeDescription := some desc
                ticket := some result.order
                price := some result.price }
              attempts := attempts
              lastError := state.lastError }
          else if result.retcode ∉ retryableRetcodes then do
            let rawError ← await .lastError
            .done {
              result := rejected order (some result.retcode) desc
              attempts := attempts
              lastError := some rawError }
          else do
            let error ← await .lastError
            backOff { state with attempts := attempts, lastError := some error, lastDesc := desc }

def execute (order : OrderRequest ℚ) : Execution ExecOutcome :=
  if executor.settings.dryRunMode then executor.executeDryRun order
  else do
    let request ← executor.buildRequest order none
    let _ ← executor.module
    sendLoop order request maxAttempts { delay := executor.backoffBaseS }

def closePosition (symbol : String) (ticket : ℤ) (volume : ℚ) : Execution ExecOutcome := do
  let mt5 ← executor.module
  let key := "close:" ++ toString ticket
  match (← await (.positionsGet (some ticket))).getD [] with
  | [] => .done {
      result := {
        idempotencyKey := key
        accepted := false
        retcodeDescription := some "POSITION_NOT_FOUND" } }
  | position :: _ => do
      let isBuy := position.type.getD 0 = mt5.positionTypeBuy.getD 0
      let tick ← executor.tick symbol
      let request : SendRequest := {
        action := mt5.tradeActionDeal
        symbol := symbol
        volume := volume
        type := if isBuy then mt5.orderTypeSell else mt5.orderTypeBuy
        position := some ticket
        price := if isBuy then tick.bid else tick.ask
        deviation := 50
        magic := executor.settings.mt5Magic
        comment := "vix75-close:" ++ toString ticket
        typeFilling := mt5.orderFillingIoc.getD 1 }
      match ← await (.orderSend request) with
      | none => do
          let error ← await .lastError
          .done {
            result := {
              idempotencyKey := key
              accepted := false
              retcodeDescription := some ("ORDER_SEND_NONE:" ++ error) } }
      | some result => .done {
          result := {
            idempotencyKey := key
            accepted := result.retcode = tradeRetcodeDone
            retcode := some result.retcode
            retcodeDescription := some (describeRetcode result.retcode result.comment)
            ticket := some (if result.order ≠ 0 then result.order else ticket)
            price := some result.price } }

end MT5Executor

def insertPending (order : OrderRequest ℚ) : Execution Bool :=
  match uuidFromHex order.signalId with
  | .error error => .raise error
  | .ok signalId => do
      let rowcount ← await (.insertPending {
        idempotencyKey := order.idempotencyKey
        signalId := signalId
        symbol := order.symbol
        side := order.direction
        lots := order.lots
        entryPrice := order.entry
        slPrice := order.sl
        tpPrice := order.tp })
      .done (rowcount = 1)

def closeByTicket (ticket : ℤ) (profit : ℚ) : Execution Bool := do
  let now ← await .time
  let rowcount ← await (.closeByTicket ticket now profit)
  .done (rowcount = 1)

def audit (entry : AuditEntry) : Execution Unit :=
  (await (.audit entry)).rescue fun
    | .psycopgError _ => .done ()
    | error => .raise error

structure ExecutionService where
  settings : Settings
  mt5 : Option Mt5Module
  backoffBaseS : ℚ := 1 / 2
  codec : Codec (OrderRequest ℚ)
  /-- The module handed to the reconciler; `main` passes none. -/
  reconcilerMt5 : Option Mt5Module := none

def ExecutionService.executor (service : ExecutionService) : MT5Executor :=
  ⟨service.settings, service.mt5, service.backoffBaseS⟩

def getOrCreateCorrelationId (decoded : Fields) : Execution String :=
  match decoded.correlationId with
  | some raw => .done raw
  | none => await .uuid4

def orderKeys : List String :=
  ["idempotency_key", "signal_id", "symbol", "direction", "lots", "entry", "sl", "tp"]

/-- `_parse_order`: `ok none` is a malformed request; a non-numeric
`deviation_points` and what else `loads` raises get out. -/
def parseOrder {F : Type} (codec : Codec (OrderRequest F)) (decoded : Fields) :
    Except PyError (Option (OrderRequest F)) :=
  match decoded.get? "order" with
  | some blob =>
      match codec.loads blob with
      | .ok data => .ok (if data.truthy then codec.validate data else none)
      | .error (.jsonDecodeError _) => .ok none
      | .error error => .error error
  | none =>
      match orderKeys.mapM fun name => (decoded.get? name).map fun raw => (name, Json.str raw) with
      | none => .ok none
      | some entries => do
          let deviation ← match decoded.get? "deviation_points" with
            | none => Except.ok 30
            | some raw =>
                match codec.intOf raw with
                | some points => Except.ok points
                | none => Except.error (.valueError ("invalid literal for int(): " ++ raw))
          .ok (codec.validate (.dict (entries ++ [("deviation_points", .int deviation)])))

def resultKey (idempotencyKey : String) : String := "result:order:" ++ idempotencyKey

def resultView (result : OrderResult ℚ) : ResultView :=
  { accepted := result.accepted
    retcode := result.retcode
    retcodeDescription := result.retcodeDescription
    ticket := result.ticket
    price := result.price }

def reasonText (result : OrderResult ℚ) : String :=
  match result.retcodeDescription with
  | some desc => if desc ≠ "" then desc else "UNKNOWN"
  | none => "UNKNOWN"

def settleFilled (order : OrderRequest ℚ) (result : OrderResult ℚ) (correlationId : String) :
    Execution Unit := do
  await (.setStatus order.idempotencyKey {
    status := .filled
    retcode := result.retcode
    desc := result.retcodeDescription
    ticket := result.ticket
    price := result.price })
  await (.xaddFilled {
    order := order
    result := resultView result
    ticket := result.ticket.getD 0
    fillPrice := result.price.getD 0
    correlationId := correlationId })

def settleRejected (order : OrderRequest ℚ) (outcome : ExecOutcome) (correlationId : String) :
    Execution Unit := do
  await (.setStatus order.idempotencyKey {
    status := .rejected
    retcode := outcome.result.retcode
    desc := outcome.result.retcodeDescription })
  await (.xaddRejected {
    signalId := order.signalId
    idempotencyKey := order.idempotencyKey
    symbol := order.symbol
    direction := order.direction
    rejectedReason := reasonText outcome.result
    detail := "attempts=" ++ toString outcome.attempts ++
      " last_error=" ++ outcome.lastError.getD "None"
    correlationId := correlationId })

def executeOrder (service : ExecutionService) (order : OrderRequest ℚ) (correlationId : String) :
    Execution Unit := do
  await (.startExecute order.idempotencyKey)
  let outcome ← service.executor.execute order
  let result := outcome.result
  if result.accepted then settleFilled order result correlationId
  else settleRejected order outcome correlationId
  await (.redisSet (resultKey order.idempotencyKey) (resultView result))
  audit {
    actor := "execution-service"
    action := if result.accepted then "order.executed" else "order.failed"
    subject := order.idempotencyKey
    outcome := if result.accepted then "ok" else "error"
    payload := resultView result
    error := if result.accepted then none else outcome.lastError }

def handleOrder (service : ExecutionService) (order : OrderRequest ℚ) (correlationId : String) :
    Execution Unit := do
  match ← await (.redisGet (resultKey order.idempotencyKey)) with
  | some _ => .done ()
  | none => do
      if ← insertPending order then executeOrder service order correlationId
      else .done ()

def handle (service : ExecutionService) (fields : Fields) : Execution Unit := do
  let correlationId ← getOrCreateCorrelationId fields
  match parseOrder service.codec fields with
  | .error error => .raise error
  | .ok none => .done ()
  | .ok (some order) => handleOrder service order correlationId

def handleMessage (service : ExecutionService) (message : Message) : Execution Unit := do
  handle service message.fields
  await (.xack message.id)

def ensureGroup : Execution Unit :=
  (await .xgroupCreate).rescue fun
    | .busyGroup => .done ()
    | error => .raise error

/-- The read at the head of `drain`; an exception ends the drain with no messages. -/
def readBatch : Execution (List Message) :=
  (await (.xreadgroup 8)).rescue fun
    | .noGroup => do
        ensureGroup
        .done []
    | _ => do
        await (.sleep 2)
        .done []

def drain (service : ExecutionService) : Execution Unit := do
  let messages ← readBatch
  Prog.forEach messages (handleMessage service)

inductive CloseResponse where
  | notFound
  | refused (retcode : Option ℤ) (description : Option String)
  | closed (exitPrice : Option ℚ)

def closeRoute (service : ExecutionService) (ticket : ℤ) : Execution CloseResponse := do
  match ← await (.tradeByTicket ticket) with
  | none => .done .notFound
  | some trade => do
      let outcome ← service.executor.closePosition trade.symbol ticket trade.lots
      let result := outcome.result
      if result.accepted then do
        let _ ← closeByTicket ticket 0
        .done (.closed result.price)
      else do
        audit {
          actor := "execution-service"
          action := "position.close"
          subject := toString ticket
          outcome := "error"
          payload := resultView result
          error := match outcome.lastError with
            | some error => if error ≠ "" then some error else result.retcodeDescription
            | none => result.retcodeDescription }
        .done (.refused result.retcode result.retcodeDescription)

def dealEntryOut : ℤ := 1

def secondsPerWeek : ℚ := 7 * 24 * 3600

def closeSummary (deals : List Deal) : Option (Option ℚ × ℚ) :=
  match deals.filter (fun deal => deal.entry = some dealEntryOut) with
  | [] => none
  | outDeals =>
      let totalVolume := (outDeals.map Deal.volume).sum
      let notional := (outDeals.map fun deal => deal.volume * deal.price).sum
      let profit := (outDeals.map Deal.profit).sum
      some (if totalVolume > 0 then some (notional / totalVolume) else none,
        DecimalRounding.roundDigits 2 profit)

def summariseClose (ticket : ℤ) : Execution (Option (Option ℚ × ℚ)) := do
  let now ← await .time
  let deals ← await (.historyDealsGet (now - secondsPerWeek) now ticket)
  .done (closeSummary (deals.getD []))

def byTicket (rows : List TradeRow) (ticket : ℤ) : Option TradeRow :=
  rows.reverse.find? fun row => row.brokerTicket = some ticket

def sortedDifference (left right : List ℤ) : List ℤ :=
  ((left.filter (· ∉ right)).dedup).insertionSort (· ≤ ·)

def closeGhost (symbol : String) (rows : List TradeRow) (ticket : ℤ) :
    Execution Unit := do
  match byTicket rows ticket, ← summariseClose ticket with
  | some row, some (exitPrice, profit) => do
      if ← closeByTicket ticket profit then do
        let correlationId ← await .uuid4
        await (.xaddClosed {
          signalId := row.signalId
          idempotencyKey := row.idempotencyKey
          symbol := symbol
          ticket := ticket
          pnl := profit
          exitPrice := exitPrice.getD 0
          correlationId := correlationId })
      else .done ()
  | _, _ => .done ()

def runOnce (service : ExecutionService) : Execution Unit :=
  match service.reconcilerMt5 with
  | none => .done ()
  | some _ => do
      let symbol := service.settings.symbol
      let positions ← await (.positionsGet none)
      let mt5Tickets := ((positions.getD []).filter fun position =>
        position.symbol.getD symbol = symbol).map Position.ticket
      let localRows ← await .openTrades
      let localTickets := localRows.filterMap TradeRow.brokerTicket
      let ghosts := sortedDifference localTickets mt5Tickets
      Prog.forEach ghosts (closeGhost symbol localRows)

end Vix75
