import Vix75.ExecutionCore
import Vix75.KeyedTable

/-! The shared world of execution-service and all interleavings of its consumers, close
requests and sweeps. Redis and Postgres answer from their state; the terminal and the
clock may answer anything; every call may fail instead, before or after it took effect. -/

namespace Vix75

open EffectProgram

abbrev TradesTable := KeyedTable TradeRow String TradeRow.idempotencyKey

structure World where
  requests : List Message := []
  groupExists : Bool := true
  delivered : List String := []
  acked : List String := []
  results : String → Option ResultView := fun _ => none
  trades : TradesTable := .empty
  filled : List FilledEntry := []
  rejected : List RejectedEntry := []
  closed : List ClosedEntry := []
  executions : List String := []
  orderSends : List SendRequest := []

namespace TradeRow

def setStatus (update : StatusUpdate) (row : TradeRow) : TradeRow :=
  match update.status with
  | .filled => { row with
      status := .filled
      retcode := update.retcode
      retcodeDesc := update.desc
      brokerTicket := update.ticket
      entryPrice := update.price.getD row.entryPrice }
  | .submitted => { row with
      status := .submitted, retcode := update.retcode, retcodeDesc := update.desc }
  | .rejected => { row with
      status := .rejected, retcode := update.retcode, retcodeDesc := update.desc }
  | .cancelled =>
      if row.status = .pending then { row with status := .cancelled, retcodeDesc := update.desc }
      else row
  | .pending => row

@[simp] theorem setStatus_key (update : StatusUpdate) (row : TradeRow) :
    (row.setStatus update).idempotencyKey = row.idempotencyKey := by
  unfold setStatus
  split <;> try rfl
  split <;> rfl

def close (closedAt profit : ℚ) (row : TradeRow) : TradeRow :=
  { row with closedAt := some closedAt, profit := some profit }

@[simp] theorem close_key (closedAt profit : ℚ) (row : TradeRow) :
    (row.close closedAt profit).idempotencyKey = row.idempotencyKey := rfl

def openWithTicket (ticket : ℤ) (row : TradeRow) : Bool :=
  row.brokerTicket = some ticket && row.closedAt.isNone

end TradeRow

namespace World

def undelivered (world : World) : List Message :=
  world.requests.filter fun message => message.id ∉ world.delivered

def openTrades (world : World) : List TradeRow :=
  (world.trades.rows.filter fun row => row.status = .filled && row.closedAt.isNone).reverse

def apply (world : World) : Effect → World
  | .xgroupCreate => { world with groupExists := true }
  | .xreadgroup count => { world with
      delivered := world.delivered ++ (world.undelivered.take count).map Message.id }
  | .xack messageId => { world with
      acked := if messageId ∈ world.delivered then world.acked ++ [messageId] else world.acked }
  | .redisSet key view => { world with
      results := Function.update world.results key (some view) }
  | .xaddFilled entry => { world with filled := world.filled ++ [entry] }
  | .xaddRejected entry => { world with rejected := world.rejected ++ [entry] }
  | .xaddClosed entry => { world with closed := world.closed ++ [entry] }
  | .insertPending row => { world with trades := world.trades.insert row }
  | .setStatus key update => { world with
      trades := world.trades.update (fun row => row.idempotencyKey = key)
        (TradeRow.setStatus update) (TradeRow.setStatus_key update) }
  | .closeByTicket ticket closedAt profit => { world with
      trades := world.trades.update (TradeRow.openWithTicket ticket)
        (TradeRow.close closedAt profit) (TradeRow.close_key closedAt profit) }
  | .startExecute key => { world with executions := world.executions ++ [key] }
  | .orderSend request => { world with orderSends := world.orderSends ++ [request] }
  | _ => world

/-- The replies that Redis and Postgres can give; everything else is unconstrained. -/
def replies (world : World) : (effect : Effect) → effect.Reply → Bool
  | .xgroupCreate, _ => !world.groupExists
  | .xreadgroup count, messages =>
      world.groupExists && decide (messages = world.undelivered.take count)
  | .redisGet key, cached => decide (cached = world.results key)
  | .insertPending row, rowcount =>
      decide (0 < row.lots) && decide (rowcount = world.trades.insertCount row)
  | .closeByTicket ticket _ _, rowcount =>
      decide (rowcount = world.trades.rows.countP (TradeRow.openWithTicket ticket))
  | .openTrades, rows => decide (rows = world.openTrades)
  | .tradeByTicket ticket, none => !world.trades.rows.any (TradeRow.openWithTicket ticket)
  | .tradeByTicket ticket, some row =>
      decide (row ∈ world.trades.rows) && row.openWithTicket ticket
  | _, _ => true

end World

/-- Whether a call that raised took effect; a raised `order_send` was still called. -/
def Effect.tookEffect : Effect → PyError → Bool
  | .orderSend _, _ => true
  | _, error => error.applied

def World.answer (world : World) (effect : Effect) :
    Except PyError effect.Reply → Option World
  | .ok value => if world.replies effect value then some (world.apply effect) else none
  | .error error => some (if effect.tookEffect error then world.apply effect else world)

inductive WorldEvent where
  | publish (message : Message)
  | expire (key : String)
  /-- Redis lost the consumer group; it is recreated from the start of the stream. -/
  | loseGroup
deriving DecidableEq

def World.environment (world : World) : WorldEvent → Option World
  | .publish message =>
      if message.id ∈ world.requests.map Message.id then none
      else some { world with requests := world.requests ++ [message] }
  | .expire key => some { world with results := Function.update world.results key none }
  | .loseGroup => some { world with groupExists := false, delivered := [], acked := [] }

inductive ServiceRequest where
  | ensureGroup
  | drain
  | close (ticket : ℤ)
  | sweep
deriving DecidableEq

def ExecutionService.entry (service : ExecutionService) : ServiceRequest → Execution Unit
  | .ensureGroup => ensureGroup
  | .drain => drain service
  | .close ticket => do
      let _ ← closeRoute service ticket
      .done ()
  | .sweep => runOnce service

def ExecutionService.system (service : ExecutionService) :
    System Effect Effect.Reply PyError World WorldEvent ServiceRequest where
  entry := service.entry
  answer := World.answer
  environment := World.environment

abbrev ServiceLabel (Pid : Type) :=
  Label Pid Effect Effect.Reply PyError WorldEvent ServiceRequest

abbrev ServiceConfig (Pid : Type) := Config Pid Effect Effect.Reply PyError World

def ServiceConfig.idle {Pid : Type} (world : World) : ServiceConfig Pid := ⟨world, fun _ => none⟩

namespace World

theorem answer_eq {world after : World} {effect : Effect} {reply : Except PyError effect.Reply}
    (answered : world.answer effect reply = some after) :
    after = world ∨ after = world.apply effect := by
  cases reply with
  | ok value =>
      simp only [answer] at answered
      split at answered
      · exact .inr (Option.some.inj answered).symm
      · simp at answered
  | error error =>
      simp only [answer, Option.some.injEq] at answered
      subst answered
      split
      · exact .inr rfl
      · exact .inl rfl

theorem answer_ok {world after : World} {effect : Effect} {value : effect.Reply}
    (answered : world.answer effect (.ok value) = some after) :
    world.replies effect value = true ∧ after = world.apply effect := by
  simp only [answer] at answered
  split at answered
  · rename_i given
    exact ⟨given, (Option.some.inj answered).symm⟩
  · simp at answered

inductive RowStep (key : String) (row : TradeRow) : Effect → TradeRow → Prop
  | kept (effect : Effect) : RowStep key row effect row
  | status (update : StatusUpdate) : RowStep key row (.setStatus key update) (row.setStatus update)
  | closed (ticket : ℤ) (closedAt profit : ℚ) (opened : row.openWithTicket ticket = true) :
      RowStep key row (.closeByTicket ticket closedAt profit) (row.close closedAt profit)

theorem row_step {world : World} {key : String} {row : TradeRow}
    (found : world.trades.find? key = some row) (effect : Effect) :
    ∃ next, (world.apply effect).trades.find? key = some next ∧ RowStep key row effect next := by
  have keyed := KeyedTable.key_of_find? found
  cases effect with
  | insertPending other =>
      refine ⟨row, ?_, .kept _⟩
      simp only [apply, KeyedTable.find?_insert, found]
      split <;> rfl
  | setStatus wanted update =>
      by_cases same : wanted = key
      · subst same
        refine ⟨row.setStatus update, ?_, .status update⟩
        simp [apply, KeyedTable.find?_update, found, keyed]
      · refine ⟨row, ?_, .kept _⟩
        have apart : row.idempotencyKey ≠ wanted := fun equal => same (equal.symm.trans keyed)
        simp [apply, KeyedTable.find?_update, found, apart]
  | closeByTicket ticket closedAt profit =>
      by_cases opened : row.openWithTicket ticket = true
      · refine ⟨row.close closedAt profit, ?_, .closed ticket closedAt profit opened⟩
        simp [apply, KeyedTable.find?_update, found, opened]
      · refine ⟨row, ?_, .kept _⟩
        simp [apply, KeyedTable.find?_update, found, opened]
  | _ => exact ⟨row, found, .kept _⟩

theorem row_kept {world after : World} {key : String} {row : TradeRow} {β : Type}
    (read : TradeRow → β) (status : ∀ update row, read (row.setStatus update) = read row)
    (closed : ∀ closedAt profit row, read (row.close closedAt profit) = read row)
    (found : world.trades.find? key = some row) {effect : Effect}
    {reply : Except PyError effect.Reply} (answered : world.answer effect reply = some after) :
    ∃ next, after.trades.find? key = some next ∧ read next = read row := by
  rcases answer_eq answered with rfl | rfl
  · exact ⟨row, found, rfl⟩
  · obtain ⟨next, later, stepped⟩ := row_step found effect
    refine ⟨next, later, ?_⟩
    cases stepped with
    | kept => rfl
    | status update => exact status update row
    | closed ticket closedAt profit => exact closed closedAt profit row

end World

end Vix75
