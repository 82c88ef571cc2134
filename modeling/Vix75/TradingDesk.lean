import Vix75.OrderTracing
import Vix75.ProgramLinks

/-! The whole path from a bar to a position: the services before `order.request`, linked with
execution-service by what the risk gate approves. -/

namespace Vix75

open EffectProgram
open Pipeline (PipelineConfig PipelineEffect PipelineEvent PipelineLabel PipelineRequest
  PipelineWorld Services Holds)

structure Desk where
  services : Services
  execution : ExecutionService
  intText : ℤ → String
  floatText : ℚ → String

/-- What execution-service's Redis may lose. -/
inductive RedisLoss where
  | expire (key : String)
  | loseGroup

def RedisLoss.event : RedisLoss → WorldEvent
  | .expire key => .expire key
  | .loseGroup => .loseGroup

namespace Desk

section Definitions

variable (desk : Desk)

def orderFields (order : OrderRequest ℚ) (correlationId : String) : Fields :=
  [("idempotency_key", order.idempotencyKey), ("signal_id", order.signalId),
   ("symbol", order.symbol), ("direction", order.direction.value),
   ("lots", desk.floatText order.lots), ("entry", desk.floatText order.entry),
   ("sl", desk.floatText order.sl), ("tp", desk.floatText order.tp),
   ("deviation_points", desk.intText order.deviationPoints), ("correlation_id", correlationId)]

def request (world : World) (order : OrderRequest ℚ) (correlationId : String) : WorldEvent :=
  .publish ⟨Pipeline.entryId world.requests.length, desk.orderFields order correlationId⟩

/-- An approved order is an entry of `order.request`; no other service writes to it. -/
def publishes (world : World) :
    (effect : PipelineEffect) → Except PyError effect.Reply → List WorldEvent
  | .risk (.xaddApproved order correlationId), .ok _ => [desk.request world order correlationId]
  | .risk (.xaddApproved order correlationId), .error error =>
      if error.applied then [desk.request world order correlationId] else []
  | _, _ => []

def system : System (PipelineEffect ⊕ Effect) (EitherReply PipelineEffect.Reply Effect.Reply)
    PyError (PipelineWorld × World) (PipelineEvent ⊕ RedisLoss)
    (PipelineRequest ⊕ ServiceRequest) :=
  desk.services.system.link desk.execution.system desk.publishes RedisLoss.event

def ReadsOrders : Prop :=
  ∀ order correlationId parsed,
    parseOrder desk.execution.codec (desk.orderFields order correlationId) = .ok (some parsed) →
      parsed = order

end Definitions

abbrev DeskLabel (Pid : Type) :=
  Label Pid (PipelineEffect ⊕ Effect) (EitherReply PipelineEffect.Reply Effect.Reply) PyError
    (PipelineEvent ⊕ RedisLoss) (PipelineRequest ⊕ ServiceRequest)

abbrev DeskConfig (Pid : Type) :=
  Config Pid (PipelineEffect ⊕ Effect) (EitherReply PipelineEffect.Reply Effect.Reply) PyError
    (PipelineWorld × World)

def DeskConfig.idle {Pid : Type} : DeskConfig Pid := ⟨({}, {}), fun _ => none⟩

section Interleavings

variable {Pid : Type}

def announced? : DeskLabel Pid → Option Message
  | .environment (.inl (.announceBar message)) => some message
  | .environment (.inl (.announceRow message)) => some message
  | _ => none

def announced (trace : List (DeskLabel Pid)) : List Message := trace.filterMap announced?

/-- The risk gate published the order under this id, and its bars were announced under the same
id. -/
structure Backed (trace : List (DeskLabel Pid)) (order : OrderRequest ℚ)
    (correlationId : String) : Prop where
  approved : ∃ pid reply, .answer pid (.inl (.risk (.xaddApproved order correlationId))) reply ∈
    trace
  announced : ∃ timeframe, Holds (announced trace) order.symbol timeframe correlationId

theorem requests_of_step [DecidableEq Pid] {service : ExecutionService}
    {label : ServiceLabel Pid} {config after : ServiceConfig Pid}
    (stepped : service.system.step config label = some after) :
    ∀ message ∈ after.world.requests, message ∈ config.world.requests ∨
      label = .environment (.publish message) := by
  have changes := service.system.changes_of_step stepped
  intro message member
  cases label with
  | answer pid effect reply =>
      rcases World.answer_eq changes with same | same <;> rw [same] at member
      · exact .inl member
      · exact .inl (requests_apply _ effect ▸ member)
  | environment event =>
      cases event with
      | publish added =>
          simp only [System.Changes, ExecutionService.system, World.environment] at changes
          split at changes
          · cases changes
          · rw [← Option.some.inj changes] at member
            rcases List.mem_append.mp member with old | new
            · exact .inl old
            · exact .inr (by rw [List.mem_singleton.mp new])
      | expire key =>
          rw [← Option.some.inj changes] at member
          exact .inl member
      | loseGroup =>
          rw [← Option.some.inj changes] at member
          exact .inl member
  | _ => exact .inl (changes ▸ member)

theorem requests_of_run [DecidableEq Pid] {service : ExecutionService}
    {trace : List (ServiceLabel Pid)} {config after : ServiceConfig Pid}
    (ran : service.system.run config trace = some after) :
    ∀ message ∈ after.world.requests, message ∈ config.world.requests ∨
      .environment (.publish message) ∈ trace := by
  induction trace generalizing config with
  | nil =>
      obtain rfl := Option.some.inj ran
      exact fun message member => .inl member
  | cons label rest ih =>
      obtain ⟨middle, stepped, ran⟩ := Option.bind_eq_some_iff.mp ran
      intro message member
      rcases ih ran message member with before | later
      · rcases requests_of_step stepped message before with old | new
        · exact .inl old
        · exact .inr (new ▸ List.mem_cons_self)
      · exact .inr (List.mem_cons_of_mem _ later)

/-! What was approved -/

variable {desk : Desk} {trace : List (DeskLabel Pid)} {own : List (PipelineLabel Pid)}
variable {others : List (ServiceLabel Pid)}

theorem approved_of_published {message : Message}
    (parts : Parts desk.publishes RedisLoss.event trace own others)
    (published : .environment (.publish message) ∈ others) :
    ∃ pid order correlationId reply,
      .answer pid (.inl (.risk (.xaddApproved order correlationId))) reply ∈ trace ∧
        message.fields = desk.orderFields order correlationId := by
  rcases parts.told _ published with ⟨outside, _, same⟩ | ⟨pid, effect, reply, world, given, sent⟩
  · cases outside <;> cases same
  · have spoken : ∃ order correlationId, effect = .risk (.xaddApproved order correlationId) ∧
        message.fields = desk.orderFields order correlationId := by
      unfold publishes at sent
      split at sent
      · obtain rfl := WorldEvent.publish.inj (List.mem_singleton.mp sent)
        exact ⟨_, _, rfl, rfl⟩
      · split at sent
        · obtain rfl := WorldEvent.publish.inj (List.mem_singleton.mp sent)
          exact ⟨_, _, rfl, rfl⟩
        · cases sent
      · cases sent
    obtain ⟨order, correlationId, rfl, fields⟩ := spoken
    exact ⟨pid, order, correlationId, reply, given, fields⟩

theorem announced_of_part
    (parts : Parts desk.publishes RedisLoss.event trace own others) :
    Pipeline.announced own ⊆ announced trace := by
  intro message member
  obtain ⟨label, inOwn, said⟩ := List.mem_filterMap.mp member
  have outside : ∃ event, label = .environment event := by
    cases label with
    | environment event => exact ⟨event, rfl⟩
    | _ => cases said
  obtain ⟨event, rfl⟩ := outside
  refine List.mem_filterMap.mpr ⟨_, parts.events event inOwn, ?_⟩
  cases event <;> exact said

variable [DecidableEq Pid]

theorem backed_of_approved {after : PipelineConfig Pid} {pid : Pid} {order : OrderRequest ℚ}
    {correlationId : String} {reply : Except PyError Unit} (reads : desk.services.ReadsBack)
    (carrying : ∀ message ∈ announced trace, message.fields.correlationId ≠ none)
    (parts : Parts desk.publishes RedisLoss.event trace own others)
    (ran : desk.services.system.run (PipelineConfig.idle {}) own = some after)
    (approved : .answer pid (.inl (.risk (.xaddApproved order correlationId))) reply ∈ trace) :
    Backed trace order correlationId ∧ correlationId ≠ "" := by
  have here := (parts.answers pid (.risk (.xaddApproved order correlationId)) reply).mpr approved
  obtain ⟨before, later, rfl⟩ := List.append_of_mem here
  obtain ⟨middle, reached, onward⟩ := desk.services.system.run_append.mp ran
  obtain ⟨next, stepped, _⟩ := Option.bind_eq_some_iff.mp onward
  have carries : ∀ label ∈ before, Pipeline.Carrying label := by
    intro label member message said
    exact carrying message (announced_of_part parts (List.mem_filterMap.mpr
      ⟨label, List.mem_append_left _ member, said⟩))
  obtain ⟨batches, matched, traced⟩ :=
    Pipeline.traced_of_run reads ⟨rfl, rfl, rfl⟩ carries reached
  obtain ⟨entry, inStream, signal, carried, _, _, _, root⟩ :=
    traced.verdict matched stepped rfl
  refine ⟨⟨⟨pid, reply, approved⟩, signal.ltfTimeframe, ?_⟩, ?_⟩
  · obtain ⟨message, member, rest⟩ := root
    refine ⟨message, announced_of_part parts ?_, rest⟩
    rw [Pipeline.announced, List.filterMap_append]
    exact List.mem_append_left _ member
  · exact Pipeline.ne_empty_of_carried carried

theorem backed_of_asked {one : PipelineConfig Pid} {two : ServiceConfig Pid}
    {order : OrderRequest ℚ} {correlationId : String} (reads : desk.services.ReadsBack)
    (readsOrders : desk.ReadsOrders)
    (carrying : ∀ message ∈ announced trace, message.fields.correlationId ≠ none)
    (parts : Parts desk.publishes RedisLoss.event trace own others)
    (ran : desk.services.system.run (PipelineConfig.idle {}) own = some one)
    (ranOthers : desk.execution.system.run (ServiceConfig.idle {}) others = some two)
    (asked : desk.execution.Asked two.world.requests order correlationId) :
    Backed trace order correlationId := by
  obtain ⟨message, member, parsed, passes⟩ := asked
  have published : .environment (.publish message) ∈ others := by
    rcases requests_of_run ranOthers message member with before | published
    · exact absurd before List.not_mem_nil
    · exact published
  obtain ⟨pid, written, id, reply, approved, fields⟩ := approved_of_published parts published
  obtain ⟨backed, named⟩ := backed_of_approved reads carrying parts ran approved
  rw [fields] at parsed
  obtain rfl := readsOrders written id order parsed
  have carried : message.fields.correlationId = some id := by
    rw [fields]
    simp [Fields.correlationId, Fields.get?, orderFields, List.lookup_cons, named]
  obtain rfl := passes.carried carried
  exact backed

/-- In any run of the desk, every trade, every request to the broker and every published entry is
of an order that the risk gate approved for bars that were announced under its id; a fill or a
refusal is published under this id too, a sweep's entry with the key and the signal of the order;
and every approved order is executed at most once. -/
theorem positions_backed (desk : Desk) {trace : List (DeskLabel Pid)} {after : DeskConfig Pid}
    (reads : desk.services.ReadsBack) (readsOrders : desk.ReadsOrders)
    (carrying : ∀ message ∈ announced trace, message.fields.correlationId ≠ none)
    (ran : desk.system.run DeskConfig.idle trace = some after) :
    (∀ row ∈ after.world.2.trades.rows, ∃ order correlationId,
      Backed trace order correlationId ∧ row.Books order) ∧
    (∀ request ∈ after.world.2.orderSends, ∃ order correlationId,
      Backed trace order correlationId ∧ (request.Opens desk.execution.mt5 order ∨
        request.Closes order.symbol order.lots)) ∧
    (∀ entry ∈ after.world.2.filled, Backed trace entry.order entry.correlationId) ∧
    (∀ entry ∈ after.world.2.rejected, ∃ order,
      Backed trace order entry.correlationId ∧ entry.Refuses order) ∧
    (∀ entry ∈ after.world.2.closed, ∃ order correlationId,
      Backed trace order correlationId ∧ entry.Reports desk.execution.settings.symbol order) ∧
    ∀ key, after.world.2.executions.count key ≤ 1 ∧ (key ∈ after.world.2.executions →
      ∃ order correlationId, Backed trace order correlationId ∧ key = order.idempotencyKey) := by
  have sides : Sides (DeskConfig.idle : DeskConfig Pid) (PipelineConfig.idle {})
      (ServiceConfig.idle {}) := ⟨rfl, fun _ => .idle⟩
  obtain ⟨own, others, one, two, ranOwn, ranOthers, sides, parts⟩ := sides.run ran
  rw [sides.world]
  obtain ⟨sources, sourced⟩ :=
    sourced_of_run desk.execution ⟨rfl, rfl, rfl, rfl, rfl, rfl⟩ ranOthers
  have backed : ∀ {order correlationId},
      desk.execution.Asked two.world.requests order correlationId →
      Backed trace order correlationId :=
    backed_of_asked reads readsOrders carrying parts ranOwn ranOthers
  have stems : ∀ {fits : OrderRequest ℚ → Prop}, desk.execution.Stems two.world.requests fits →
      ∃ order correlationId, Backed trace order correlationId ∧ fits order := by
    rintro fits ⟨order, correlationId, asked, fit⟩
    exact ⟨order, correlationId, backed asked, fit⟩
  refine ⟨fun row member => stems (sourced.booked row member),
    fun request member => stems (sourced.sent request member),
    fun entry member => backed (sourced.filled entry member), fun entry member => ?_,
    fun entry member => stems (sourced.closed entry member), fun key => ⟨?_, ?_⟩⟩
  · obtain ⟨order, asked, refuses⟩ := sourced.rejected entry member
    exact ⟨order, backed asked, refuses⟩
  · have assumed : claiming.Assumes (fun _ : Pid => none) others :=
      Discipline.assumes_of_forall (fun _ _ _ _ _ => trivial) fun _ _ _ => trivial
    have initial : ClaimsHeld {} (fun _ : Pid => none) := by
      refine ⟨?_, ?_, ?_, ?_⟩ <;> simp
    exact ((claiming_maintains desk.execution).run (Discipline.matches_initial {}) initial
      assumed ranOthers).2.once key
  · exact fun started => stems (sourced.started key started)

end Interleavings

namespace Sample

def texts : List (ℚ × String) :=
  [(2 / 5, "0.4"), (100, "100.0"), (95, "95.0"), (110, "110.0"), (30, "30")]

def textOf (value : ℚ) : String := (texts.lookup value).getD ""

def number (text : String) : Option ℚ := (texts.find? fun entry => entry.2 = text).map Prod.fst

theorem number_textOf {value read : ℚ} (given : number (textOf value) = some read) :
    read = value := by
  unfold textOf at given
  cases known : texts.lookup value with
  | none =>
      rw [known] at given
      cases given
  | some text =>
      have member : (value, text) ∈ texts := by
        obtain ⟨before, after, same, _⟩ := List.lookup_eq_some_iff.mp known
        rw [same]
        simp
      rw [known] at given
      simp only [texts, List.mem_cons, Prod.mk.injEq, List.not_mem_nil, or_false] at member
      rcases member with ⟨rfl, rfl⟩ | ⟨rfl, rfl⟩ | ⟨rfl, rfl⟩ | ⟨rfl, rfl⟩ | ⟨rfl, rfl⟩ <;>
        exact (Option.some.inj given).symm

def side (text : String) : Option Direction :=
  if text = "BUY" then some .buy else if text = "SELL" then some .sell else none

def validate : Json → Option (OrderRequest ℚ)
  | .dict [(_, .str key), (_, .str signalId), (_, .str symbol), (_, .str direction),
      (_, .str lots), (_, .str entry), (_, .str sl), (_, .str tp), (_, .int deviation)] => do
      some {
        idempotencyKey := key
        signalId := signalId
        symbol := symbol
        direction := ← side direction
        lots := ← number lots
        entry := ← number entry
        sl := ← number sl
        tp := ← number tp
        deviationPoints := deviation }
  | _ => none

def desk : Desk where
  services := Pipeline.Sample.tracedServices
  execution := {
    settings := {}
    mt5 := some {}
    codec := {
      loads := fun _ => .error (.jsonDecodeError "Expecting value")
      intOf := fun text => (number text).map Rat.num
      validate := validate } }
  intText := fun value => textOf value
  floatText := textOf

theorem readsOrders : desk.ReadsOrders := by
  intro order correlationId parsed read
  cases deviation : number (textOf order.deviationPoints) with
  | none =>
      simp only [parseOrder, Fields.get?, orderFields, desk, List.lookup_cons, String.reduceBEq,
        orderKeys, List.mapM_cons, BEq.rfl, Option.map_some, List.mapM_nil, Option.pure_def,
        Option.bind_eq_bind, Option.bind_some, deviation, Option.map_none, List.cons_append,
        List.nil_append] at read
      cases read
  | some points =>
      obtain rfl := number_textOf deviation
      simp only [parseOrder, Fields.get?, orderFields, desk, List.lookup_cons, String.reduceBEq,
        orderKeys, List.mapM_cons, BEq.rfl, Option.map_some, List.mapM_nil, Option.pure_def,
        Option.bind_eq_bind, Option.bind_some, deviation, Rat.num_intCast, List.cons_append,
        List.nil_append, validate] at read
      have built := Except.ok.inj read
      simp only [Option.bind_eq_some_iff, Option.some.injEq] at built
      obtain ⟨direction, sided, lots, readLots, entry, readEntry, sl, readSl, tp, readTp, rfl⟩ :=
        built
      rw [number_textOf readLots, number_textOf readEntry, number_textOf readSl,
        number_textOf readTp]
      cases order with
      | mk _ _ _ direction => cases direction <;> obtain rfl := Option.some.inj sided <;> rfl

def placed : PipelineLabel Bool → DeskLabel Bool
  | .start pid request => .start pid (.inl request)
  | .answer pid effect reply => .answer pid (.inl effect) reply
  | .finish pid => .finish pid
  | .fail pid error => .fail pid error
  | .crash pid => .crash pid
  | .environment event => .environment (.inl event)

def order : OrderRequest ℚ :=
  Risk.orderOf (Risk.Sample.signal Pipeline.Sample.idA) (2 / 5)

def row : TradeRow where
  idempotencyKey := Pipeline.Sample.idA
  signalId := Pipeline.Sample.dashedA
  symbol := "Volatility 75 Index"
  side := .buy
  lots := 2 / 5
  entryPrice := 100
  slPrice := 95
  tpPrice := 110

def trading : List (DeskLabel Bool) :=
  (Pipeline.Sample.deciding ++ [Pipeline.Sample.ordering, .crash true]).map placed ++
  [.start true (.inr .drain),
   .answer true (.inr (.xreadgroup 8))
     (.ok [⟨Pipeline.entryId 0, desk.orderFields order "c-1"⟩]),
   .answer true (.inr (.redisGet (resultKey Pipeline.Sample.idA))) (.ok none),
   .answer true (.inr (.insertPending row)) (.ok 1)]

end Sample

theorem positions_backed_booked : ∃ after,
    Sample.desk.system.run DeskConfig.idle Sample.trading = some after ∧
      after.world.2.trades.rows = [Sample.row] ∧
      ∃ order correlationId, Backed Sample.trading order correlationId ∧
        Sample.row.Books order := by
  have ran : (Sample.desk.system.run DeskConfig.idle Sample.trading).map
      (fun after => after.world.2.trades.rows) = some [Sample.row] := by
    decide +kernel
  obtain ⟨after, reached, rows⟩ := Option.map_eq_some_iff.mp ran
  refine ⟨after, reached, rows, ?_⟩
  have carrying : ∀ message ∈ announced Sample.trading, message.fields.correlationId ≠ none := by
    have only : announced Sample.trading = [Pipeline.Sample.announcement "1-0"] := rfl
    rw [only]
    decide +kernel
  exact (positions_backed Sample.desk Pipeline.Sample.readsBack Sample.readsOrders carrying
    reached).1 Sample.row (by rw [rows]; exact List.mem_singleton_self _)

end Desk

end Vix75
