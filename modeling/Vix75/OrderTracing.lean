import Vix75.PipelineTracing
import Vix75.TradeLifecycle

/-! Every row, every request to the broker and every published outcome of execution-service is of
an order that an entry of `order.request` holds. -/

namespace Vix75

open EffectProgram
open Pipeline (Passes passes_of_carried)

structure TradeRow.Books (row : TradeRow) (order : OrderRequest ℚ) : Prop where
  key : row.idempotencyKey = order.idempotencyKey
  signalId : uuidFromHex order.signalId = .ok row.signalId
  symbol : row.symbol = order.symbol
  side : row.side = order.direction
  lots : row.lots = order.lots
  slPrice : row.slPrice = order.sl
  tpPrice : row.tpPrice = order.tp

theorem TradeRow.Books.later {row next : TradeRow} {order : OrderRequest ℚ}
    (books : row.Books order) (key : next.idempotencyKey = row.idempotencyKey)
    (same : row.SameOrder next) : next.Books order where
  key := key.trans books.key
  signalId := books.signalId.trans (congrArg _ same.signalId.symm)
  symbol := same.symbol.trans books.symbol
  side := same.side.trans books.side
  lots := same.lots.trans books.lots
  slPrice := same.slPrice.trans books.slPrice
  tpPrice := same.tpPrice.trans books.tpPrice

structure SendRequest.Opens (request : SendRequest) (mt5 : Option Mt5Module)
    (order : OrderRequest ℚ) : Prop where
  symbol : request.symbol = order.symbol
  volume : request.volume = order.lots
  sl : request.sl = some order.sl
  tp : request.tp = some order.tp
  position : request.position = none
  deviation : request.deviation = order.deviationPoints
  deal : ∃ terminal, mt5 = some terminal ∧ request.action = terminal.tradeActionDeal ∧
    request.type = if order.direction = .buy then terminal.orderTypeBuy
      else terminal.orderTypeSell

structure SendRequest.Closes (request : SendRequest) (symbol : String) (lots : ℚ) : Prop where
  symbol : request.symbol = symbol
  volume : request.volume = lots
  position : request.position.isSome

structure RejectedEntry.Refuses (entry : RejectedEntry) (order : OrderRequest ℚ) : Prop where
  key : entry.idempotencyKey = order.idempotencyKey
  signalId : entry.signalId = order.signalId
  symbol : entry.symbol = order.symbol
  direction : entry.direction = order.direction

/-- What a sweep says of an order: its key and its signal, and the symbol that the service is
configured for. -/
structure ClosedEntry.Reports (entry : ClosedEntry) (symbol : String) (order : OrderRequest ℚ) :
    Prop where
  key : entry.idempotencyKey = order.idempotencyKey
  signalId : uuidFromHex order.signalId = .ok entry.signalId
  symbol : entry.symbol = symbol

/-- One of the entries holds the order, and a handler of it goes on with this id. -/
def ExecutionService.Asked (service : ExecutionService) (entries : List Message)
    (order : OrderRequest ℚ) (correlationId : String) : Prop :=
  ∃ message ∈ entries, parseOrder service.codec message.fields = .ok (some order) ∧
    Passes message correlationId

theorem ExecutionService.Asked.mono {service : ExecutionService} {entries more : List Message}
    {order : OrderRequest ℚ} {correlationId : String}
    (asked : service.Asked entries order correlationId) (grown : entries ⊆ more) :
    service.Asked more order correlationId := by
  obtain ⟨message, member, asks⟩ := asked
  exact ⟨message, grown member, asks⟩

def ExecutionService.Stems (service : ExecutionService) (entries : List Message)
    (fits : OrderRequest ℚ → Prop) : Prop :=
  ∃ order correlationId, service.Asked entries order correlationId ∧ fits order

theorem ExecutionService.Stems.mono {service : ExecutionService} {entries more : List Message}
    {fits fits' : OrderRequest ℚ → Prop} (stems : service.Stems entries fits)
    (grown : entries ⊆ more) (implies : ∀ order, fits order → fits' order) :
    service.Stems more fits' := by
  obtain ⟨order, correlationId, asked, fit⟩ := stems
  exact ⟨order, correlationId, asked.mono grown, implies order fit⟩

/-- What a process was handed last. -/
structure Source where
  orders : List Message := []
  trades : List TradeRow := []

def sourcing (service : ExecutionService) :
    Discipline Effect Effect.Reply PyError ServiceRequest Source where
  initial := fun _ => {}
  allowed := fun source effect => match effect with
    | .insertPending row => service.Stems source.orders row.Books
    | .startExecute key => service.Stems source.orders fun order => key = order.idempotencyKey
    | .orderSend request => service.Stems source.orders (request.Opens service.mt5) ∨
        ∃ row ∈ source.trades, request.Closes row.symbol row.lots
    | .xaddFilled entry => service.Asked source.orders entry.order entry.correlationId
    | .xaddRejected entry => ∃ order,
        service.Asked source.orders order entry.correlationId ∧ entry.Refuses order
    | .xaddClosed entry => entry.symbol = service.settings.symbol ∧ ∃ row ∈ source.trades,
        entry.idempotencyKey = row.idempotencyKey ∧ entry.signalId = row.signalId
    | _ => True
  advance := fun source effect reply => match effect, reply with
    | .xreadgroup _, .ok messages => { source with orders := messages }
    | .tradeByTicket _, .ok row => { source with trades := row.toList }
    | .openTrades, .ok rows => { source with trades := rows }
    | _, _ => source

def Effect.Steady : Effect → Prop
  | .xreadgroup _ => False
  | .tradeByTicket _ => False
  | .openTrades => False
  | _ => True

section Follows

variable {service : ExecutionService} {source : Source}

def Effect.Follows (service : ExecutionService) (source : Source) (effect : Effect) : Prop :=
  effect.Steady ∧ (sourcing service).allowed source effect

theorem follows_inert (effect : Effect) (follows : effect.Follows service source) :
    (sourcing service).allowed source effect ∧
      ∀ reply, (sourcing service).assumed source effect reply →
        (sourcing service).advance source effect reply = source := by
  refine ⟨follows.2, fun reply _ => ?_⟩
  cases effect <;> first | exact absurd follows.1 id | rfl

theorem buildRequest_opens (executor : MT5Executor) (order : OrderRequest ℚ) :
    (executor.buildRequest order none).Yields fun request => request.Opens executor.mt5 order := by
  unfold MT5Executor.buildRequest MT5Executor.module
  cases terminal : executor.mt5 with
  | none => trivial
  | some mt5 =>
      rw [Prog.done_bind]
      refine Prog.yields_bind (Prog.yields_trivial _) fun tick _ => ?_
      exact ⟨rfl, rfl, rfl, rfl, rfl, rfl, mt5, rfl, rfl, rfl⟩

theorem execute_follows {order : OrderRequest ℚ} {correlationId : String}
    (asked : service.Asked source.orders order correlationId) :
    (service.executor.execute order).Uses (Effect.Follows service source) := by
  unfold MT5Executor.execute
  split
  · exact executeDryRun_uses ⟨trivial, trivial⟩ ⟨trivial, trivial⟩
  · refine Prog.uses_bind_yields ?_ (buildRequest_opens service.executor order) ?_
    · refine Prog.uses_bind (module_uses service.executor) fun _ => ?_
      exact Prog.uses_bind (tick_uses ⟨trivial, trivial⟩) fun _ => trivial
    · intro request opens
      refine Prog.uses_bind (module_uses service.executor) fun _ => ?_
      exact sendLoop_uses ⟨trivial, .inl ⟨order, correlationId, asked, opens⟩⟩
        ⟨trivial, trivial⟩ (fun _ => ⟨trivial, trivial⟩) _ _

theorem executeOrder_follows {order : OrderRequest ℚ} {correlationId : String}
    (asked : service.Asked source.orders order correlationId) :
    (executeOrder service order correlationId).Uses (Effect.Follows service source) := by
  have recorded : ∀ view entry, (do
      await (.redisSet (resultKey order.idempotencyKey) view)
      audit entry : Execution Unit).Uses (Effect.Follows service source) := fun view entry =>
    Prog.uses_bind (Prog.uses_perform ⟨trivial, trivial⟩) fun _ => audit_uses ⟨trivial, trivial⟩
  refine Prog.uses_bind
    (Prog.uses_perform ⟨trivial, order, correlationId, asked, rfl⟩) fun _ => ?_
  refine Prog.uses_bind (execute_follows asked) fun outcome => ?_
  dsimp only
  split
  · refine Prog.uses_bind ?_ fun _ => recorded _ _
    refine Prog.uses_bind (Prog.uses_perform ⟨trivial, trivial⟩) fun _ => ?_
    exact Prog.uses_perform ⟨trivial, asked⟩
  · refine Prog.uses_bind ?_ fun _ => recorded _ _
    refine Prog.uses_bind (Prog.uses_perform ⟨trivial, trivial⟩) fun _ => ?_
    exact Prog.uses_perform ⟨trivial, order, asked, rfl, rfl, rfl, rfl⟩

theorem handleOrder_follows {order : OrderRequest ℚ} {correlationId : String}
    (asked : service.Asked source.orders order correlationId) :
    (handleOrder service order correlationId).Uses (Effect.Follows service source) := by
  refine Prog.uses_bind (Prog.uses_perform ⟨trivial, trivial⟩) fun cached => ?_
  cases cached with
  | some view => trivial
  | none =>
      refine Prog.uses_bind ?_ fun won => ?_
      · unfold insertPending
        split
        · trivial
        · rename_i signalId known
          refine Prog.uses_bind (Prog.uses_perform ⟨trivial, order, correlationId, asked, ?_⟩)
            fun _ => trivial
          exact ⟨rfl, known, rfl, rfl, rfl, rfl, rfl⟩
      · cases won with
        | false => trivial
        | true => exact executeOrder_follows asked

theorem handleMessage_follows {message : Message} (member : message ∈ source.orders) :
    (handleMessage service message).Uses (Effect.Follows service source) := by
  have passes : (getOrCreateCorrelationId message.fields).Yields (Passes message) :=
    passes_of_carried _ fun raw own => by simp [getOrCreateCorrelationId, own]
  refine Prog.uses_bind ?_ fun _ => Prog.uses_perform ⟨trivial, trivial⟩
  refine Prog.uses_bind_yields (getOrCreateCorrelationId_uses ⟨trivial, trivial⟩) passes ?_
  intro correlationId passes
  split
  · trivial
  · trivial
  · rename_i order parsed
    exact handleOrder_follows ⟨message, member, parsed, passes⟩

theorem closePosition_follows {row : TradeRow} (member : row ∈ source.trades) (ticket : ℤ) :
    (service.executor.closePosition row.symbol ticket row.lots).Uses
      (Effect.Follows service source) := by
  refine Prog.uses_bind (module_uses service.executor) fun mt5 => ?_
  refine Prog.uses_bind (Prog.uses_perform ⟨trivial, trivial⟩) fun found => ?_
  cases found.getD [] with
  | nil => trivial
  | cons position rest =>
      refine Prog.uses_bind (tick_uses ⟨trivial, trivial⟩) fun _ => ?_
      refine Prog.uses_bind (Prog.uses_perform
        ⟨trivial, .inr ⟨row, member, rfl, rfl, rfl⟩⟩) fun answered => ?_
      cases answered with
      | none => exact Prog.uses_bind (Prog.uses_perform ⟨trivial, trivial⟩) fun _ => trivial
      | some result => trivial

theorem closeRoute_sourced (ticket : ℤ) :
    (sourcing service).wp source (closeRoute service ticket) (fun _ _ => True)
      (fun _ _ => True) := by
  refine Discipline.wp_perform_bind trivial (fun _ _ => trivial) fun found _ => ?_
  cases found with
  | none => trivial
  | some row =>
      have member : row ∈ ({ source with trades := [row] } : Source).trades :=
        List.mem_singleton_self row
      refine Discipline.wp_mono (Discipline.wp_of_uses ?_ follows_inert)
        (fun _ _ _ => trivial) fun _ _ _ => trivial
      refine Prog.uses_bind (closePosition_follows member ticket) fun outcome => ?_
      dsimp only
      split
      · refine Prog.uses_bind (closeByTicket_uses ⟨trivial, trivial⟩ fun _ => ?_) fun _ => trivial
        exact ⟨trivial, trivial⟩
      · exact Prog.uses_bind (audit_uses ⟨trivial, trivial⟩) fun _ => trivial

theorem closeGhost_follows (source : Source) (ticket : ℤ) :
    (closeGhost service.settings.symbol source.trades ticket).Uses
      (Effect.Follows service source) := by
  refine Prog.uses_bind ?_ fun summary => ?_
  · refine Prog.uses_bind (Prog.uses_perform ⟨trivial, trivial⟩) fun _ => ?_
    exact Prog.uses_bind (Prog.uses_perform ⟨trivial, trivial⟩) fun _ => trivial
  · split
    · rename_i row exitPrice profit found
      have member : row ∈ source.trades :=
        List.mem_reverse.mp (List.mem_of_find?_eq_some found)
      refine Prog.uses_bind (closeByTicket_uses ⟨trivial, trivial⟩ fun _ => ⟨trivial, trivial⟩)
        fun wasOpen => ?_
      cases wasOpen with
      | false => trivial
      | true =>
          refine Prog.uses_bind (Prog.uses_perform ⟨trivial, trivial⟩) fun _ => ?_
          exact Prog.uses_perform ⟨trivial, rfl, row, member, rfl, rfl⟩
    · trivial

theorem runOnce_sourced :
    (sourcing service).wp source (runOnce service) (fun _ _ => True) (fun _ _ => True) := by
  unfold runOnce
  split
  · trivial
  · refine Discipline.wp_perform_bind trivial (fun _ _ => trivial) fun positions _ => ?_
    refine Discipline.wp_perform_bind trivial (fun _ _ => trivial) fun rows _ => ?_
    refine Discipline.wp_mono (Discipline.wp_of_uses ?_ follows_inert)
      (fun _ _ _ => trivial) fun _ _ _ => trivial
    exact Prog.uses_forEach fun ticket => closeGhost_follows { source with trades := rows } ticket

theorem sourced_of_follows {α : Type} {program : Execution α}
    (used : program.Uses (Effect.Follows service source)) :
    (sourcing service).wp source program (fun _ _ => True) (fun _ _ => True) :=
  Discipline.wp_mono (Discipline.wp_of_uses used follows_inert) (fun _ _ _ => trivial)
    fun _ _ _ => trivial

theorem readBatch_sourced :
    (sourcing service).wp source readBatch (fun after messages => messages ⊆ after.orders)
      (fun _ _ => True) := by
  have nothing : ∀ {program : Execution Unit}, program.Uses (Effect.Follows service source) →
      (sourcing service).wp source (program >>= fun _ => (.done [] : Execution (List Message)))
        (fun after messages => messages ⊆ after.orders) (fun _ _ => True) := fun used =>
    Discipline.wp_seq _ (sourced_of_follows used) fun _ _ _ => List.nil_subset _
  rw [readBatch, Discipline.wp_rescue, Discipline.wp_perform]
  refine ⟨trivial, fun messages _ => List.Subset.refl _, fun error _ => ?_⟩
  split
  · exact nothing (ensureGroup_uses ⟨trivial, trivial⟩)
  · exact nothing (Prog.uses_perform ⟨trivial, trivial⟩)

theorem entry_sourced (request : ServiceRequest) :
    (sourcing service).wp {} (service.entry request) (fun _ _ => True) (fun _ _ => True) := by
  cases request with
  | ensureGroup => exact sourced_of_follows (ensureGroup_uses ⟨trivial, trivial⟩)
  | sweep => exact runOnce_sourced
  | close ticket => exact Discipline.wp_seq _ (closeRoute_sourced ticket) fun _ _ _ => trivial
  | drain =>
      refine Discipline.wp_seq _ readBatch_sourced fun source messages handed => ?_
      have each : ∀ message ∈ messages, (sourcing service).wp source
          (handleMessage service message) (fun after _ => after = source) (fun _ _ => True) :=
        fun message member => Discipline.wp_mono (Discipline.wp_of_uses
          (handleMessage_follows (handed member)) follows_inert) (fun _ _ same => same)
          fun _ _ _ => trivial
      exact Discipline.wp_mono (Discipline.wp_forEach_same each) (fun _ _ _ => trivial)
        fun _ _ _ => trivial

end Follows

/-! Any run -/

section Interleavings

variable {Pid : Type} {service : ExecutionService} {world after : World}
variable {sources : Pid → Option Source} {pid : Pid}

/-- Everything that the service has done so far is of an order on the stream. -/
structure Sourced (service : ExecutionService) (world : World)
    (sources : Pid → Option Source) : Prop where
  booked : ∀ row ∈ world.trades.rows, service.Stems world.requests row.Books
  started : ∀ key ∈ world.executions,
    service.Stems world.requests fun order => key = order.idempotencyKey
  sent : ∀ request ∈ world.orderSends, service.Stems world.requests fun order =>
    request.Opens service.mt5 order ∨ request.Closes order.symbol order.lots
  filled : ∀ entry ∈ world.filled,
    service.Asked world.requests entry.order entry.correlationId
  rejected : ∀ entry ∈ world.rejected, ∃ order,
    service.Asked world.requests order entry.correlationId ∧ entry.Refuses order
  closed : ∀ entry ∈ world.closed,
    service.Stems world.requests (entry.Reports service.settings.symbol)
  handed : ∀ pid source, sources pid = some source → source.orders ⊆ world.requests ∧
    ∀ row ∈ source.trades, service.Stems world.requests row.Books

theorem requests_apply (world : World) (effect : Effect) :
    (world.apply effect).requests = world.requests := by
  cases effect <;> rfl

theorem Sourced.update {condition : TradeRow → Bool} {change : TradeRow → TradeRow}
    {keyed : ∀ row, (change row).idempotencyKey = row.idempotencyKey}
    (held : Sourced service world sources) (same : ∀ row : TradeRow, row.SameOrder (change row)) :
    Sourced service { world with trades := world.trades.update condition change keyed }
      sources := by
  refine { held with booked := fun row member => ?_ }
  obtain ⟨old, known, rfl⟩ := List.mem_map.mp member
  split
  · exact (held.booked old known).mono (List.Subset.refl _) fun _ books =>
      books.later (keyed old) (same old)
  · exact held.booked old known

theorem Sourced.apply {source : Source} {effect : Effect} (held : Sourced service world sources)
    (current : sources pid = some source)
    (allowed : (sourcing service).allowed source effect) :
    Sourced service (world.apply effect) sources := by
  obtain ⟨orders, trades⟩ := held.handed pid source current
  have more : ∀ {α : Type} {items : List α} {item : α} {fits : α → Prop},
      (∀ old ∈ items, fits old) → fits item → ∀ new ∈ items ++ [item], fits new := by
    intro α items item fits before here new member
    rcases List.mem_append.mp member with old | added
    · exact before new old
    · exact List.mem_singleton.mp added ▸ here
  have stems : ∀ {fits : OrderRequest ℚ → Prop}, service.Stems source.orders fits →
      service.Stems world.requests fits := fun stems => stems.mono orders fun _ fit => fit
  cases effect with
  | insertPending row =>
      refine { held with booked := fun other member => ?_ }
      rcases KeyedTable.mem_insert member with before | ⟨rfl, _⟩
      · exact held.booked other before
      · exact stems allowed
  | setStatus key update =>
      exact held.update fun row => TradeRow.sameOrder_setStatus update row
  | closeByTicket ticket closedAt profit =>
      exact held.update fun row => TradeRow.sameOrder_close closedAt profit row
  | startExecute key => exact { held with started := more held.started (stems allowed) }
  | orderSend request =>
      refine { held with sent := more held.sent ?_ }
      rcases allowed with opens | ⟨row, member, closes⟩
      · exact opens.mono orders fun _ opens => .inl opens
      · refine (trades row member).mono (List.Subset.refl _) fun order books => .inr ?_
        rw [← books.symbol, ← books.lots]
        exact closes
  | xaddFilled entry =>
      exact { held with filled := more held.filled (allowed.mono orders) }
  | xaddRejected entry =>
      obtain ⟨order, asked, refuses⟩ := allowed
      exact { held with rejected := more held.rejected ⟨order, asked.mono orders, refuses⟩ }
  | xaddClosed entry =>
      refine { held with closed := more held.closed ?_ }
      obtain ⟨symbol, row, member, key, signalId⟩ := allowed
      refine (trades row member).mono (List.Subset.refl _) fun order books => ?_
      exact ⟨key.trans books.key, signalId ▸ books.signalId, symbol⟩
  | _ => exact { held with }

theorem Sourced.advance {source : Source} {effect : Effect} {reply : Except PyError effect.Reply}
    (held : Sourced service world sources) {pid : Pid} (current : sources pid = some source)
    (answered : world.answer effect reply = some after) :
    ((sourcing service).advance source effect reply).orders ⊆ world.requests ∧
      ∀ row ∈ ((sourcing service).advance source effect reply).trades,
        service.Stems world.requests row.Books := by
  have before := held.handed pid source current
  by_cases steady : effect.Steady
  · cases effect <;> first | exact absurd steady id | exact before
  · cases reply with
    | error error => cases effect <;> first | exact absurd trivial steady | exact before
    | ok value =>
        have given := (World.answer_ok answered).1
        cases effect with
        | xreadgroup count =>
            simp only [World.replies, Bool.and_eq_true, decide_eq_true_eq] at given
            refine ⟨fun message member => ?_, before.2⟩
            have taken : message ∈ world.undelivered.take count := given.2 ▸ member
            exact List.mem_of_mem_filter (List.mem_of_mem_take taken)
        | openTrades =>
            simp only [World.replies, decide_eq_true_eq] at given
            refine ⟨before.1, fun row member => held.booked row ?_⟩
            have listed : row ∈ world.openTrades := given ▸ member
            exact List.mem_of_mem_filter (List.mem_reverse.mp listed)
        | tradeByTicket ticket =>
            refine ⟨before.1, fun row member => held.booked row ?_⟩
            obtain rfl : value = some row := Option.mem_toList.mp member
            simp only [World.replies, Bool.and_eq_true, decide_eq_true_eq] at given
            exact given.1
        | _ => exact absurd trivial steady

variable [DecidableEq Pid]

theorem Sourced.answer {source : Source} {effect : Effect} {reply : Except PyError effect.Reply}
    (held : Sourced service world sources) (current : sources pid = some source)
    (allowed : (sourcing service).allowed source effect)
    (answered : world.answer effect reply = some after) :
    Sourced service after (Function.update sources pid
      (some ((sourcing service).advance source effect reply))) := by
  have handed := held.advance current answered
  have kept : Sourced service after sources ∧ after.requests = world.requests := by
    rcases World.answer_eq answered with rfl | rfl
    · exact ⟨held, rfl⟩
    · exact ⟨held.apply current allowed, requests_apply world effect⟩
  refine { kept.1 with handed := fun other source holds => ?_ }
  by_cases here : other = pid
  · subst here
    rw [Function.update_self, Option.some.injEq] at holds
    rw [← holds, kept.2]
    exact handed
  · exact kept.1.handed other source (by rwa [Function.update_of_ne here] at holds)

theorem Sourced.move {source : Option Source} (held : Sourced service world sources)
    (empty : ∀ given, source = some given → given = {}) :
    Sourced service world (Function.update sources pid source) := by
  refine { held with handed := fun other given holds => ?_ }
  by_cases here : other = pid
  · subst here
    rw [Function.update_self] at holds
    obtain rfl := empty given holds
    exact ⟨List.nil_subset _, fun row member => absurd member List.not_mem_nil⟩
  · exact held.handed other given (by rwa [Function.update_of_ne here] at holds)

omit [DecidableEq Pid] in
theorem Sourced.environment {event : WorldEvent} (held : Sourced service world sources)
    (happened : world.environment event = some after) : Sourced service after sources := by
  cases event with
  | publish message =>
      simp only [World.environment] at happened
      split at happened
      · cases happened
      · obtain rfl := Option.some.inj happened
        have grown : world.requests ⊆ world.requests ++ [message] := List.subset_append_left _ _
        have stems : ∀ {fits : OrderRequest ℚ → Prop}, service.Stems world.requests fits →
            service.Stems (world.requests ++ [message]) fits := fun stems =>
          stems.mono grown fun _ fit => fit
        refine ⟨fun row member => stems (held.booked row member),
          fun key member => stems (held.started key member),
          fun request member => stems (held.sent request member),
          fun entry member => (held.filled entry member).mono grown, fun entry member => ?_,
          fun entry member => stems (held.closed entry member), fun pid source current => ?_⟩
        · obtain ⟨order, asked, refuses⟩ := held.rejected entry member
          exact ⟨order, asked.mono grown, refuses⟩
        · obtain ⟨orders, trades⟩ := held.handed pid source current
          exact ⟨List.Subset.trans orders grown, fun row member => stems (trades row member)⟩
  | expire key =>
      obtain rfl := Option.some.inj happened
      exact { held with }
  | loseGroup =>
      obtain rfl := Option.some.inj happened
      exact { held with }

theorem sourcing_maintains (service : ExecutionService) :
    (sourcing service).Maintains service.system
      (fun world (sources : Pid → Option Source) => Sourced service world sources) where
  follows := entry_sourced
  start _ _ _ _ held _ _ := held.move fun _ given => (Option.some.inj given).symm
  finish _ _ _ _ held _ _ := held.move nofun
  fail _ _ _ _ _ held _ _ := held.move nofun
  crash _ _ _ _ held _ _ := held.move nofun
  answer _ _ _ _ _ _ _ held current allowed _ _ answered := held.answer current allowed answered
  environment _ _ _ _ held happened := held.environment happened

structure World.Idle (world : World) : Prop where
  trades : world.trades.rows = []
  executions : world.executions = []
  orderSends : world.orderSends = []
  filled : world.filled = []
  rejected : world.rejected = []
  closed : world.closed = []

theorem sourced_of_run (service : ExecutionService) {world : World}
    {trace : List (ServiceLabel Pid)} {after : ServiceConfig Pid} (unused : world.Idle)
    (ran : service.system.run (ServiceConfig.idle world) trace = some after) :
    ∃ sources : Pid → Option Source, Sourced service after.world sources := by
  have initial : Sourced service world (fun _ : Pid => none) := by
    refine ⟨?_, ?_, ?_, ?_, ?_, ?_, nofun⟩
    · simp [unused.trades]
    · simp [unused.executions]
    · simp [unused.orderSends]
    · simp [unused.filled]
    · simp [unused.rejected]
    · simp [unused.closed]
  have assumed : (sourcing service).Assumes (fun _ : Pid => none) trace :=
    Discipline.assumes_of_forall (fun _ _ _ _ _ => trivial) fun _ _ _ => trivial
  exact ⟨_, ((sourcing_maintains service).run (Discipline.matches_initial world) initial assumed
    ran).2⟩

end Interleavings

end Vix75
