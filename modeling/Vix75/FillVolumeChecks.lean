import Vix75.SweepChecks

/-! The volume that a filled order is stored, published and later closed with, against the
volume that the broker executed. -/

namespace Vix75

open EffectProgram

structure Dealing where
  world : World
  replies : List (Option SendResult) := []

def dealt : (effect : Effect) → Except PyError effect.Reply → List (Option SendResult)
  | .orderSend _, .ok answered => [answered]
  | _, _ => []

def Dealing.Answers (dealing : Dealing) (effect : Effect) (reply : Except PyError effect.Reply)
    (after : Dealing) : Prop :=
  dealing.world.answer effect reply = some after.world ∧
    after.replies = dealing.replies ++ dealt effect reply

theorem keeps_runs {α β : Type} (read : World → β) {program : Execution α} {world after : World}
    {result : Except PyError α}
    (used : program.Uses fun effect => ∀ world : World, read (world.apply effect) = read world)
    (ran : program.Runs (fun world effect reply after => world.answer effect reply = some after)
      world result after) : read after = read world := by
  refine ran.frame read used ?_
  intro effect keeps current reply next answered
  rcases World.answer_eq answered with rfl | rfl
  · rfl
  · exact keeps current

def Effect.Silent : Effect → Prop
  | .orderSend _ => False
  | _ => True

section Handling

variable {before after : Dealing}

theorem Dealing.world_runs {α : Type} {program : Execution α} {result : Except PyError α}
    (ran : program.Runs Dealing.Answers before result after) :
    program.Runs (fun world effect reply after => world.answer effect reply = some after)
      before.world result after.world :=
  ran.map Dealing.world fun _ _ _ _ answered => answered.1

theorem silent_runs {α : Type} {program : Execution α} {result : Except PyError α}
    (used : program.Uses Effect.Silent) (ran : program.Runs Dealing.Answers before result after) :
    after.replies = before.replies := by
  refine ran.frame Dealing.replies used ?_
  intro effect silent dealing reply next answered
  have none : dealt effect reply = [] := by
    cases effect <;> first | rfl | exact silent.elim
  rw [answered.2, none, List.append_nil]

/-- The reply on which an execution in live mode accepted its order. -/
def AcceptedOn (outcome : ExecOutcome) (replies : List (Option SendResult)) : Prop :=
  outcome.result.accepted = true → ∃ reply, replies.getLast? = some (some reply) ∧ reply.Filled ∧
    outcome.result.ticket = some reply.order

theorem sendLoop_accepted {order : OrderRequest ℚ} {request : SendRequest} {rounds : ℕ}
    {state : MT5Executor.SendState} {outcome : ExecOutcome}
    (ran : (MT5Executor.sendLoop order request rounds state).Runs Dealing.Answers before
      (.ok outcome) after) : AcceptedOn outcome after.replies := by
  induction rounds generalizing state before with
  | zero =>
      obtain ⟨ended, _⟩ := ran
      obtain rfl := Except.ok.inj ended
      exact nofun
  | succ rounds ih =>
      have backOff : ∀ (retry : MT5Executor.SendState) (middle : Dealing),
          Prog.Runs Dealing.Answers middle
            (if state.attempts + 1 < maxAttempts then do
              await (.sleep retry.delay)
              MT5Executor.sendLoop order request rounds { retry with delay := retry.delay * 2 }
            else MT5Executor.sendLoop order request rounds retry : Execution ExecOutcome)
            (.ok outcome) after → AcceptedOn outcome after.replies := by
        intro retry middle retried
        split at retried
        · obtain ⟨_, later, _, again⟩ := Prog.runs_bind_ok.mp retried
          exact ih again
        · exact ih retried
      obtain ⟨answered, middle, sent, fromReply⟩ := Prog.runs_bind_ok.mp ran
      have replies := (Prog.runs_perform.mp sent).2
      cases answered with
      | none =>
          obtain ⟨_, later, _, retried⟩ := Prog.runs_bind_ok.mp fromReply
          exact backOff _ later retried
      | some reply =>
          dsimp only at fromReply
          split at fromReply
          · rename_i fills
            obtain ⟨ended, rfl⟩ := fromReply
            obtain rfl := Except.ok.inj ended
            exact fun _ => ⟨reply, by simp [replies, dealt], fills, rfl⟩
          · split at fromReply
            · obtain ⟨_, later, _, ended, _⟩ := Prog.runs_bind_ok.mp fromReply
              obtain rfl := Except.ok.inj ended
              exact nofun
            · obtain ⟨_, later, _, retried⟩ := Prog.runs_bind_ok.mp fromReply
              exact backOff _ later retried

theorem execute_accepted {executor : MT5Executor} (live : executor.settings.dryRunMode = false)
    {order : OrderRequest ℚ} {outcome : ExecOutcome}
    (ran : (executor.execute order).Runs Dealing.Answers before (.ok outcome) after) :
    AcceptedOn outcome after.replies := by
  have liveMode : ¬executor.settings.dryRunMode = true := by simp [live]
  rw [MT5Executor.execute, if_neg liveMode] at ran
  obtain ⟨request, _, _, fromModule⟩ := Prog.runs_bind_ok.mp ran
  obtain ⟨_, _, _, looped⟩ := Prog.runs_bind_ok.mp fromModule
  exact sendLoop_accepted looped

theorem execute_keeps {executor : MT5Executor} {order : OrderRequest ℚ}
    {result : Except PyError ExecOutcome}
    (ran : (executor.execute order).Runs Dealing.Answers before result after) :
    after.world.trades = before.world.trades ∧ after.world.filled = before.world.filled := by
  have kept := keeps_runs (fun world => (world.trades, world.filled)) (execute_uses
    (fun _ => rfl) (fun _ => rfl) (fun _ _ => rfl) (fun _ => rfl) fun _ _ => rfl)
    (Dealing.world_runs ran)
  exact Prod.mk.inj kept

structure Filled (order : OrderRequest ℚ) (ticket : Option ℤ) (before after : World) : Prop where
  stored : ∀ row, before.trades.find? order.idempotencyKey = some row →
    ∃ filled, after.trades.find? order.idempotencyKey = some filled ∧ filled.lots = row.lots ∧
      filled.status = .filled ∧ filled.brokerTicket = ticket
  published : ∃ entry, after.filled = before.filled ++ [entry] ∧ entry.order = order

theorem settleFilled_fills {order : OrderRequest ℚ} {result : OrderResult ℚ}
    {correlationId : String} {ended : Except PyError Unit} {world later : World}
    (ran : (settleFilled order result correlationId).Runs
      (fun world effect reply after => world.answer effect reply = some after) world ended later)
    (published : later.filled ≠ world.filled) : Filled order result.ticket world later := by
  rcases Prog.runs_perform_bind.mp ran with ⟨_, middle, update, publish⟩ | ⟨_, update, _⟩
  · obtain ⟨_, rfl⟩ := World.answer_ok update
    rcases World.answer_eq (Prog.runs_perform.mp publish) with rfl | rfl
    · exact absurd rfl published
    · refine ⟨fun row found => ?_, _, rfl, rfl⟩
      have keyed := KeyedTable.key_of_find? found
      refine ⟨_, by simp only [World.apply, KeyedTable.find?_update, found]; rfl, ?_⟩
      simp [keyed, TradeRow.setStatus]
  · rcases World.answer_eq update with rfl | rfl
    · exact absurd rfl published
    · exact absurd rfl published

theorem recorded_runs {settle : Execution Unit} {key : String} {view : ResultView}
    {entry : AuditEntry} {ended : Except PyError Unit}
    (ran : (settle >>= fun _ => await (.redisSet key view) >>= fun _ => audit entry).Runs
      Dealing.Answers before ended after) :
    ∃ result settled, settle.Runs Dealing.Answers before result settled ∧
      after.world.trades = settled.world.trades ∧ after.world.filled = settled.world.filled ∧
      after.replies = settled.replies := by
  rcases Prog.runs_bind.mp ran with ⟨_, settled, settling, recording⟩ | ⟨error, settling, _⟩
  · have kept := keeps_runs (fun world => (world.trades, world.filled))
      (Prog.uses_bind (Prog.uses_perform fun _ => rfl) fun _ => audit_uses fun _ => rfl)
      (Dealing.world_runs recording)
    obtain ⟨trades, filled⟩ := Prod.mk.inj kept
    have used : (await (.redisSet key view) >>= fun _ => audit entry).Uses Effect.Silent :=
      Prog.uses_bind (Prog.uses_perform trivial) fun _ => audit_uses trivial
    exact ⟨_, settled, settling, trades, filled, silent_runs used recording⟩
  · exact ⟨.error error, after, settling, rfl, rfl, rfl⟩

theorem executed_runs {service : ExecutionService} {order : OrderRequest ℚ}
    {correlationId : String} {ended : Except PyError Unit}
    (ran : (executeOrder service order correlationId).Runs Dealing.Answers before ended after)
    (published : after.world.filled ≠ before.world.filled) :
    ∃ outcome started executed result settled,
      (service.executor.execute order).Runs Dealing.Answers started (.ok outcome) executed ∧
      executed.world.trades = before.world.trades ∧
      executed.world.filled = before.world.filled ∧
      (if outcome.result.accepted then settleFilled order outcome.result correlationId
        else settleRejected order outcome correlationId).Runs Dealing.Answers executed result
          settled ∧
      after.world.trades = settled.world.trades ∧ after.world.filled = settled.world.filled ∧
      after.replies = settled.replies := by
  rcases Prog.runs_perform_bind.mp ran with ⟨_, started, start, fromStart⟩ | ⟨_, start, _⟩
  rotate_left
  · rcases World.answer_eq start.1 with same | same <;>
      exact absurd (congrArg World.filled same) published
  have beforeStart : started.world.trades = before.world.trades ∧
      started.world.filled = before.world.filled := by
    rcases World.answer_eq start.1 with same | same <;> simp [same, World.apply]
  rcases Prog.runs_bind.mp fromStart with ⟨outcome, executed, execution, fromOutcome⟩ |
    ⟨_, execution, _⟩
  rotate_left
  · exact absurd ((execute_keeps execution).2.trans beforeStart.2) published
  obtain ⟨trades, filled⟩ := execute_keeps execution
  refine ⟨outcome, started, executed, ?_⟩
  dsimp only at fromOutcome
  split at fromOutcome
  · rename_i accepted
    obtain ⟨result, settled, settling, recorded⟩ := recorded_runs fromOutcome
    exact ⟨result, settled, execution, trades.trans beforeStart.1, filled.trans beforeStart.2,
      by simpa [accepted] using settling, recorded⟩
  · rename_i refused
    obtain ⟨result, settled, settling, recorded⟩ := recorded_runs fromOutcome
    exact ⟨result, settled, execution, trades.trans beforeStart.1, filled.trans beforeStart.2,
      by simpa [refused] using settling, recorded⟩

theorem settleRejected_keeps {order : OrderRequest ℚ} {outcome : ExecOutcome}
    {correlationId : String} {ended : Except PyError Unit}
    (ran : (settleRejected order outcome correlationId).Runs Dealing.Answers before ended after) :
    after.world.filled = before.world.filled :=
  keeps_runs World.filled (Prog.uses_bind (Prog.uses_perform fun _ => rfl)
    fun _ => Prog.uses_perform fun _ => rfl) (Dealing.world_runs ran)

theorem executeOrder_fills {service : ExecutionService}
    (live : service.settings.dryRunMode = false) {order : OrderRequest ℚ} {correlationId : String}
    {ended : Except PyError Unit}
    (ran : (executeOrder service order correlationId).Runs Dealing.Answers before ended after)
    (published : after.world.filled ≠ before.world.filled) :
    ∃ reply, after.replies.getLast? = some (some reply) ∧ reply.Filled ∧
      Filled order (some reply.order) before.world after.world := by
  obtain ⟨outcome, started, executed, result, settled, execution, trades, filled, settling,
    trades', filled', replies⟩ := executed_runs ran published
  rw [filled', ← filled] at published
  cases accepted : outcome.result.accepted with
  | false =>
      simp only [accepted, Bool.false_eq_true, ↓reduceIte] at settling
      exact absurd (settleRejected_keeps settling) published
  | true =>
      simp only [accepted, ↓reduceIte] at settling
      obtain ⟨reply, last, fills, ticket⟩ := execute_accepted live execution accepted
      have used : (settleFilled order outcome.result correlationId).Uses Effect.Silent :=
        Prog.uses_bind (Prog.uses_perform trivial) fun _ => Prog.uses_perform trivial
      obtain ⟨stored, entry⟩ := settleFilled_fills (Dealing.world_runs settling) published
      rw [trades, ticket] at stored
      rw [filled] at entry
      refine ⟨reply, by rw [replies, silent_runs used settling]; exact last, fills, ?_, ?_⟩
      · rw [trades']
        exact stored
      · rw [filled']
        exact entry

theorem insertPending_keeps {order : OrderRequest ℚ} {result : Except PyError Bool}
    (ran : (insertPending order).Runs Dealing.Answers before result after) :
    after.world.filled = before.world.filled :=
  keeps_runs World.filled (insertPending_uses fun _ _ => rfl) (Dealing.world_runs ran)

theorem insertPending_stores {order : OrderRequest ℚ}
    (ran : (insertPending order).Runs Dealing.Answers before (.ok true) after) :
    ∃ row, after.world.trades.find? order.idempotencyKey = some row ∧ row.lots = order.lots := by
  unfold insertPending at ran
  split at ran
  · cases ran.1
  · obtain ⟨rowcount, middle, inserted, won, rfl⟩ := Prog.runs_bind_ok.mp ran
    obtain ⟨given, applied⟩ := World.answer_ok (Prog.runs_perform.mp inserted).1
    simp only [World.replies, Bool.and_eq_true, decide_eq_true_eq] at given
    have one : rowcount = 1 := by simpa using (Except.ok.inj won).symm
    have absent := KeyedTable.insertCount_eq_one.mp (given.2.symm.trans one)
    rw [applied]
    exact ⟨_, KeyedTable.find?_insert_absent absent, rfl⟩

theorem handleOrder_fills {service : ExecutionService}
    (live : service.settings.dryRunMode = false) {order : OrderRequest ℚ} {correlationId : String}
    {ended : Except PyError Unit}
    (ran : (handleOrder service order correlationId).Runs Dealing.Answers before ended after)
    (published : after.world.filled ≠ before.world.filled) :
    ∃ reply row entry, after.replies.getLast? = some (some reply) ∧ reply.Filled ∧
      after.world.trades.find? order.idempotencyKey = some row ∧ row.lots = order.lots ∧
      row.status = .filled ∧ row.brokerTicket = some reply.order ∧
      after.world.filled = before.world.filled ++ [entry] ∧ entry.order = order := by
  rcases Prog.runs_perform_bind.mp ran with ⟨cached, looked, look, fromCache⟩ | ⟨_, look, _⟩
  rotate_left
  · rcases World.answer_eq look.1 with same | same <;>
      exact absurd (congrArg World.filled same) published
  have unread : looked.world = before.world := by
    rcases World.answer_eq look.1 with same | same <;> exact same
  cases cached with
  | some view =>
      obtain ⟨_, rfl⟩ := fromCache
      exact absurd (congrArg World.filled unread) published
  | none =>
      rw [← unread] at published ⊢
      rcases Prog.runs_bind.mp fromCache with ⟨won, inserted, insertion, fromInsert⟩ |
        ⟨_, insertion, _⟩
      rotate_left
      · exact absurd (insertPending_keeps insertion) published
      have filled := insertPending_keeps insertion
      cases won with
      | false =>
          obtain ⟨_, rfl⟩ := fromInsert
          exact absurd filled published
      | true =>
          obtain ⟨pending, found, lots⟩ := insertPending_stores insertion
          rw [← filled] at published ⊢
          obtain ⟨reply, last, fills, stored, entry, entered, same⟩ :=
            executeOrder_fills live fromInsert published
          obtain ⟨row, later, unchanged, status, ticket⟩ := stored pending found
          exact ⟨reply, row, entry, last, fills, later, unchanged.trans lots, status, ticket,
            entered, same⟩

end Handling

/-! Closing it -/

def World.Sized (world : World) (key : String) (lots : ℚ) : Prop :=
  ∃ row, world.trades.find? key = some row ∧ row.lots = lots

theorem setStatus_lots (update : StatusUpdate) (row : TradeRow) :
    (row.setStatus update).lots = row.lots := by
  unfold TradeRow.setStatus
  split <;> try rfl
  split <;> rfl

theorem World.Sized.answer {world after : World} {key : String} {lots : ℚ} {effect : Effect}
    {reply : Except PyError effect.Reply} (sized : world.Sized key lots)
    (answered : world.answer effect reply = some after) : after.Sized key lots := by
  obtain ⟨row, found, same⟩ := sized
  obtain ⟨next, later, kept⟩ :=
    World.row_kept TradeRow.lots setStatus_lots (fun _ _ _ => rfl) found answered
  exact ⟨next, later, kept.trans same⟩

theorem World.Sized.run {Pid : Type} [DecidableEq Pid] {service : ExecutionService}
    {config later : ServiceConfig Pid} {trace : List (ServiceLabel Pid)} {key : String} {lots : ℚ}
    (sized : config.world.Sized key lots) (ran : service.system.run config trace = some later) :
    later.world.Sized key lots := by
  refine service.system.run_invariant (fun world => world.Sized key lots) ?_ ?_ ran sized
  · exact fun _ _ _ _ sized answered => sized.answer answered
  · intro world event after sized happened
    obtain ⟨_, trades, _⟩ := environment_keeps happened
    unfold World.Sized at sized ⊢
    rwa [trades]

def FindsTrade (key : String) : StepCondition := fun _ effect reply => match effect, reply with
  | .tradeByTicket _, .ok (some trade) => trade.idempotencyKey = key
  | _, _ => True

section Closing

variable {condition : StepCondition} {world after : World}

theorem keepsSends_runs {α : Type} {program : Execution α} {result : Except PyError α}
    (used : program.Uses fun effect => ∀ world : World,
      (world.apply effect).orderSends = world.orderSends)
    (ran : program.Runs (World.AnswersUnder condition) world result after) :
    after.orderSends = world.orderSends :=
  keeps_runs World.orderSends used (ran.map id fun _ _ _ _ answered => answered.1)

theorem module_sends {executor : MT5Executor} {result : Except PyError Mt5Module}
    (ran : executor.module.Runs (World.AnswersUnder condition) world result after) :
    after.orderSends = world.orderSends :=
  keepsSends_runs (module_uses executor) ran

theorem closePosition_sends {executor : MT5Executor} {symbol : String} {ticket : ℤ} {volume : ℚ}
    {result : Except PyError ExecOutcome}
    (ran : (executor.closePosition symbol ticket volume).Runs (World.AnswersUnder condition) world
      result after) : after.orderSends = world.orderSends ∨
        ∃ request, after.orderSends = world.orderSends ++ [request] ∧ request.volume = volume := by
  rcases Prog.runs_bind.mp ran with ⟨mt5, opened, module', fromModule⟩ | ⟨_, module', _⟩
  rotate_left
  · exact .inl (module_sends module')
  have atModule := module_sends module'
  rcases Prog.runs_bind.mp fromModule with ⟨found, looked, look, fromLook⟩ | ⟨_, look, _⟩
  rotate_left
  · exact .inl ((keepsSends_runs (Prog.uses_perform fun _ => rfl) look).trans atModule)
  have atLook := (keepsSends_runs (Prog.uses_perform fun _ => rfl) look).trans atModule
  rw [← atLook]
  cases positions : found.getD [] with
  | nil =>
      simp only [positions] at fromLook
      obtain ⟨_, rfl⟩ := fromLook
      exact .inl rfl
  | cons position others =>
      simp only [positions] at fromLook
      rcases Prog.runs_bind.mp fromLook with ⟨tick, ticked, ticking, fromTick⟩ | ⟨_, ticking, _⟩
      rotate_left
      · exact .inl (keepsSends_runs (tick_uses fun _ => rfl) ticking)
      rw [← keepsSends_runs (tick_uses fun _ => rfl) ticking]
      rcases Prog.runs_bind.mp fromTick with ⟨answered, sent, send, fromSend⟩ | ⟨_, send, _⟩
      · have appended := World.answer_eq (Prog.runs_perform.mp send).1
        have still : after.orderSends = sent.orderSends := by
          cases answered with
          | none =>
              refine keepsSends_runs ?_ fromSend
              exact Prog.uses_bind (Prog.uses_perform fun _ => rfl) fun _ => trivial
          | some reply => exact congrArg World.orderSends fromSend.2
        rw [still]
        rcases appended with rfl | rfl
        · exact .inl rfl
        · exact .inr ⟨_, rfl, rfl⟩
      · rcases World.answer_eq (Prog.runs_perform.mp send).1 with rfl | rfl
        · exact .inl rfl
        · exact .inr ⟨_, rfl, rfl⟩

theorem closeRoute_sends {service : ExecutionService} {ticket : ℤ} {key : String}
    {result : Except PyError CloseResponse} {row : TradeRow} {request : SendRequest}
    (ran : (closeRoute service ticket).Runs (World.AnswersUnder (FindsTrade key)) world result
      after) (found : world.trades.find? key = some row)
    (sent : after.orderSends = world.orderSends ++ [request]) : request.volume = row.lots := by
  have quiet : ∀ {middle : World}, middle.orderSends = world.orderSends →
      after.orderSends ≠ middle.orderSends := by
    intro middle same unsent
    rw [unsent, same] at sent
    simp at sent
  rcases Prog.runs_bind.mp ran with ⟨answered, read, reading, fromTrade⟩ | ⟨_, reading, _⟩
  rotate_left
  · exact absurd (keepsSends_runs (Prog.uses_perform fun _ => rfl) reading) (quiet rfl)
  have atRead := keepsSends_runs (Prog.uses_perform fun _ => rfl) reading
  cases answered with
  | none =>
      obtain ⟨_, rfl⟩ := fromTrade
      exact absurd rfl (quiet atRead)
  | some trade =>
      obtain ⟨answer, same⟩ := Prog.runs_perform.mp reading
      obtain ⟨replied, _⟩ := World.answer_ok answer
      simp only [World.replies, Bool.and_eq_true, decide_eq_true_eq] at replied
      have known := KeyedTable.find?_eq_some_iff.mpr ⟨replied.1, same⟩
      obtain rfl := Option.some.inj (found.symm.trans known)
      have sends : ∀ {middle : World}, after.orderSends = middle.orderSends →
          middle.orderSends = read.orderSends ∨ (∃ other, middle.orderSends =
            read.orderSends ++ [other] ∧ other.volume = row.lots) → request.volume = row.lots := by
        rintro middle still (unsent | ⟨other, appended, volume⟩)
        · exact absurd still (quiet (unsent.trans atRead))
        · rw [sent, ← atRead] at still
          have equal := List.append_cancel_left (still.trans appended)
          rw [(List.singleton_inj.mp equal), volume]
      rcases Prog.runs_bind.mp fromTrade with ⟨outcome, closed, closing, fromOutcome⟩ |
        ⟨_, closing, _⟩
      · refine sends ?_ (closePosition_sends closing)
        dsimp only at fromOutcome
        split at fromOutcome
        · refine keepsSends_runs ?_ fromOutcome
          exact Prog.uses_bind (closeByTicket_uses (fun _ => rfl) fun _ _ => rfl) fun _ => trivial
        · refine keepsSends_runs ?_ fromOutcome
          exact Prog.uses_bind (audit_uses fun _ => rfl) fun _ => trivial
      · exact sends rfl (closePosition_sends closing)

end Closing

/-- The order's row, its entry on order.filled and every later close request carry a volume. -/
structure CarriesVolume (service : ExecutionService) (order : OrderRequest ℚ)
    (before after : World) (volume : ℚ) : Prop where
  stored : ∀ row, after.trades.find? order.idempotencyKey = some row → row.lots = volume
  published : ∀ entry, after.filled = before.filled ++ [entry] → entry.order.lots = volume
  closes : ∀ (Pid : Type) (_ : DecidableEq Pid) (config later : ServiceConfig Pid)
    (trace : List (ServiceLabel Pid)), config.world = after →
    service.system.run config trace = some later → ∀ ticket response final,
    (closeRoute service ticket).Runs (World.AnswersUnder (FindsTrade order.idempotencyKey))
      later.world response final →
    ∀ request, final.orderSends = later.world.orderSends ++ [request] → request.volume = volume

/-- Where a handling in live mode published its order, the terminal's last reply filled it, and
the row, the entry and the close requests carry the executed volume just when that is the volume
of the order. -/
theorem filled_volume_iff {service : ExecutionService} (live : service.settings.dryRunMode = false)
    {order : OrderRequest ℚ} {correlationId : String} {before after : Dealing}
    {ended : Except PyError Unit}
    (ran : (handleOrder service order correlationId).Runs Dealing.Answers before ended after)
    (published : after.world.filled ≠ before.world.filled) :
    ∃ reply, after.replies.getLast? = some (some reply) ∧ reply.Filled ∧
      (CarriesVolume service order before.world after.world reply.volume ↔
        reply.volume = order.lots) := by
  obtain ⟨reply, row, entry, last, fills, found, lots, _, _, entered, same⟩ :=
    handleOrder_fills live ran published
  refine ⟨reply, last, fills, fun carries => ?_, fun volume => ⟨?_, ?_, ?_⟩⟩
  · rw [← carries.stored row found, lots]
  · intro other known
    obtain rfl := Option.some.inj (found.symm.trans known)
    rw [lots, volume]
  · intro other appended
    have equal := List.singleton_inj.mp (List.append_cancel_left (entered.symm.trans appended))
    rw [← equal, same, volume]
  · intro Pid _ config later trace start ran ticket response final closing request sent
    rw [← start] at found
    obtain ⟨kept, known, size⟩ := World.Sized.run ⟨row, found, lots⟩ ran
    rw [closeRoute_sends closing known sent, size, volume]

namespace Sample

def trading : ExecutionService := { service (some {}) with settings := { dryRunMode := false } }

def replying (reply : SendResult) (dealing : Dealing) :
    (effect : Effect) → Except PyError effect.Reply × Dealing
  | .redisGet key => (.ok (dealing.world.results key), dealing)
  | .insertPending row =>
      if 0 < row.lots then
        (.ok (dealing.world.trades.insertCount row),
          { dealing with world := dealing.world.apply (.insertPending row) })
      else (.error .assertionError, dealing)
  | .symbolInfoTick _ => (.ok (some ⟨1005, 1006⟩), dealing)
  | .orderSend request => (.ok (some reply),
      ⟨dealing.world.apply (.orderSend request), dealing.replies ++ [some reply]⟩)
  | .startExecute key =>
      (.ok (), { dealing with world := dealing.world.apply (.startExecute key) })
  | .setStatus key update =>
      (.ok (), { dealing with world := dealing.world.apply (.setStatus key update) })
  | .xaddFilled entry =>
      (.ok (), { dealing with world := dealing.world.apply (.xaddFilled entry) })
  | .redisSet key view =>
      (.ok (), { dealing with world := dealing.world.apply (.redisSet key view) })
  | .audit _ => (.ok (), dealing)
  | _ => (.error .assertionError, dealing)

theorem replying_answers (reply : SendResult) (dealing : Dealing) (effect : Effect) :
    dealing.Answers effect (replying reply dealing effect).1 (replying reply dealing effect).2 := by
  cases effect with
  | insertPending row =>
      by_cases positive : 0 < row.lots
      · simp [replying, positive, Dealing.Answers, World.answer, World.replies, dealt]
      · simp [replying, positive, Dealing.Answers, World.answer, Effect.tookEffect,
          PyError.applied, dealt]
  | _ => simp [replying, Dealing.Answers, World.answer, World.replies, World.apply,
      Effect.tookEffect, PyError.applied, dealt]

def handled (reply : SendResult) : Except PyError Unit × Dealing :=
  Prog.eval (replying reply) ⟨{}, []⟩ (handleOrder trading order "c-1")

theorem handled_runs (reply : SendResult) :
    (handleOrder trading order "c-1").Runs Dealing.Answers ⟨{}, []⟩ (handled reply).1
      (handled reply).2 :=
  Prog.runs_eval (fun _ => True) (Prog.uses_of_forall (fun _ => trivial) _) trivial
    fun effect _ dealing _ => ⟨replying_answers reply dealing effect, trivial⟩

def done : SendResult := { retcode := 10009, order := 7, price := 1006, volume := 1 / 2 }

def partlyDone : SendResult := { retcode := 10010, order := 7, price := 1006, volume := 1 / 4 }

end Sample

theorem filled_volume_iff_done : ∃ reply, (Sample.handled Sample.done).2.replies.getLast? =
    some (some reply) ∧ reply.Filled ∧ (CarriesVolume Sample.trading Sample.order {}
      (Sample.handled Sample.done).2.world reply.volume ↔ reply.volume = 1 / 2) := by
  have entered : (Sample.handled Sample.done).2.world.filled.length = 1 := by decide +kernel
  refine filled_volume_iff rfl (Sample.handled_runs Sample.done) fun none => ?_
  rw [none] at entered
  simp at entered

/-- After a partial fill the row keeps the ordered lots. -/
theorem filled_volume_partial :
    ¬ ∀ (service : ExecutionService) (order : OrderRequest ℚ) (correlationId : String)
        (before after : Dealing) (reply : SendResult), service.settings.dryRunMode = false →
        (handleOrder service order correlationId).Runs Dealing.Answers before (.ok ()) after →
        after.world.filled ≠ before.world.filled →
        after.replies.getLast? = some (some reply) →
        CarriesVolume service order before.world after.world reply.volume := by
  intro always
  have ended : (Sample.handled Sample.partlyDone).1 = .ok () := by decide +kernel
  have seen : (Sample.handled Sample.partlyDone).2.replies = [some Sample.partlyDone] ∧
      ((Sample.handled Sample.partlyDone).2.world.trades.find? Sample.key).map TradeRow.lots =
        some (1 / 2) ∧
      (Sample.handled Sample.partlyDone).2.world.filled.length = 1 := by decide +kernel
  obtain ⟨replies, lots, entered⟩ := seen
  have ran := Sample.handled_runs Sample.partlyDone
  rw [ended] at ran
  have carries := always _ _ _ _ _ Sample.partlyDone rfl ran
    (fun none => by rw [none] at entered; simp at entered) (by rw [replies]; rfl)
  obtain ⟨row, found, size⟩ := Option.map_eq_some_iff.mp lots
  have executed := carries.stored row found
  rw [size] at executed
  norm_num [Sample.partlyDone] at executed

end Vix75
