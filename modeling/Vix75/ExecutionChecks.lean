import Vix75.ExecutionSystem

/-! Which effects each program of execution-service can reach, that `execute` is started
at most once for every idempotency key, and when dry run keeps orders from the broker. -/

namespace Vix75

open EffectProgram

section Reached

variable {permitted : Effect → Prop}

theorem module_uses (executor : MT5Executor) : executor.module.Uses permitted := by
  unfold MT5Executor.module
  split <;> trivial

theorem tick_uses {executor : MT5Executor} {symbol : String}
    (ticks : permitted (.symbolInfoTick symbol)) : (executor.tick symbol).Uses permitted := by
  refine Prog.uses_bind (module_uses executor) fun _ => ?_
  refine Prog.uses_bind (Prog.uses_perform ticks) fun tick => ?_
  cases tick <;> trivial

theorem executeDryRun_uses {executor : MT5Executor} {order : OrderRequest ℚ}
    (ticks : permitted (.symbolInfoTick order.symbol)) (clock : permitted .time) :
    (executor.executeDryRun order).Uses permitted := by
  unfold MT5Executor.executeDryRun
  split
  · refine Prog.uses_bind (tick_uses ticks) fun _ => ?_
    rw [Prog.done_bind]
    exact Prog.uses_bind (Prog.uses_perform clock) fun _ => trivial
  · rw [Prog.done_bind]
    exact Prog.uses_bind (Prog.uses_perform clock) fun _ => trivial

theorem sendLoop_uses {order : OrderRequest ℚ} {request : SendRequest}
    (sends : permitted (.orderSend request)) (errors : permitted .lastError)
    (sleeps : ∀ seconds, permitted (.sleep seconds)) (rounds : ℕ)
    (state : MT5Executor.SendState) :
    (MT5Executor.sendLoop order request rounds state).Uses permitted := by
  induction rounds generalizing state with
  | zero => trivial
  | succ rounds ih =>
      have backOff : ∀ retry : MT5Executor.SendState,
          (if state.attempts + 1 < maxAttempts then do
            await (.sleep retry.delay)
            MT5Executor.sendLoop order request rounds { retry with delay := retry.delay * 2 }
          else MT5Executor.sendLoop order request rounds retry :
            Execution ExecOutcome).Uses permitted := by
        intro retry
        split
        · exact Prog.uses_bind (Prog.uses_perform (sleeps _)) fun _ => ih _
        · exact ih _
      refine Prog.uses_bind (Prog.uses_perform sends) fun answered => ?_
      cases answered with
      | none => exact Prog.uses_bind (Prog.uses_perform errors) fun _ => backOff _
      | some result =>
          dsimp only
          split
          · trivial
          · split
            · exact Prog.uses_bind (Prog.uses_perform errors) fun _ => trivial
            · exact Prog.uses_bind (Prog.uses_perform errors) fun _ => backOff _

theorem execute_uses {executor : MT5Executor} {order : OrderRequest ℚ}
    (ticks : permitted (.symbolInfoTick order.symbol)) (clock : permitted .time)
    (sends : ∀ request, permitted (.orderSend request)) (errors : permitted .lastError)
    (sleeps : ∀ seconds, permitted (.sleep seconds)) :
    (executor.execute order).Uses permitted := by
  unfold MT5Executor.execute
  split
  · exact executeDryRun_uses ticks clock
  · refine Prog.uses_bind ?_ fun request => ?_
    · refine Prog.uses_bind (module_uses executor) fun _ => ?_
      exact Prog.uses_bind (tick_uses ticks) fun _ => trivial
    · refine Prog.uses_bind (module_uses executor) fun _ => ?_
      exact sendLoop_uses (sends request) errors sleeps _ _

theorem getOrCreateCorrelationId_uses {decoded : Fields} (fresh : permitted .uuid4) :
    (getOrCreateCorrelationId decoded).Uses permitted := by
  unfold getOrCreateCorrelationId
  split
  · trivial
  · exact Prog.uses_perform fresh

theorem audit_uses {entry : AuditEntry} (audits : permitted (.audit entry)) :
    (audit entry).Uses permitted := by
  refine Prog.uses_rescue (Prog.uses_perform audits) fun error => ?_
  cases error <;> trivial

theorem ensureGroup_uses (creates : permitted .xgroupCreate) : ensureGroup.Uses permitted := by
  refine Prog.uses_rescue (Prog.uses_perform creates) fun error => ?_
  cases error <;> trivial

theorem readBatch_uses (reads : permitted (.xreadgroup 8)) (creates : permitted .xgroupCreate)
    (sleeps : permitted (.sleep 2)) : readBatch.Uses permitted := by
  refine Prog.uses_rescue (Prog.uses_perform reads) fun error => ?_
  cases error <;>
    first
    | exact Prog.uses_bind (ensureGroup_uses creates) fun _ => trivial
    | exact Prog.uses_bind (Prog.uses_perform sleeps) fun _ => trivial

theorem insertPending_uses {order : OrderRequest ℚ}
    (inserts : ∀ row, permitted (.insertPending row)) : (insertPending order).Uses permitted := by
  unfold insertPending
  split
  · trivial
  · exact Prog.uses_bind (Prog.uses_perform (inserts _)) fun _ => trivial

theorem closePosition_uses {executor : MT5Executor} {symbol : String} {ticket : ℤ} {volume : ℚ}
    (looks : permitted (.positionsGet (some ticket))) (ticks : permitted (.symbolInfoTick symbol))
    (sends : ∀ request, permitted (.orderSend request)) (errors : permitted .lastError) :
    (executor.closePosition symbol ticket volume).Uses permitted := by
  refine Prog.uses_bind (module_uses executor) fun _ => ?_
  refine Prog.uses_bind (Prog.uses_perform looks) fun found => ?_
  cases found.getD [] with
  | nil => trivial
  | cons position rest =>
      refine Prog.uses_bind (tick_uses ticks) fun _ => ?_
      refine Prog.uses_bind (Prog.uses_perform (sends _)) fun answered => ?_
      cases answered with
      | none => exact Prog.uses_bind (Prog.uses_perform errors) fun _ => trivial
      | some result => trivial

theorem closeByTicket_uses {ticket : ℤ} {profit : ℚ} (clock : permitted .time)
    (closes : ∀ closedAt, permitted (.closeByTicket ticket closedAt profit)) :
    (closeByTicket ticket profit).Uses permitted := by
  refine Prog.uses_bind (Prog.uses_perform clock) fun _ => ?_
  exact Prog.uses_bind (Prog.uses_perform (closes _)) fun _ => trivial

theorem closeRoute_uses {service : ExecutionService} {ticket : ℤ}
    (finds : permitted (.tradeByTicket ticket)) (looks : permitted (.positionsGet (some ticket)))
    (ticks : ∀ symbol, permitted (.symbolInfoTick symbol))
    (sends : ∀ request, permitted (.orderSend request)) (errors : permitted .lastError)
    (clock : permitted .time) (closes : ∀ closedAt, permitted (.closeByTicket ticket closedAt 0))
    (audits : ∀ entry, permitted (.audit entry)) :
    (closeRoute service ticket).Uses permitted := by
  refine Prog.uses_bind (Prog.uses_perform finds) fun found => ?_
  cases found with
  | none => trivial
  | some trade =>
      refine Prog.uses_bind (closePosition_uses looks (ticks _) sends errors) fun outcome => ?_
      dsimp only
      split
      · exact Prog.uses_bind (closeByTicket_uses clock closes) fun _ => trivial
      · exact Prog.uses_bind (audit_uses (audits _)) fun _ => trivial

end Reached

def Effect.Routine : Effect → Prop
  | .insertPending _ => False
  | .startExecute _ => False
  | .symbolInfoTick _ => False
  | .orderSend _ => False
  | .positionsGet (some _) => False
  | _ => True

theorem settle_uses (order : OrderRequest ℚ) (outcome : ExecOutcome) (correlationId : String) :
    (if outcome.result.accepted then settleFilled order outcome.result correlationId
      else settleRejected order outcome correlationId).Uses Effect.Routine := by
  split
  · exact Prog.uses_bind (Prog.uses_perform trivial) fun _ => Prog.uses_perform trivial
  · exact Prog.uses_bind (Prog.uses_perform trivial) fun _ => Prog.uses_perform trivial

def Effect.Sweeping : Effect → Prop
  | .positionsGet none => True
  | .openTrades => True
  | .time => True
  | .historyDealsGet _ _ _ => True
  | .closeByTicket _ _ _ => True
  | .uuid4 => True
  | .xaddClosed _ => True
  | _ => False

theorem Effect.Sweeping.routine {effect : Effect} (sweeping : effect.Sweeping) :
    effect.Routine := by
  cases effect with
  | positionsGet ticket => cases ticket <;> trivial
  | _ => trivial

theorem closeGhost_uses (symbol : String) (rows : List TradeRow) (ticket : ℤ) :
    (closeGhost symbol rows ticket).Uses Effect.Sweeping := by
  refine Prog.uses_bind ?_ fun summary => ?_
  · refine Prog.uses_bind (Prog.uses_perform trivial) fun _ => ?_
    exact Prog.uses_bind (Prog.uses_perform trivial) fun _ => trivial
  · split
    · refine Prog.uses_bind (closeByTicket_uses trivial fun _ => trivial) fun wasOpen => ?_
      cases wasOpen with
      | false => trivial
      | true =>
          exact Prog.uses_bind (Prog.uses_perform trivial) fun _ => Prog.uses_perform trivial
    · trivial

theorem runOnce_uses (service : ExecutionService) : (runOnce service).Uses Effect.Sweeping := by
  unfold runOnce
  split
  · trivial
  · refine Prog.uses_bind (Prog.uses_perform trivial) fun _ => ?_
    refine Prog.uses_bind (Prog.uses_perform trivial) fun _ => ?_
    exact Prog.uses_forEach fun ticket => closeGhost_uses _ _ ticket

theorem drain_uses {permitted : Effect → Prop} {service : ExecutionService}
    (routine : ∀ effect, Effect.Routine effect → permitted effect)
    (inserts : ∀ row, permitted (.insertPending row))
    (starts : ∀ key, permitted (.startExecute key))
    (executes : ∀ order, (service.executor.execute order).Uses permitted) :
    (drain service).Uses permitted := by
  have executed : ∀ order correlationId,
      (executeOrder service order correlationId).Uses permitted := by
    intro order correlationId
    refine Prog.uses_bind (Prog.uses_perform (starts _)) fun _ => ?_
    refine Prog.uses_bind (executes order) fun outcome => ?_
    have audited : ∀ entry, (audit entry).Uses permitted := fun _ =>
      audit_uses (routine _ trivial)
    have settled := (settle_uses order outcome correlationId).mono routine
    dsimp only
    split
    · rename_i accepted
      simp only [accepted, ↓reduceIte] at settled
      refine Prog.uses_bind settled fun _ => ?_
      exact Prog.uses_bind (Prog.uses_perform (routine _ trivial)) fun _ => audited _
    · rename_i refused
      simp only [refused, Bool.false_eq_true, ↓reduceIte] at settled
      refine Prog.uses_bind settled fun _ => ?_
      exact Prog.uses_bind (Prog.uses_perform (routine _ trivial)) fun _ => audited _
  refine Prog.uses_bind (readBatch_uses (routine _ trivial) (routine _ trivial)
    (routine _ trivial)) fun messages => Prog.uses_forEach fun message => ?_
  refine Prog.uses_bind ?_ fun _ => Prog.uses_perform (routine _ trivial)
  refine Prog.uses_bind (getOrCreateCorrelationId_uses (routine _ trivial)) fun correlationId => ?_
  split
  · trivial
  · trivial
  · refine Prog.uses_bind (Prog.uses_perform (routine _ trivial)) fun cached => ?_
    cases cached with
    | some view => trivial
    | none =>
        refine Prog.uses_bind (insertPending_uses inserts) fun won => ?_
        cases won with
        | false => trivial
        | true => exact executed _ correlationId

theorem environment_keeps {world after : World} {event : WorldEvent}
    (happened : world.environment event = some after) :
    after.executions = world.executions ∧ after.trades = world.trades ∧
      after.orderSends = world.orderSends := by
  cases event with
  | publish message =>
      simp only [World.environment] at happened
      split at happened
      · simp at happened
      · rw [← Option.some.inj happened]
        exact ⟨rfl, rfl, rfl⟩
  | expire key =>
      rw [← Option.some.inj happened]
      exact ⟨rfl, rfl, rfl⟩
  | loseGroup =>
      rw [← Option.some.inj happened]
      exact ⟨rfl, rfl, rfl⟩

/-! At most one execution per idempotency key -/

def Effect.ClaimsNothing : Effect → Prop
  | .insertPending _ => False
  | .startExecute _ => False
  | _ => True

theorem Effect.Routine.claimsNothing {effect : Effect} (routine : effect.Routine) :
    effect.ClaimsNothing := by
  cases effect <;> trivial

/-- A process may start the executor on the key whose row its own insert added, once. -/
def claiming : Discipline Effect Effect.Reply PyError ServiceRequest (Option String) where
  initial := fun _ => none
  allowed := fun claim effect => match effect with
    | .startExecute key => claim = some key
    | _ => True
  advance := fun claim effect reply => match effect, reply with
    | .insertPending row, .ok rowcount => if rowcount = 1 then some row.idempotencyKey else none
    | .insertPending _, .error _ => none
    | .startExecute _, _ => none
    | _, _ => claim

theorem claiming_inert {claim : Option String} (effect : Effect)
    (nothing : effect.ClaimsNothing) :
    claiming.allowed claim effect ∧
      ∀ reply, claiming.assumed claim effect reply →
        claiming.advance claim effect reply = claim := by
  cases effect <;> first | exact absurd nothing id | exact ⟨trivial, fun _ _ => rfl⟩

theorem claiming_of_uses {α : Type} {claim : Option String} {program : Execution α}
    (used : program.Uses Effect.ClaimsNothing) :
    claiming.wp claim program (fun _ _ => True) (fun _ _ => True) :=
  Discipline.wp_mono (Discipline.wp_of_uses used claiming_inert) (fun _ _ _ => trivial)
    (fun _ _ _ => trivial)

theorem executeOrder_claims (service : ExecutionService) (order : OrderRequest ℚ)
    (correlationId : String) :
    claiming.wp (some order.idempotencyKey) (executeOrder service order correlationId)
      (fun _ _ => True) (fun _ _ => True) := by
  unfold executeOrder
  rw [Discipline.wp_bind, Discipline.wp_perform]
  refine ⟨rfl, fun _ _ => claiming_of_uses ?_, fun _ _ => trivial⟩
  refine Prog.uses_bind ?_ fun outcome => ?_
  · exact execute_uses trivial trivial (fun _ => trivial) trivial fun _ => trivial
  · have settled := (settle_uses order outcome correlationId).mono fun _ =>
      Effect.Routine.claimsNothing
    dsimp only
    split
    · rename_i accepted
      simp only [accepted, ↓reduceIte] at settled
      refine Prog.uses_bind settled fun _ => ?_
      exact Prog.uses_bind (Prog.uses_perform trivial) fun _ => audit_uses trivial
    · rename_i refused
      simp only [refused, Bool.false_eq_true, ↓reduceIte] at settled
      refine Prog.uses_bind settled fun _ => ?_
      exact Prog.uses_bind (Prog.uses_perform trivial) fun _ => audit_uses trivial

theorem handleOrder_claims (service : ExecutionService) (order : OrderRequest ℚ)
    (correlationId : String) (claim : Option String) :
    claiming.wp claim (handleOrder service order correlationId)
      (fun _ _ => True) (fun _ _ => True) := by
  unfold handleOrder
  rw [Discipline.wp_bind, Discipline.wp_perform]
  refine ⟨trivial, fun cached _ => ?_, fun _ _ => trivial⟩
  cases cached with
  | some view => trivial
  | none =>
      dsimp only
      rw [Discipline.wp_bind]
      unfold insertPending
      split
      · trivial
      · rw [Discipline.wp_bind, Discipline.wp_perform]
        refine ⟨trivial, fun rowcount _ => ?_, fun _ _ => trivial⟩
        by_cases won : rowcount = 1
        · subst won
          exact executeOrder_claims service order correlationId
        · simp [won]

theorem handle_claims (service : ExecutionService) (fields : Fields) (claim : Option String) :
    claiming.wp claim (handle service fields) (fun _ _ => True) (fun _ _ => True) := by
  refine Discipline.wp_seq _ (claiming_of_uses (getOrCreateCorrelationId_uses trivial)) ?_
  intro current correlationId _
  split
  · trivial
  · trivial
  · exact handleOrder_claims service _ correlationId current

theorem handleMessage_claims (service : ExecutionService) (message : Message)
    (claim : Option String) :
    claiming.wp claim (handleMessage service message) (fun _ _ => True) (fun _ _ => True) := by
  refine Discipline.wp_seq _ (handle_claims service message.fields claim) fun current _ _ => ?_
  exact claiming_of_uses (Prog.uses_perform trivial)

theorem entry_claims (service : ExecutionService) (request : ServiceRequest) :
    claiming.wp none (service.entry request) (fun _ _ => True) (fun _ _ => True) := by
  cases request with
  | ensureGroup => exact claiming_of_uses (ensureGroup_uses trivial)
  | sweep =>
      exact claiming_of_uses ((runOnce_uses service).mono fun _ swept =>
        swept.routine.claimsNothing)
  | close ticket =>
      refine claiming_of_uses (Prog.uses_bind ?_ fun _ => trivial)
      exact closeRoute_uses trivial trivial (fun _ => trivial) (fun _ => trivial) trivial trivial
        (fun _ => trivial) fun _ => trivial
  | drain =>
      refine Discipline.wp_seq _ (claiming_of_uses (readBatch_uses trivial trivial trivial)) ?_
      intro current messages _
      exact Discipline.wp_forEach (fun _ _ => True) trivial
        fun message rest after _ => handleMessage_claims service message after

section Interleavings

variable {Pid : Type} [DecidableEq Pid]

structure ClaimsHeld (world : World) (claims : Pid → Option (Option String)) : Prop where
  once : ∀ key, world.executions.count key ≤ 1
  rowed : ∀ key ∈ world.executions, (world.trades.find? key).isSome
  waiting : ∀ pid key, claims pid = some (some key) →
    (world.trades.find? key).isSome ∧ key ∉ world.executions
  alone : ∀ pid other key, claims pid = some (some key) → claims other = some (some key) →
    pid = other

theorem ClaimsHeld.keep {world after : World} {claims : Pid → Option (Option String)} {pid : Pid}
    {claim : Option (Option String)} (held : ClaimsHeld world claims)
    (executions : after.executions = world.executions)
    (rows : ∀ key, (world.trades.find? key).isSome → (after.trades.find? key).isSome)
    (same : ∀ key, claim = some (some key) → claims pid = some (some key)) :
    ClaimsHeld after (Function.update claims pid claim) := by
  have before : ∀ other key, Function.update claims pid claim other = some (some key) →
      claims other = some (some key) := by
    intro other key holds
    by_cases here : other = pid
    · subst here
      exact same key (by simpa using holds)
    · simpa [Function.update_of_ne here] using holds
  refine ⟨?_, ?_, ?_, ?_⟩
  · simpa [executions] using held.once
  · intro key started
    exact rows key (held.rowed key (executions ▸ started))
  · intro other key holds
    obtain ⟨rowed, unstarted⟩ := held.waiting other key (before other key holds)
    exact ⟨rows key rowed, executions ▸ unstarted⟩
  · intro first second key holdsFirst holdsSecond
    exact held.alone first second key (before first key holdsFirst) (before second key holdsSecond)

theorem apply_claimsNothing (world : World) {effect : Effect} (nothing : effect.ClaimsNothing) :
    (world.apply effect).executions = world.executions ∧
      ∀ key, ((world.apply effect).trades.find? key).isSome = (world.trades.find? key).isSome := by
  cases effect <;>
    first
    | exact absurd nothing id
    | exact ⟨rfl, fun _ => rfl⟩
    | exact ⟨rfl, fun key => by simp [World.apply, KeyedTable.find?_update]⟩

theorem ClaimsHeld.insert {world after : World} {claims : Pid → Option (Option String)} {pid : Pid}
    {row : TradeRow} {reply : Except PyError ℕ} {claim : Option String}
    (held : ClaimsHeld world claims)
    (answered : world.answer (.insertPending row) reply = some after) :
    ClaimsHeld after (Function.update claims pid
      (some (claiming.advance claim (.insertPending row) reply))) := by
  have executions : after.executions = world.executions := by
    rcases World.answer_eq answered with same | inserted
    · rw [same]
    · rw [inserted]; rfl
  have rows : ∀ key, (world.trades.find? key).isSome → (after.trades.find? key).isSome := by
    intro key rowed
    rcases World.answer_eq answered with same | inserted
    · rwa [same]
    · rw [inserted]
      simp only [World.apply, KeyedTable.find?_insert]
      split
      · rfl
      · exact rowed
  cases reply with
  | error error =>
      exact held.keep executions rows fun key claimed => by simp [claiming] at claimed
  | ok rowcount =>
      by_cases won : rowcount = 1
      · obtain ⟨given, applied⟩ := World.answer_ok answered
        simp only [World.replies, won, Bool.and_eq_true, decide_eq_true_eq] at given
        have absent := KeyedTable.insertCount_eq_one.mp given.2.symm
        have unstarted : row.idempotencyKey ∉ world.executions := fun started => by
          simpa [absent] using held.rowed _ started
        have unclaimed : ∀ other, claims other ≠ some (some row.idempotencyKey) :=
          fun other claimed => by simpa [absent] using (held.waiting other _ claimed).1
        have claimOf : ∀ other key, Function.update claims pid
            (some (claiming.advance claim (.insertPending row) (.ok rowcount))) other =
              some (some key) → other = pid ∧ key = row.idempotencyKey ∨
                claims other = some (some key) := by
          intro other key claimed
          by_cases here : other = pid
          · subst here
            simp only [claiming, won, Function.update_self, ↓reduceIte, Option.some.injEq]
              at claimed
            exact .inl ⟨rfl, claimed.symm⟩
          · exact .inr (by simpa [Function.update_of_ne here] using claimed)
        refine ⟨?_, ?_, ?_, ?_⟩
        · simpa [executions] using held.once
        · intro key started
          exact rows key (held.rowed key (executions ▸ started))
        · intro other key claimed
          rcases claimOf other key claimed with ⟨_, rfl⟩ | before
          · refine ⟨?_, executions ▸ unstarted⟩
            rw [applied]
            simp [World.apply, KeyedTable.find?_insert_absent absent]
          · obtain ⟨rowed, free⟩ := held.waiting other key before
            exact ⟨rows key rowed, executions ▸ free⟩
        · intro first second key claimedFirst claimedSecond
          rcases claimOf first key claimedFirst with ⟨rfl, rfl⟩ | before
          · rcases claimOf second _ claimedSecond with ⟨rfl, _⟩ | other
            · rfl
            · exact absurd other (unclaimed second)
          · rcases claimOf second key claimedSecond with ⟨_, rfl⟩ | other
            · exact absurd before (unclaimed first)
            · exact held.alone first second key before other
      · refine held.keep executions rows fun key claimed => ?_
        simp [claiming, won] at claimed

theorem ClaimsHeld.startExecute {world after : World} {claims : Pid → Option (Option String)}
    {pid : Pid} {key : String} {reply : Except PyError Unit} (held : ClaimsHeld world claims)
    (claimed : claims pid = some (some key))
    (answered : world.answer (.startExecute key) reply = some after) :
    ClaimsHeld after (Function.update claims pid (some none)) := by
  rcases World.answer_eq answered with same | started
  · subst same
    exact held.keep rfl (fun _ rowed => rowed) fun _ impossible => by simp at impossible
  · subst started
    obtain ⟨rowed, unstarted⟩ := held.waiting pid key claimed
    have before : ∀ other wanted, Function.update claims pid (some none) other =
        some (some wanted) → other ≠ pid ∧ claims other = some (some wanted) := by
      intro other wanted holds
      by_cases here : other = pid
      · subst here
        simp at holds
      · exact ⟨here, by simpa [Function.update_of_ne here] using holds⟩
    refine ⟨?_, ?_, ?_, ?_⟩
    · intro wanted
      have bound := held.once wanted
      by_cases same : key = wanted
      · subst same
        have zero : world.executions.count key = 0 := List.count_eq_zero.mpr unstarted
        simp [World.apply, zero]
      · simpa [World.apply, List.count_singleton, same] using bound
    · intro wanted started
      rcases List.mem_append.mp started with earlier | now
      · exact held.rowed wanted earlier
      · rw [List.mem_singleton.mp now]
        exact rowed
    · intro other wanted holds
      obtain ⟨elsewhere, claimedOther⟩ := before other wanted holds
      obtain ⟨rowedOther, free⟩ := held.waiting other wanted claimedOther
      refine ⟨rowedOther, ?_⟩
      intro started
      rcases List.mem_append.mp started with earlier | now
      · exact free earlier
      · rw [List.mem_singleton.mp now] at claimedOther
        exact elsewhere (held.alone other pid key claimedOther claimed)
    · intro first second wanted holdsFirst holdsSecond
      exact held.alone first second wanted (before first wanted holdsFirst).2
        (before second wanted holdsSecond).2

theorem claiming_maintains (service : ExecutionService) :
    claiming.Maintains service.system (fun world (claims : Pid → Option (Option String)) =>
      ClaimsHeld world claims) where
  follows := entry_claims service
  start world claims pid request held _ _ :=
    held.keep rfl (fun _ rowed => rowed) fun _ impossible => by simp [claiming] at impossible
  finish world claims pid claim held _ _ :=
    held.keep rfl (fun _ rowed => rowed) fun _ impossible => by simp at impossible
  fail world claims pid claim error held _ _ :=
    held.keep rfl (fun _ rowed => rowed) fun _ impossible => by simp at impossible
  crash world claims pid claim held _ _ :=
    held.keep rfl (fun _ rowed => rowed) fun _ impossible => by simp at impossible
  environment world claims event after held happened := by
    obtain ⟨executions, trades, _⟩ := environment_keeps happened
    obtain ⟨once, rowed, waiting, alone⟩ := held
    exact ⟨by simpa [executions] using once, by simpa [executions, trades] using rowed,
      by simpa [executions, trades] using waiting, alone⟩
  answer world claims pid claim effect reply after held current allowed _ _ answered := by
    by_cases nothing : effect.ClaimsNothing
    · obtain ⟨executions, rows⟩ := apply_claimsNothing world nothing
      have advanced : claiming.advance claim effect reply = claim :=
        (claiming_inert effect nothing).2 reply trivial
      rw [advanced]
      rcases World.answer_eq answered with same | applied
      · subst same
        exact held.keep rfl (fun _ rowed => rowed) fun key claimed => by rw [current, claimed]
      · subst applied
        exact held.keep executions (fun key rowed => by rw [rows]; exact rowed)
          fun key claimed => by rw [current, claimed]
    · cases effect with
      | insertPending row => exact held.insert answered
      | startExecute key =>
          have claimed : claims pid = some (some key) := by
            rw [current]
            exact congrArg some allowed
          exact held.startExecute claimed answered
      | _ => exact absurd trivial nothing

/-- However the workers interleave, fail and crash, and whatever the cache has
forgotten, `execute` is started at most once for every idempotency key. -/
theorem execute_at_most_once (service : ExecutionService) {world : World}
    {trace : List (ServiceLabel Pid)} {after : ServiceConfig Pid}
    (fresh : world.executions = [])
    (ran : service.system.run (ServiceConfig.idle world) trace = some after) (key : String) :
    after.world.executions.count key ≤ 1 := by
  have initial : ClaimsHeld world (fun _ : Pid => none) := by
    refine ⟨?_, ?_, ?_, ?_⟩ <;> simp [fresh]
  have assumed : claiming.Assumes (fun _ : Pid => none) trace :=
    Discipline.assumes_of_forall (fun _ _ _ _ _ => trivial) fun _ _ _ => trivial
  exact ((claiming_maintains service).run (Discipline.matches_initial world) initial assumed
    ran).2.once key

end Interleavings

namespace Sample

def key : String := "0123456789abcdef0123456789abcdef"

def order : OrderRequest ℚ where
  idempotencyKey := key
  signalId := key
  symbol := "Volatility 75 Index"
  direction := .buy
  lots := 1 / 2
  entry := 1000
  sl := 990
  tp := 1020

def fields : Fields :=
  [("idempotency_key", key), ("signal_id", key), ("symbol", "Volatility 75 Index"),
   ("direction", "BUY"), ("lots", "0.5"), ("entry", "1000.0"), ("sl", "990.0"),
   ("tp", "1020.0"), ("correlation_id", "c-1")]

def row : TradeRow where
  idempotencyKey := key
  signalId := "01234567-89ab-cdef-0123-456789abcdef"
  symbol := "Volatility 75 Index"
  side := .buy
  lots := 1 / 2
  entryPrice := 1000
  slPrice := 990
  tpPrice := 1020

def service (mt5 : Option Mt5Module) : ExecutionService where
  settings := {}
  mt5 := mt5
  codec := {
    loads := fun _ => .error (.jsonDecodeError "Expecting value")
    intOf := fun _ => none
    validate := fun _ => some order }

def raced : List (ServiceLabel ℕ) :=
  [.environment (.publish ⟨"1-0", fields⟩),
   .start 0 .drain,
   .answer 0 (.xreadgroup 8) (.ok [⟨"1-0", fields⟩]),
   .environment (.publish ⟨"2-0", fields⟩),
   .start 1 .drain,
   .answer 1 (.xreadgroup 8) (.ok [⟨"2-0", fields⟩]),
   .answer 0 (.redisGet (resultKey key)) (.ok none),
   .answer 1 (.redisGet (resultKey key)) (.ok none),
   .answer 0 (.insertPending row) (.ok 1),
   .answer 1 (.insertPending row) (.ok 0),
   .answer 1 (.xack "2-0") (.ok ()),
   .answer 0 (.startExecute key) (.ok ()),
   .crash 0]

end Sample

theorem execute_at_most_once_raced :
    ∃ after, (Sample.service none).system.run (ServiceConfig.idle {}) Sample.raced = some after ∧
      after.world.executions = [Sample.key] ∧ after.world.executions.count Sample.key ≤ 1 := by
  have ran : ((Sample.service none).system.run (ServiceConfig.idle {}) Sample.raced).map
      (fun after => after.world.executions) = some [Sample.key] := by decide +kernel
  obtain ⟨after, reached, executed⟩ := Option.map_eq_some_iff.mp ran
  exact ⟨after, reached, executed, execute_at_most_once _ rfl reached _⟩

/-- A process of a worker in dry run, while no close request is given a tick for a
position that the terminal has just reported. -/
def unfound : Discipline Effect Effect.Reply PyError ServiceRequest Bool where
  initial := fun _ => false
  allowed := fun _ effect => match effect with
    | .orderSend _ => False
    | _ => True
  assumed := fun found effect reply => match effect, reply with
    | .symbolInfoTick _, .ok (some _) => found = false
    | _, _ => True
  advance := fun found effect reply => match effect, reply with
    | .positionsGet (some _), .ok (some (_ :: _)) => true
    | .positionsGet (some _), _ => false
    | _, _ => found

def Effect.SendsNothing : Effect → Prop
  | .orderSend _ => False
  | .positionsGet (some _) => False
  | _ => True

theorem Effect.Routine.sendsNothing {effect : Effect} (routine : effect.Routine) :
    effect.SendsNothing := by
  cases effect with
  | positionsGet ticket => cases ticket <;> trivial
  | _ => trivial

theorem unfound_inert {found : Bool} (effect : Effect) (nothing : effect.SendsNothing) :
    unfound.allowed found effect ∧
      ∀ reply, unfound.assumed found effect reply → unfound.advance found effect reply = found := by
  cases effect with
  | orderSend request => exact absurd nothing id
  | positionsGet ticket =>
      cases ticket with
      | none => exact ⟨trivial, fun _ _ => rfl⟩
      | some ticket => exact absurd nothing id
  | _ => exact ⟨trivial, fun _ _ => rfl⟩

theorem unfound_of_uses {α : Type} {found : Bool} {program : Execution α}
    (used : program.Uses Effect.SendsNothing) :
    unfound.wp found program (fun _ _ => True) (fun _ _ => True) :=
  Discipline.wp_mono (Discipline.wp_of_uses used unfound_inert) (fun _ _ _ => trivial)
    (fun _ _ _ => trivial)

theorem drain_sendsNothing {service : ExecutionService}
    (dry : service.settings.dryRunMode = true) :
    (drain service).Uses Effect.SendsNothing := by
  have executed : ∀ order, (service.executor.execute order).Uses Effect.SendsNothing := by
    intro order
    have dryExecutor : service.executor.settings.dryRunMode = true := dry
    rw [MT5Executor.execute, if_pos dryExecutor]
    exact executeDryRun_uses trivial trivial
  exact drain_uses (fun _ => Effect.Routine.sendsNothing) (fun _ => trivial) (fun _ => trivial)
    executed

theorem closePosition_unfound (executor : MT5Executor) (symbol : String) (ticket : ℤ)
    (volume : ℚ) (found : Bool) :
    unfound.wp found (executor.closePosition symbol ticket volume)
      (fun _ _ => True) (fun _ _ => True) := by
  refine Discipline.wp_seq _ (unfound_of_uses (module_uses executor)) fun current mt5 _ => ?_
  rw [Discipline.wp_bind, Discipline.wp_perform]
  refine ⟨trivial, fun answered _ => ?_, fun _ _ => trivial⟩
  rcases answered with _ | (_ | ⟨position, others⟩)
  · trivial
  · trivial
  · -- The position is open, so the tick below is refused and the request is never built.
    have ticked : unfound.wp true (executor.tick symbol) (fun _ _ => False) fun _ _ => True := by
      refine Discipline.wp_seq (fun current _ => current = true) ?_ ?_
      · exact Discipline.wp_mono (Discipline.wp_of_uses (module_uses executor) unfound_inert)
          (fun _ _ same => same) (fun _ _ _ => trivial)
      · rintro current _ rfl
        rw [Discipline.wp_bind, Discipline.wp_perform]
        refine ⟨trivial, fun answered given => ?_, fun _ _ => trivial⟩
        cases answered with
        | none => trivial
        | some tick => simp [unfound] at given
    exact Discipline.wp_seq _ ticked fun _ _ impossible => impossible.elim

theorem entry_unfound {service : ExecutionService} (dry : service.settings.dryRunMode = true)
    (request : ServiceRequest) :
    unfound.wp false (service.entry request) (fun _ _ => True) (fun _ _ => True) := by
  cases request with
  | ensureGroup => exact unfound_of_uses (ensureGroup_uses trivial)
  | drain => exact unfound_of_uses (drain_sendsNothing dry)
  | sweep =>
      exact unfound_of_uses ((runOnce_uses service).mono fun _ swept =>
        swept.routine.sendsNothing)
  | close ticket =>
      refine Discipline.wp_seq (fun _ _ => True) ?_ fun _ _ _ => trivial
      refine Discipline.wp_seq _ (unfound_of_uses (Prog.uses_perform trivial)) ?_
      intro current found _
      cases found with
      | none => trivial
      | some trade =>
          refine Discipline.wp_seq _ (closePosition_unfound _ _ _ _ current) ?_
          intro after outcome _
          dsimp only
          split
          · exact unfound_of_uses
              (Prog.uses_bind (closeByTicket_uses trivial fun _ => trivial) fun _ => trivial)
          · exact unfound_of_uses (Prog.uses_bind (audit_uses trivial) fun _ => trivial)

theorem apply_orderSends (world : World) {effect : Effect}
    (silent : ∀ request, effect ≠ .orderSend request) :
    (world.apply effect).orderSends = world.orderSends := by
  cases effect with
  | orderSend request => exact absurd rfl (silent request)
  | _ => rfl

section Interleavings

variable {Pid : Type} [DecidableEq Pid]

theorem unfound_maintains {service : ExecutionService}
    (dry : service.settings.dryRunMode = true) :
    unfound.Maintains service.system
      (fun world (_ : Pid → Option Bool) => world.orderSends = []) where
  follows := entry_unfound dry
  start _ _ _ _ none _ _ := none
  finish _ _ _ _ none _ _ := none
  fail _ _ _ _ _ none _ _ := none
  crash _ _ _ _ none _ _ := none
  environment world _ event after none happened := by
    rw [(environment_keeps happened).2.2, none]
  answer world _ pid found effect reply after none _ allowed _ _ answered := by
    have silent : ∀ request, effect ≠ .orderSend request := by
      rintro request rfl
      exact allowed
    rcases World.answer_eq answered with same | applied
    · rw [same, none]
    · rw [applied, apply_orderSends world silent, none]

/-- In dry run no order reaches the terminal, in any run in which no close request gets
a tick for a position that the terminal reports under the ticket of an open trade. -/
theorem dryRun_sends_nothing {service : ExecutionService} {world : World}
    {trace : List (ServiceLabel Pid)} {after : ServiceConfig Pid}
    (dry : service.settings.dryRunMode = true) (fresh : world.orderSends = [])
    (assumed : unfound.Assumes (fun _ => none) trace)
    (ran : service.system.run (ServiceConfig.idle world) trace = some after) :
    after.world.orderSends = [] :=
  ((unfound_maintains dry).run (Discipline.matches_initial world) fresh assumed ran).2

end Interleavings

namespace Sample

def view : ResultView where
  accepted := true
  retcode := some 10009
  retcodeDescription := some "DONE (dry_run)"
  ticket := some 1700000000
  price := some 1006

def filling {Pid : Type} (pid : Pid) : List (ServiceLabel Pid) :=
  [.environment (.publish ⟨"1-0", fields⟩),
   .start pid .drain,
   .answer pid (.xreadgroup 8) (.ok [⟨"1-0", fields⟩]),
   .answer pid (.redisGet (resultKey key)) (.ok none),
   .answer pid (.insertPending row) (.ok 1),
   .answer pid (.startExecute key) (.ok ()),
   .answer pid (.symbolInfoTick "Volatility 75 Index") (.ok (some ⟨1005, 1006⟩)),
   .answer pid .time (.ok 1700000000),
   .answer pid (.setStatus key ⟨.filled, some 10009, some "DONE (dry_run)", some 1700000000,
     some 1006⟩) (.ok ()),
   .answer pid (.xaddFilled ⟨order, view, 1700000000, 1006, "c-1"⟩) (.ok ()),
   .answer pid (.redisSet (resultKey key) view) (.ok ()),
   .answer pid (.audit ⟨"execution-service", "order.executed", key, "ok", view, none⟩) (.ok ()),
   .answer pid (.xack "1-0") (.ok ()),
   .finish pid]

def filledRow : TradeRow := { row with
  status := .filled
  retcode := some 10009
  retcodeDesc := some "DONE (dry_run)"
  brokerTicket := some 1700000000
  entryPrice := 1006 }

def closing (positions : List Position) : List (ServiceLabel ℕ) :=
  [.start 0 (.close 1700000000),
   .answer 0 (.tradeByTicket 1700000000) (.ok (some filledRow)),
   .answer 0 (.positionsGet (some 1700000000)) (.ok (some positions))]

def closeRequest : SendRequest where
  action := 1
  symbol := "Volatility 75 Index"
  volume := 1 / 2
  type := 1
  price := 1005
  position := some 1700000000
  deviation := 50
  magic := 750101
  comment := "vix75-close:1700000000"
  typeFilling := 1

end Sample

theorem dryRun_sends_nothing_unreported :
    ∃ after, (Sample.service (some {})).system.run (ServiceConfig.idle {})
        (Sample.filling 0 ++ Sample.closing []) = some after ∧ after.world.orderSends = [] := by
  have ran : ((Sample.service (some {})).system.run (ServiceConfig.idle {})
      (Sample.filling 0 ++ Sample.closing [])).isSome := by decide +kernel
  obtain ⟨after, reached⟩ := Option.isSome_iff_exists.mp ran
  refine ⟨after, reached, dryRun_sends_nothing rfl rfl ?_ reached⟩
  refine ⟨trivial, trivial, ?_⟩
  iterate 4 refine ⟨fun _ _ => trivial, ?_⟩
  refine ⟨fun found current => ?_, ?_⟩
  · exact (Option.some.inj current).symm
  · iterate 6 refine ⟨fun _ _ => trivial, ?_⟩
    exact ⟨trivial, trivial, fun _ _ => trivial, fun _ _ => trivial, trivial⟩

/-- The mock ticket of a dry-run fill may be a position of the broker; the close request
then sends a live order. -/
theorem dryRun_sends_order :
    ¬ ∀ (service : ExecutionService) (trace : List (ServiceLabel ℕ)) (world : World)
        (after : ServiceConfig ℕ), service.settings.dryRunMode = true → world.orderSends = [] →
        service.system.run (ServiceConfig.idle world) trace = some after →
        after.world.orderSends = [] := by
  intro isolated
  let trace : List (ServiceLabel ℕ) :=
    Sample.filling 0 ++ Sample.closing [⟨1700000000, none, some 0⟩] ++
      [.answer 0 (.symbolInfoTick "Volatility 75 Index") (.ok (some ⟨1005, 1006⟩)),
       .answer 0 (.orderSend Sample.closeRequest) (.ok (some { retcode := 10009 }))]
  have ran : ((Sample.service (some {})).system.run (ServiceConfig.idle {}) trace).map
      (fun after => after.world.orderSends) = some [Sample.closeRequest] := by decide +kernel
  obtain ⟨after, reached, sent⟩ := Option.map_eq_some_iff.mp ran
  have silent := isolated _ trace _ after rfl rfl reached
  rw [silent] at sent
  simp at sent

end Vix75
