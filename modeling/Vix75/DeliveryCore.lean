import Vix75.ExecutionChecks

/-! What a worker of the execution consumer owes to the entries it was given, and that its
programs pay it. -/

namespace Vix75

open EffectProgram

inductive Stage where
  | looking
  | claimed (key : String)
  | recorded (key : String) (status : TradeStatus)

inductive Duty where
  | between
  | facing (message : Message) (stage : Stage) (rest : List Message)
  | settled (key : Option String) (rest : List Message)

namespace Duty

def pending : Duty → List Message
  | .between => []
  | .facing message _ rest => message :: rest
  | .settled _ rest => rest

def next : List Message → Duty
  | [] => .between
  | message :: rest => .facing message .looking rest

@[simp] theorem pending_next (messages : List Message) : (next messages).pending = messages := by
  cases messages <;> rfl

end Duty

/-- An entry whose handling needs no failing call: it parses or is malformed, its
signal id is a uuid, and outside dry run there is a terminal. -/
def ExecutionService.Sound (service : ExecutionService) (message : Message) : Prop :=
  match parseOrder service.codec message.fields with
  | .error _ => False
  | .ok none => True
  | .ok (some order) => (∃ id, uuidFromHex order.signalId = .ok id) ∧
      (service.settings.dryRunMode = true ∨ service.mt5.isSome)

def ExecutionService.Requests (service : ExecutionService) (message : Message) (key : String) :
    Prop :=
  ∃ order, parseOrder service.codec message.fields = .ok (some order) ∧
    order.idempotencyKey = key

/-- The order of the writes about one entry; while a worker owes a decision, no call
that it makes fails and no tick is missing. -/
def deciding (service : ExecutionService) :
    Discipline Effect Effect.Reply PyError ServiceRequest Duty where
  initial := fun _ => .between
  allowed := fun duty effect => match effect, duty with
    | .xreadgroup _, .between => True
    | .xack id, .facing message .looking _ =>
        message.id = id ∧ parseOrder service.codec message.fields = .ok none
    | .xack _, .settled _ _ => True
    | .redisGet wanted, .facing message .looking _ =>
        ∃ key, wanted = resultKey key ∧ service.Requests message key
    | .redisSet wanted _, .settled (some key) _ => wanted = resultKey key
    | .insertPending row, .facing message .looking _ =>
        service.Requests message row.idempotencyKey
    | .setStatus wanted update, .facing _ (.claimed key) _ =>
        wanted = key ∧ (update.status = .filled ∨ update.status = .rejected)
    | .xaddFilled entry, .facing message (.recorded key .filled) _ =>
        entry.order.idempotencyKey = key ∧ service.Requests message key
    | .xaddRejected entry, .facing message (.recorded key .rejected) _ =>
        entry.idempotencyKey = key ∧ service.Requests message key
    | .xreadgroup _, _ | .xack _, _ | .redisGet _, _ | .redisSet _ _, _ | .insertPending _, _
    | .setStatus _ _, _ | .xaddFilled _, _ | .xaddRejected _, _ => False
    | _, _ => True
  assumed := fun duty effect reply => match effect, reply with
    | .xreadgroup _, .ok messages => ∀ message ∈ messages, service.Sound message
    | .xreadgroup _, .error error => error.applied = false
    | .symbolInfoTick _, .ok none => duty.pending = []
    | .audit _, .error (.psycopgError _) => True
    | _, .error _ => duty.pending = []
    | _, .ok _ => True
  advance := fun duty effect reply => match effect, reply, duty with
    | .xreadgroup _, .ok messages, _ => .next messages
    | .xack _, .ok _, .facing _ _ rest => .next rest
    | .xack _, .ok _, .settled _ rest => .next rest
    | .redisGet _, .ok (some _), .facing _ _ rest => .settled none rest
    | .insertPending row, .ok rowcount, .facing message _ rest =>
        if rowcount = 1 then .facing message (.claimed row.idempotencyKey) rest
        else .settled none rest
    | .setStatus key update, .ok _, .facing message _ rest =>
        .facing message (.recorded key update.status) rest
    | .xaddFilled entry, .ok _, .facing _ _ rest =>
        .settled (some entry.order.idempotencyKey) rest
    | .xaddRejected entry, .ok _, .facing _ _ rest =>
        .settled (some entry.idempotencyKey) rest
    | _, _, _ => duty
  finished := fun duty => duty.pending = []
  failed := fun duty _ => duty.pending = []
  crashes := fun duty => duty.pending = []

def Effect.Undeciding : Effect → Prop
  | .xreadgroup _ => False
  | .xack _ => False
  | .redisGet _ => False
  | .redisSet _ _ => False
  | .insertPending _ => False
  | .setStatus _ _ => False
  | .xaddFilled _ => False
  | .xaddRejected _ => False
  | _ => True

theorem Effect.Sweeping.undeciding {effect : Effect} (sweeping : effect.Sweeping) :
    effect.Undeciding := by
  cases effect <;> trivial

section Follows

variable {service : ExecutionService}

theorem deciding_inert {duty : Duty} (effect : Effect) (undeciding : effect.Undeciding) :
    (deciding service).allowed duty effect ∧ ∀ reply,
      (deciding service).assumed duty effect reply →
        (deciding service).advance duty effect reply = duty := by
  cases effect <;> first | exact absurd undeciding id | exact ⟨trivial, fun _ _ => rfl⟩

theorem deciding_of_uses {α : Type} {program : Execution α} {duty : Duty}
    (used : program.Uses Effect.Undeciding) (free : duty.pending = []) :
    (deciding service).wp duty program (fun after _ => after = duty)
      (fun after _ => after.pending = []) := by
  refine Discipline.wp_mono (Discipline.wp_of_uses used deciding_inert) (fun _ _ same => same) ?_
  rintro after _ rfl
  exact free

theorem deciding_await {α : Type} {duty : Duty} {effect : Effect}
    {rest : effect.Reply → Execution α} {returned : Duty → α → Prop}
    (allowed : (deciding service).allowed duty effect)
    (fails : ∀ error, (deciding service).assumed duty effect (.error error) →
      ((deciding service).advance duty effect (.error error)).pending = [])
    (answers : ∀ value, (deciding service).assumed duty effect (.ok value) →
      (deciding service).wp ((deciding service).advance duty effect (.ok value)) (rest value)
        returned (fun after _ => after.pending = [])) :
    (deciding service).wp duty (await effect >>= rest) returned
      (fun after _ => after.pending = []) := by
  rw [Discipline.wp_bind, Discipline.wp_perform]
  exact ⟨allowed, answers, fails⟩

theorem module_decides {executor : MT5Executor} {duty : Duty} (present : executor.mt5.isSome) :
    (deciding service).wp duty executor.module (fun after _ => after = duty)
      (fun after _ => after.pending = []) := by
  obtain ⟨mt5, found⟩ := Option.isSome_iff_exists.mp present
  rw [MT5Executor.module, found]
  rfl

theorem tick_decides {executor : MT5Executor} {duty : Duty} {symbol : String}
    (present : executor.mt5.isSome) (owed : duty.pending ≠ []) :
    (deciding service).wp duty (executor.tick symbol) (fun after _ => after = duty)
      (fun after _ => after.pending = []) := by
  refine Discipline.wp_seq _ (module_decides present) ?_
  rintro current mt5 rfl
  refine deciding_await trivial (fun _ held => held) fun answered given => ?_
  cases answered with
  | none => exact absurd given owed
  | some tick => rfl

theorem sendLoop_decides {duty : Duty} {order : OrderRequest ℚ} {request : SendRequest}
    (rounds : ℕ) (state : MT5Executor.SendState) :
    (deciding service).wp duty (MT5Executor.sendLoop order request rounds state)
      (fun after _ => after = duty) (fun after _ => after.pending = []) := by
  induction rounds generalizing state with
  | zero => rfl
  | succ rounds ih =>
      have backOff : ∀ retry : MT5Executor.SendState,
          (deciding service).wp duty
            (if state.attempts + 1 < maxAttempts then do
              await (.sleep retry.delay)
              MT5Executor.sendLoop order request rounds { retry with delay := retry.delay * 2 }
            else MT5Executor.sendLoop order request rounds retry : Execution ExecOutcome)
            (fun after _ => after = duty) (fun after _ => after.pending = []) := by
        intro retry
        split
        · exact deciding_await trivial (fun _ held => held) fun _ _ => ih _
        · exact ih _
      refine deciding_await trivial (fun _ held => held) fun answered _ => ?_
      cases answered with
      | none => exact deciding_await trivial (fun _ held => held) fun _ _ => backOff _
      | some result =>
          dsimp only
          split
          · rfl
          · split
            · exact deciding_await trivial (fun _ held => held) fun _ _ => rfl
            · exact deciding_await trivial (fun _ held => held) fun _ _ => backOff _

theorem execute_decides {executor : MT5Executor} {duty : Duty} {order : OrderRequest ℚ}
    (available : executor.settings.dryRunMode = true ∨ executor.mt5.isSome)
    (owed : duty.pending ≠ []) :
    (deciding service).wp duty (executor.execute order) (fun after _ => after = duty)
      (fun after _ => after.pending = []) := by
  unfold MT5Executor.execute
  split
  · unfold MT5Executor.executeDryRun
    split
    · rename_i present
      refine Discipline.wp_seq _ (tick_decides present owed) ?_
      rintro current tick rfl
      exact deciding_await trivial (fun _ held => held) fun _ _ => rfl
    · exact deciding_await trivial (fun _ held => held) fun _ _ => rfl
  · rename_i live
    have present : executor.mt5.isSome := available.resolve_left live
    refine Discipline.wp_seq (fun after _ => after = duty) ?_ ?_
    · refine Discipline.wp_seq _ (module_decides present) ?_
      rintro current mt5 rfl
      refine Discipline.wp_seq _ (tick_decides present owed) ?_
      rintro current tick rfl
      rfl
    · rintro current request rfl
      refine Discipline.wp_seq _ (module_decides present) ?_
      rintro current mt5 rfl
      exact sendLoop_decides _ _

theorem settle_decides {message : Message} (rest : List Message) {order : OrderRequest ℚ}
    (requested : service.Requests message order.idempotencyKey) (outcome : ExecOutcome)
    (correlationId : String) :
    (deciding service).wp (.facing message (.claimed order.idempotencyKey) rest)
      (if outcome.result.accepted then settleFilled order outcome.result correlationId
        else settleRejected order outcome correlationId)
      (fun after _ => after = .settled (some order.idempotencyKey) rest)
      (fun after _ => after.pending = []) := by
  split
  · refine deciding_await ⟨rfl, .inl rfl⟩ (fun _ held => held) fun _ _ => ?_
    rw [Discipline.wp_perform]
    exact ⟨⟨rfl, requested⟩, fun _ _ => rfl, fun _ held => held⟩
  · refine deciding_await ⟨rfl, .inr rfl⟩ (fun _ held => held) fun _ _ => ?_
    rw [Discipline.wp_perform]
    exact ⟨⟨rfl, requested⟩, fun _ _ => rfl, fun _ held => held⟩

theorem audit_decides {duty : Duty} (entry : AuditEntry) :
    (deciding service).wp duty (audit entry) (fun after _ => after = duty)
      (fun after _ => after.pending = []) := by
  unfold audit
  rw [Discipline.wp_rescue, Discipline.wp_perform]
  refine ⟨trivial, fun _ _ => rfl, fun error held => ?_⟩
  cases error with
  | psycopgError applied => rfl
  | _ => exact held

theorem executeOrder_decides {message : Message} (rest : List Message) {order : OrderRequest ℚ}
    (available : service.settings.dryRunMode = true ∨ service.mt5.isSome)
    (requested : service.Requests message order.idempotencyKey) (correlationId : String) :
    (deciding service).wp (.facing message (.claimed order.idempotencyKey) rest)
      (executeOrder service order correlationId)
      (fun after _ => after = .settled (some order.idempotencyKey) rest)
      (fun after _ => after.pending = []) := by
  refine deciding_await trivial (fun _ held => held) fun _ _ => ?_
  refine Discipline.wp_seq _ (execute_decides available (List.cons_ne_nil _ _)) ?_
  rintro current outcome rfl
  have recorded : (deciding service).wp (.settled (some order.idempotencyKey) rest)
      (do
        await (.redisSet (resultKey order.idempotencyKey) (resultView outcome.result))
        audit {
          actor := "execution-service"
          action := if outcome.result.accepted then "order.executed" else "order.failed"
          subject := order.idempotencyKey
          outcome := if outcome.result.accepted then "ok" else "error"
          payload := resultView outcome.result
          error := if outcome.result.accepted then none else outcome.lastError })
      (fun after _ => after = .settled (some order.idempotencyKey) rest)
      (fun after _ => after.pending = []) :=
    deciding_await rfl (fun _ held => held) fun _ _ => audit_decides _
  have settled := settle_decides rest requested outcome correlationId
  dsimp only
  split
  · rename_i accepted
    simp only [accepted, ↓reduceIte] at settled recorded
    refine Discipline.wp_seq _ settled ?_
    rintro current _ rfl
    simpa [accepted] using recorded
  · rename_i refused
    simp only [refused, Bool.false_eq_true, ↓reduceIte] at settled recorded
    refine Discipline.wp_seq _ settled ?_
    rintro current _ rfl
    simpa [refused] using recorded

theorem handleOrder_decides {message : Message} {rest : List Message} {order : OrderRequest ℚ}
    (parsed : parseOrder service.codec message.fields = .ok (some order))
    (sound : service.Sound message) (correlationId : String) :
    (deciding service).wp (.facing message .looking rest)
      (handleOrder service order correlationId)
      (fun after _ => ∃ key, after = .settled key rest) (fun after _ => after.pending = []) := by
  have requested : service.Requests message order.idempotencyKey := ⟨order, parsed, rfl⟩
  simp only [ExecutionService.Sound, parsed] at sound
  obtain ⟨⟨id, uuid⟩, available⟩ := sound
  refine deciding_await ⟨_, rfl, requested⟩ (fun _ held => held) fun cached _ => ?_
  cases cached with
  | some view => exact ⟨none, rfl⟩
  | none =>
      dsimp only
      rw [insertPending, uuid, Discipline.wp_bind]
      refine deciding_await requested (fun _ held => held) fun rowcount _ => ?_
      by_cases won : rowcount = 1
      · subst won
        simp only [decide_true, Discipline.wp_done, ↓reduceIte]
        refine Discipline.wp_mono (executeOrder_decides rest available requested
          correlationId) ?_ (fun _ _ held => held)
        rintro after _ rfl
        exact ⟨_, rfl⟩
      · simp only [deciding, won, ↓reduceIte, Discipline.wp_done, decide_false]
        exact ⟨none, rfl⟩

theorem handleMessage_decides {message : Message} {rest : List Message}
    (sound : service.Sound message) :
    (deciding service).wp (.facing message .looking rest) (handleMessage service message)
      (fun after _ => after = .next rest) (fun after _ => after.pending = []) := by
  have correlated : (deciding service).wp (.facing message .looking rest)
      (getOrCreateCorrelationId message.fields)
      (fun after _ => after = .facing message .looking rest)
      (fun after _ => after.pending = []) := by
    unfold getOrCreateCorrelationId
    split
    · rfl
    · rw [Discipline.wp_perform]
      exact ⟨trivial, fun _ _ => rfl, fun _ held => held⟩
  unfold handleMessage handle
  rw [Discipline.wp_bind]
  refine Discipline.wp_seq _ correlated ?_
  rintro current correlationId rfl
  split
  · rename_i error parsed
    simp [ExecutionService.Sound, parsed] at sound
  · rename_i malformed
    rw [Discipline.wp_done, Discipline.wp_perform]
    exact ⟨⟨rfl, malformed⟩, fun _ _ => rfl, fun _ held => held⟩
  · rename_i order parsed
    refine Discipline.wp_mono (handleOrder_decides parsed sound correlationId) ?_
      (fun _ _ held => held)
    rintro after _ ⟨key, rfl⟩
    rw [Discipline.wp_perform]
    exact ⟨trivial, fun _ _ => rfl, fun _ held => held⟩

theorem readBatch_decides :
    (deciding service).wp .between readBatch
      (fun after messages => after = .next messages ∧ ∀ message ∈ messages, service.Sound message)
      (fun after _ => after.pending = []) := by
  have quiet : ∀ program : Execution (List Message), program.Uses Effect.Undeciding →
      (deciding service).wp .between program (fun after _ => after = .between)
        (fun after _ => after.pending = []) := fun program used => deciding_of_uses used rfl
  unfold readBatch
  rw [Discipline.wp_rescue, Discipline.wp_perform]
  refine ⟨trivial, fun messages sound => ⟨rfl, sound⟩, fun error _ => ?_⟩
  change (deciding service).wp .between _ _ _
  cases error with
  | noGroup =>
      refine Discipline.wp_seq _ (deciding_of_uses (ensureGroup_uses trivial) rfl) ?_
      rintro current _ rfl
      exact ⟨rfl, by simp⟩
  | _ => exact deciding_await trivial (fun _ held => held) fun _ _ => ⟨rfl, by simp⟩

theorem entry_decides (service : ExecutionService) (request : ServiceRequest) :
    (deciding service).wp .between (service.entry request)
      (fun after _ => after.pending = []) (fun after _ => after.pending = []) := by
  have quiet : ∀ {program : Execution Unit}, program.Uses Effect.Undeciding →
      (deciding service).wp .between program (fun after _ => after.pending = [])
        (fun after _ => after.pending = []) := by
    intro program used
    refine Discipline.wp_mono (deciding_of_uses used rfl) ?_ (fun _ _ held => held)
    rintro after _ rfl
    rfl
  cases request with
  | ensureGroup => exact quiet (ensureGroup_uses trivial)
  | sweep => exact quiet ((runOnce_uses service).mono fun _ => Effect.Sweeping.undeciding)
  | close ticket =>
      refine quiet (Prog.uses_bind ?_ fun _ => trivial)
      exact closeRoute_uses trivial trivial (fun _ => trivial) (fun _ => trivial) trivial trivial
        (fun _ => trivial) fun _ => trivial
  | drain =>
      refine Discipline.wp_seq _ readBatch_decides fun current messages batch => ?_
      have looped : (deciding service).wp current
          (Prog.forEach messages (handleMessage service))
          (fun after _ => after = .next [] ∧ ∀ message ∈ [], service.Sound message)
          (fun after _ => after.pending = []) := by
        refine Discipline.wp_forEach (fun (rest : List Message) duty =>
          duty = Duty.next rest ∧ ∀ message ∈ rest, service.Sound message) batch ?_
        rintro message rest current ⟨rfl, sound⟩
        refine Discipline.wp_mono (handleMessage_decides (sound message (by simp))) ?_
          (fun _ _ held => held)
        rintro after _ rfl
        exact ⟨rfl, fun other member => sound other (by simp [member])⟩
      refine Discipline.wp_mono looped ?_ (fun _ _ held => held)
      rintro after _ ⟨rfl, _⟩
      rfl

end Follows

end Vix75
