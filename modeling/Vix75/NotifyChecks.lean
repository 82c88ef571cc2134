import Mathlib.Data.List.TakeWhile
import Vix75.NotifyCore
import Vix75.ProgramRuns
import Vix75.WireChecks

/-! The audit trail of notify-service over every run: which entries are recorded and
acknowledged, and which one ends the consumer. -/

namespace Vix75

open EffectProgram

theorem TextFormats.names_streamFields {formats : TextFormats} {uuid : String}
    {payload : List (String × Json)} {correlationId : Option String} {fields : Fields}
    (written : formats.streamFields uuid payload correlationId = some fields)
    (other : "correlation_id" ∉ payload.map Prod.fst) :
    fields.map Prod.fst = payload.map Prod.fst ++ ["correlation_id"] := by
  simp only [streamFields, Option.bind_eq_bind, Option.bind_eq_some_iff, Option.some.injEq]
    at written
  obtain ⟨texts, written, rfl⟩ := written
  have keys := keys_of_texts (mapM_eq_some_iff.mp written)
  have fresh : Fields.get? texts "correlation_id" = none := by
    rw [Fields.get?, lookup_eq_none_iff_keys, keys]
    exact other
  rw [Fields.set, fresh, Option.isSome_none, if_neg (by simp), List.map_append, keys,
    List.map_singleton]

namespace Notifying

theorem Published.layout {formats : TextFormats} {kind : LifecycleStream} {fields : Fields}
    (published : Published formats kind fields) : fields.map Prod.fst = kind.names := by
  cases published with
  | signalGenerated written =>
      obtain ⟨blob, _, written⟩ := Option.bind_eq_some_iff.mp written
      exact TextFormats.names_streamFields written (by simp)
  | signalRejected written =>
      exact TextFormats.names_streamFields written (by simp [SignalRejection.payload])
  | orderFilled written =>
      obtain ⟨blob, _, written⟩ := Option.bind_eq_some_iff.mp written
      exact TextFormats.names_streamFields written (by simp [FilledEntry.payload])
  | orderRejected written =>
      exact TextFormats.names_streamFields written (by simp [RejectedEntry.payload])
  | orderClosed written =>
      exact TextFormats.names_streamFields written (by simp [ClosedEntry.payload])

namespace LifecycleStream

def outcome : LifecycleStream → String
  | .signalRejected => "rejected"
  | .orderRejected => "error"
  | _ => "ok"

def subjectField : LifecycleStream → Option String
  | .signalGenerated => none
  | .signalRejected => some "signal_id"
  | _ => some "idempotency_key"

def recordedFields : LifecycleStream → List String
  | .signalGenerated => ["correlation_id"]
  | .signalRejected => ["rejected_reason"]
  | .orderFilled => ["ticket"]
  | .orderRejected => ["rejected_reason", "detail"]
  | .orderClosed => ["pnl", "ticket"]

end LifecycleStream

/-- An entry with the fields that its stream's services write, whatever their texts. -/
structure LifecycleEntry (kind : LifecycleStream) where
  id : String
  fields : Fields
  layout : fields.map Prod.fst = kind.names

namespace LifecycleEntry

variable {kind : LifecycleStream} (entry : LifecycleEntry kind)

def message : RawMessage where
  id := .str entry.id
  fields := entry.fields.map fun field => (.str field.1, .str field.2)

def named : Bool :=
  ["signal_id", "idempotency_key"].any fun name => (entry.fields.get? name).any (· ≠ "")

def row : AuditRow where
  actor := "notify-service"
  action := kind.value
  subject := (kind.subjectField.bind entry.fields.get?).getD entry.id
  outcome := kind.outcome
  payload := kind.recordedFields.map fun name => (name, entry.fields.get? name)

theorem row_eq {field subject : String} (known : kind.subjectField = some field)
    (found : entry.fields.get? field = some subject) : entry.row =
      ⟨"notify-service", kind.value, subject, kind.outcome,
        kind.recordedFields.map fun name => (name, entry.fields.get? name)⟩ := by
  simp [row, known, found]

theorem decode_message : decode entry.message.fields = entry.fields :=
  (List.map_map ..).trans (List.map_id _)

theorem absent (name : String) (other : name ∉ kind.names) : entry.fields.get? name = none :=
  lookup_eq_none_iff_keys.mpr (entry.layout ▸ other)

theorem present (name : String) (known : name ∈ kind.names) :
    ∃ text, entry.fields.get? name = some text := by
  rw [← Option.ne_none_iff_exists']
  exact fun missing => lookup_eq_none_iff_keys.mp missing (entry.layout ▸ known)

theorem generated_unnamed (entry : LifecycleEntry .signalGenerated) : entry.named = false := by
  simp [named, entry.absent "signal_id" (by decide), entry.absent "idempotency_key" (by decide)]

theorem subjectOf_named (named : entry.named = true) :
    ∃ subject, subjectOf entry.fields (.str entry.id) = .ok subject ∧
      (entry.fields.get? "idempotency_key" = none →
        entry.fields.get? "signal_id" = some subject) := by
  simp only [LifecycleEntry.named, List.any_cons, List.any_nil, Bool.or_false, Bool.or_eq_true]
    at named
  unfold subjectOf
  rcases signal : entry.fields.get? "signal_id" with _ | signalId
  · rcases keyed : entry.fields.get? "idempotency_key" with _ | key
    · simp [signal, keyed] at named
    · have nonempty : key ≠ "" := by simpa [signal, keyed] using named
      exact ⟨key, by simp [Option.filter, nonempty], by simp⟩
  · by_cases empty : signalId = ""
    · rcases keyed : entry.fields.get? "idempotency_key" with _ | key
      · simp [signal, keyed, empty] at named
      · have nonempty : key ≠ "" := by simpa [signal, keyed, empty] using named
        exact ⟨key, by simp [Option.filter, empty, nonempty], by simp⟩
    · exact ⟨signalId, by simp [Option.filter, empty], fun _ => rfl⟩

theorem subjectOf_unnamed (unnamed : entry.named = false) :
    ∃ error, subjectOf entry.fields (.str entry.id) = .error error := by
  simp only [LifecycleEntry.named, List.any_cons, List.any_nil, Bool.or_false,
    Bool.or_eq_false_iff] at unnamed
  obtain ⟨signal, keyed⟩ := unnamed
  have none (name : String) (empty : (entry.fields.get? name).any (· ≠ "") = false) :
      (entry.fields.get? name).filter (· ≠ "") = none := by
    rcases found : entry.fields.get? name with _ | text
    · rfl
    · simpa [Option.filter, found] using empty
  rw [subjectOf, none _ signal, none _ keyed]
  exact ⟨_, rfl⟩

end LifecycleEntry

abbrev Delivery := (kind : LifecycleStream) × LifecycleEntry kind

abbrev Batch := List ((kind : LifecycleStream) × List (LifecycleEntry kind))

namespace Batch

def response (batch : Batch) : List (String × List RawMessage) :=
  batch.map fun group => (group.1.value, group.2.map LifecycleEntry.message)

def deliveries (batch : Batch) : List Delivery :=
  batch.flatMap fun group => group.2.map (Sigma.mk group.1)

end Batch

structure NotifyWorld where
  delivered : List Delivery := []
  acked : List (String × Raw) := []
  audit : List AuditRow := []

namespace NotifyWorld

variable (accepts : AuditRow → Bool) (world : NotifyWorld)

def deliver (batch : Batch) : NotifyWorld :=
  { world with delivered := world.delivered ++ batch.deliveries }

def log (row : AuditRow) : NotifyWorld :=
  if accepts row then { world with audit := world.audit ++ [row] } else world

def ack (stream : String) (messageId : Raw) : NotifyWorld :=
  { world with acked := world.acked ++ [(stream, messageId)] }

/-- Redis hands out any batch or fails to, and Telegram answers anything; the database takes the
rows that it accepts. -/
def Answers : NotifyWorld → (effect : NotifyEffect) → Except PyError effect.Reply →
    NotifyWorld → Prop
  | world, .xreadgroup count, .ok response, after => ∃ batch : Batch,
      (∀ group ∈ batch, group.2.length ≤ count) ∧ response = batch.response ∧
        after = world.deliver batch
  | world, .xreadgroup _, .error _, after => after = world
  | world, .xgroupCreate _, reply, after =>
      (reply = .ok () ∨ reply = .error .busyGroup) ∧ after = world
  | world, .xack stream messageId, reply, after =>
      reply = .ok () ∧ after = world.ack stream messageId
  | world, .insertAudit row, reply, after =>
      reply = (if accepts row then .ok () else .error (.psycopgError false)) ∧
        after = world.log accepts row
  | world, .sleep _, reply, after => reply = .ok () ∧ after = world
  | world, .uuid4, reply, after => (∃ id, reply = .ok id) ∧ after = world
  | world, .post _, reply, after => (∃ answer, reply = .ok answer) ∧ after = world

theorem answers_exist (effect : NotifyEffect) :
    ∃ reply after, Answers accepts world effect reply after := by
  cases effect with
  | xreadgroup count => exact ⟨.error .noGroup, world, rfl⟩
  | xgroupCreate stream => exact ⟨.ok (), world, .inl rfl, rfl⟩
  | xack stream messageId => exact ⟨_, _, rfl, rfl⟩
  | insertAudit row => exact ⟨_, _, rfl, rfl⟩
  | sleep seconds => exact ⟨_, _, rfl, rfl⟩
  | uuid4 => exact ⟨_, _, ⟨"", rfl⟩, rfl⟩
  | post request => exact ⟨_, _, ⟨.httpError, rfl⟩, rfl⟩

end NotifyWorld

open NotifyWorld

section Runs

variable (consumer : NotifyConsumer) {accepts : AuditRow → Bool}
  {world after : NotifyWorld}

theorem record_bind {event subject outcome : String} {payload : List (String × Option String)}
    {α : Type} {rest : Unit → Program α} {result : Except PyError α}
    (ran : Prog.Runs (Answers accepts) world (record event subject outcome payload >>= rest)
      result after) :
    Prog.Runs (Answers accepts)
      (world.log accepts ⟨"notify-service", event, subject, outcome, payload⟩) (rest ())
      result after := by
  have recorded {result : Except PyError Unit} {after : NotifyWorld}
      (wrote : Prog.Runs (Answers accepts) world (record event subject outcome payload)
        result after) : result = .ok () ∧
        after = world.log accepts ⟨"notify-service", event, subject, outcome, payload⟩ := by
    rcases Prog.runs_rescue.mp wrote with ⟨_, inserted, rfl⟩ | ⟨error, middle, tried, recovered⟩
    · exact ⟨rfl, (Prog.runs_perform.mp inserted).2⟩
    · obtain ⟨failed, rfl⟩ := Prog.runs_perform.mp tried
      split at failed
      · cases failed
      · cases failed
        exact recovered
  rcases Prog.runs_bind.mp ran with ⟨_, middle, first, later⟩ | ⟨_, failed, _⟩
  · obtain ⟨_, rfl⟩ := recorded first
    exact later
  · cases (recorded failed).1

theorem correlationId_quiet (decoded : Fields) :
    Prog.Quiet (Answers accepts) (getOrCreateCorrelationId decoded) := by
  unfold getOrCreateCorrelationId
  split
  · exact Prog.quiet_done _
  · exact Prog.quiet_perform fun _ _ _ answered =>
      ⟨_, answered.1.choose_spec, answered.2⟩

namespace NotifyConsumer

theorem send_quiet (text : String) : Prog.Quiet (Answers accepts) (consumer.send text) := by
  unfold send
  split
  · refine Prog.quiet_bind (Prog.quiet_perform fun _ _ _ answered =>
      ⟨_, answered.1.choose_spec, answered.2⟩) fun answer => ?_
    split <;> exact Prog.quiet_done _
  · exact Prog.quiet_done _

theorem alert_quiet {text : Except PyError String} (formatted : ∃ shown, text = .ok shown) :
    Prog.Quiet (Answers accepts) (consumer.alert text) := by
  obtain ⟨shown, rfl⟩ := formatted
  change Prog.Quiet _ (consumer.send shown >>= fun _ => Prog.done ())
  exact Prog.quiet_bind (consumer.send_quiet shown) fun _ => Prog.quiet_done ()

end NotifyConsumer

theorem payloadOf_lookup (decoded : Fields) (name : String) :
    (payloadOf decoded).lookup name = (decoded.get? name).map Json.str := by
  induction decoded with
  | nil => rfl
  | cons field rest ih =>
      rw [payloadOf, List.map_cons, List.lookup_cons, Fields.get?, List.lookup_cons]
      split
      · rfl
      · exact ih

theorem payloadOf_get (decoded : Fields) (name default : String) :
    (payloadOf decoded).get name default = .str ((decoded.get? name).getD default) := by
  rw [Payload.get, payloadOf_lookup]
  cases decoded.get? name <;> rfl

theorem payloadOf_either (decoded : Fields) (first second : String) :
    ∃ text, (payloadOf decoded).either first second = .str text := by
  have kept (name : String) : ((payloadOf decoded).lookup name).filter Json.truthy =
      ((decoded.get? name).filter (· ≠ "")).map Json.str := by
    rw [payloadOf_lookup, Option.filter_map]
    rfl
  rw [Payload.either, kept, kept]
  cases (decoded.get? first).filter (· ≠ "") with
  | some text => exact ⟨text, rfl⟩
  | none =>
      cases (decoded.get? second).filter (· ≠ "") with
      | some text => exact ⟨text, rfl⟩
      | none => exact ⟨"—", rfl⟩

namespace NotifyConsumer

theorem formatFilled_ok (decoded : Fields) :
    ∃ text, consumer.formatFilled (payloadOf decoded) = .ok text := by
  obtain ⟨fillPrice, shown⟩ := payloadOf_either decoded "fill_price" "entry"
  simp only [formatFilled, payloadOf_get, shown]
  exact ⟨_, rfl⟩

theorem formatRejected_ok (decoded : Fields) :
    ∃ text, consumer.formatRejected (payloadOf decoded) = .ok text := by
  simp only [formatRejected, payloadOf_get]
  exact ⟨_, rfl⟩

theorem formatClosed_ok {decoded : Fields} {pnl : String}
    (present : decoded.get? "pnl" = some pnl) :
    ∃ text, consumer.formatClosed (payloadOf decoded) = .ok text := by
  simp only [formatClosed, payloadOf_get, payloadOf_lookup, present]
  exact ⟨_, rfl⟩

end NotifyConsumer

namespace NotifyConsumer

theorem handle_unnamed {kind : LifecycleStream} {entry : LifecycleEntry kind}
    (unnamed : entry.named = false) {result : Except PyError Unit}
    (ran : Prog.Runs (Answers accepts) world
      (consumer.handle kind.value entry.message.id entry.message.fields) result after) :
    (∃ error, result = .error error) ∧ after = world := by
  obtain ⟨error, missing⟩ := entry.subjectOf_unnamed unnamed
  rw [handle, entry.decode_message] at ran
  obtain ⟨correlationId, ran⟩ := ran.bind_quiet (correlationId_quiet entry.fields)
  rw [LifecycleEntry.message, missing] at ran
  obtain ⟨rfl, rfl⟩ := ran
  exact ⟨⟨error, rfl⟩, rfl⟩

theorem handle_named {kind : LifecycleStream} {entry : LifecycleEntry kind}
    (named : entry.named = true) {result : Except PyError Unit}
    (ran : Prog.Runs (Answers accepts) world
      (consumer.handle kind.value entry.message.id entry.message.fields) result after) :
    result = .ok () ∧ after = world.log accepts entry.row := by
  obtain ⟨subject, found, unkeyed⟩ := entry.subjectOf_named named
  rw [handle, entry.decode_message] at ran
  obtain ⟨correlationId, ran⟩ := ran.bind_quiet (correlationId_quiet entry.fields)
  rw [LifecycleEntry.message, found, Prog.ofExcept_ok, Prog.done_bind] at ran
  cases kind with
  | signalGenerated =>
      rw [entry.generated_unnamed] at named
      cases named
  | signalRejected =>
      have quiet : Prog.Quiet (Answers accepts)
          (if consumer.alertRejections then
            consumer.alert (consumer.formatRejected (payloadOf entry.fields)) else .done ()) := by
        split
        · exact consumer.alert_quiet (consumer.formatRejected_ok _)
        · exact Prog.quiet_done ()
      obtain ⟨_, rfl, rfl⟩ := quiet _ _ _ (record_bind ran)
      have signal := unkeyed (entry.absent "idempotency_key" (by decide))
      rw [entry.row_eq rfl signal]
      exact ⟨rfl, rfl⟩
  | orderFilled =>
      have ran := record_bind ran
      obtain ⟨_, rfl, rfl⟩ := consumer.alert_quiet (consumer.formatFilled_ok _) _ _ _ ran
      obtain ⟨key, keyed⟩ := entry.present "idempotency_key" (by decide)
      rw [entry.row_eq rfl keyed, keyedSubject, keyed]
      exact ⟨rfl, rfl⟩
  | orderRejected =>
      have ran := record_bind ran
      obtain ⟨_, rfl, rfl⟩ := consumer.alert_quiet (consumer.formatRejected_ok _) _ _ _ ran
      obtain ⟨key, keyed⟩ := entry.present "idempotency_key" (by decide)
      rw [entry.row_eq rfl keyed, keyedSubject, keyed]
      exact ⟨rfl, rfl⟩
  | orderClosed =>
      have ran := record_bind ran
      obtain ⟨pnl, present⟩ := entry.present "pnl" (by decide)
      obtain ⟨_, rfl, rfl⟩ := consumer.alert_quiet (consumer.formatClosed_ok present) _ _ _ ran
      obtain ⟨key, keyed⟩ := entry.present "idempotency_key" (by decide)
      rw [entry.row_eq rfl keyed, keyedSubject, keyed]
      exact ⟨rfl, rfl⟩

end NotifyConsumer

namespace Delivery

def named (delivery : Delivery) : Bool := delivery.2.named

def row (delivery : Delivery) : AuditRow := delivery.2.row

def key (delivery : Delivery) : String × Raw := (delivery.1.value, .str delivery.2.id)

end Delivery

def NotifyWorld.settle (accepts : AuditRow → Bool) (world : NotifyWorld) (delivery : Delivery) :
    NotifyWorld :=
  (world.log accepts delivery.row).ack delivery.key.1 delivery.key.2

theorem settle_fold (accepts : AuditRow → Bool) (world : NotifyWorld)
    (deliveries : List Delivery) : deliveries.foldl (settle accepts) world = { world with
      audit := world.audit ++ (deliveries.map Delivery.row).filter accepts
      acked := world.acked ++ deliveries.map Delivery.key } := by
  induction deliveries generalizing world with
  | nil => simp
  | cons delivery rest ih =>
      rw [List.foldl_cons, ih, settle, log]
      split <;> simp [NotifyWorld.ack, *]

namespace NotifyConsumer

def work (delivery : Delivery) : Program Unit :=
  consumer.handleMessage delivery.1.value delivery.2.message

theorem forEach_response (batch : Batch) :
    (Prog.forEach batch.response fun group =>
      Prog.forEach group.2 (consumer.handleMessage group.1)) =
        Prog.forEach batch.deliveries consumer.work := by
  induction batch with
  | nil => rfl
  | cons group rest ih =>
      have inner : Prog.forEach (group.2.map LifecycleEntry.message)
          (consumer.handleMessage group.1.value) =
            Prog.forEach (group.2.map (Sigma.mk group.1)) consumer.work := by
        rw [Prog.forEach_map, Prog.forEach_map]
        rfl
      rw [Batch.deliveries, List.flatMap_cons, Prog.forEach_append, ← inner]
      exact congrArg _ (funext fun _ => ih)

theorem work_named {delivery : Delivery} (named : delivery.named = true)
    {result : Except PyError Unit}
    (ran : Prog.Runs (Answers accepts) world (consumer.work delivery) result after) :
    result = .ok () ∧ after = world.settle accepts delivery := by
  rcases Prog.runs_bind.mp ran with ⟨_, middle, handled, acked⟩ | ⟨_, failed, _⟩
  · obtain ⟨_, rfl⟩ := consumer.handle_named named handled
    exact Prog.runs_perform.mp acked
  · cases (consumer.handle_named named failed).1

theorem work_unnamed {delivery : Delivery} (unnamed : delivery.named = false)
    {result : Except PyError Unit}
    (ran : Prog.Runs (Answers accepts) world (consumer.work delivery) result after) :
    (∃ error, result = .error error) ∧ after = world := by
  rcases Prog.runs_bind.mp ran with ⟨_, middle, handled, _⟩ | ⟨error, failed, rfl⟩
  · obtain ⟨⟨_, same⟩, _⟩ := consumer.handle_unnamed unnamed handled
    cases same
  · exact ⟨⟨error, rfl⟩, (consumer.handle_unnamed unnamed failed).2⟩

theorem works {deliveries : List Delivery} {result : Except PyError Unit}
    (ran : Prog.Runs (Answers accepts) world (Prog.forEach deliveries consumer.work)
      result after) :
    after = (deliveries.takeWhile Delivery.named).foldl (settle accepts) world ∧
      (result = .ok () ↔ deliveries.all Delivery.named = true) := by
  induction deliveries generalizing world with
  | nil =>
      obtain ⟨rfl, rfl⟩ := ran
      exact ⟨rfl, by simp⟩
  | cons delivery rest ih =>
      rcases named : delivery.named with _ | _
      · have stops : (∃ error, result = .error error) ∧ after = world := by
          rcases Prog.runs_bind.mp ran with ⟨_, middle, first, _⟩ | ⟨error, failed, rfl⟩
          · obtain ⟨⟨_, same⟩, _⟩ := consumer.work_unnamed named first
            cases same
          · exact ⟨⟨error, rfl⟩, (consumer.work_unnamed named failed).2⟩
        obtain ⟨⟨error, rfl⟩, rfl⟩ := stops
        simp [named]
      · rcases Prog.runs_bind.mp ran with ⟨_, middle, first, later⟩ | ⟨_, failed, _⟩
        · obtain ⟨_, rfl⟩ := consumer.work_named named first
          simpa [List.takeWhile_cons, named] using ih later
        · cases (consumer.work_named named failed).1

end NotifyConsumer

theorem ensureGroups_quiet : Prog.Quiet (Answers accepts) ensureGroups := by
  refine Prog.quiet_forEach fun stream _ => ?_
  intro world result after ran
  rcases Prog.runs_rescue.mp ran with ⟨_, created, rfl⟩ | ⟨error, middle, tried, recovered⟩
  · exact ⟨(), rfl, (Prog.runs_perform.mp created).2⟩
  · obtain ⟨failed, rfl⟩ := Prog.runs_perform.mp tried
    rcases failed with failed | failed <;> cases failed
    exact ⟨(), recovered⟩

theorem sleep_quiet (seconds : ℚ) :
    Prog.Quiet (Answers accepts) (await (.sleep seconds)) :=
  Prog.quiet_perform fun _ _ _ answered => ⟨(), answered⟩

theorem readBatch_runs {result : Except PyError (List (String × List RawMessage))}
    (ran : Prog.Runs (Answers accepts) world readBatch result after) :
    ∃ batch : Batch, result = .ok batch.response ∧ after = world.deliver batch := by
  have nothing {program : Program Unit} (quiet : Prog.Quiet (Answers accepts) program)
      {result : Except PyError (List (String × List RawMessage))}
      (ran : Prog.Runs (Answers accepts) world (program >>= fun _ => .done []) result after) :
      ∃ batch : Batch, result = .ok batch.response ∧ after = world.deliver batch := by
    obtain ⟨_, rfl, rfl⟩ := ran.bind_quiet quiet
    exact ⟨[], rfl, by simp [deliver, Batch.deliveries]⟩
  rcases Prog.runs_rescue.mp ran with ⟨_, read, rfl⟩ | ⟨error, middle, tried, recovered⟩
  · obtain ⟨batch, _, rfl, rfl⟩ := Prog.runs_perform.mp read
    exact ⟨batch, rfl, rfl⟩
  · obtain rfl : middle = world := Prog.runs_perform.mp tried
    split at recovered
    · exact nothing ensureGroups_quiet recovered
    · exact nothing (sleep_quiet 2) recovered

namespace NotifyConsumer

theorem drain_runs {result : Except PyError ℕ}
    (ran : Prog.Runs (Answers accepts) world consumer.drain result after) :
    ∃ batch : Batch,
      after = (batch.deliveries.takeWhile Delivery.named).foldl (settle accepts)
        (world.deliver batch) ∧
      ((∃ count, result = .ok count) ↔ batch.deliveries.all Delivery.named = true) := by
  rcases Prog.runs_bind.mp ran with ⟨_, middle, read, looped⟩ | ⟨_, failed, _⟩
  · obtain ⟨batch, same, rfl⟩ := readBatch_runs read
    obtain rfl := Except.ok.inj same
    refine ⟨batch, ?_⟩
    rw [forEach_response] at looped
    rcases Prog.runs_bind.mp looped with ⟨_, middle, worked, ended⟩ | ⟨error, failed, rfl⟩
    · obtain ⟨settled, all⟩ := consumer.works worked
      obtain ⟨rfl, rfl⟩ := ended
      exact ⟨settled, fun _ => all.mp rfl, fun _ => ⟨_, rfl⟩⟩
    · obtain ⟨settled, all⟩ := consumer.works failed
      exact ⟨settled, by simp, fun named => by cases all.mpr named⟩
  · obtain ⟨_, same, _⟩ := readBatch_runs failed
    cases same

end NotifyConsumer

/-! A run -/

structure Settled (accepts : AuditRow → Bool) (world : NotifyWorld) : Prop where
  audit : world.audit = (world.delivered.map Delivery.row).filter accepts
  acked : world.acked = world.delivered.map Delivery.key
  named : ∀ delivery ∈ world.delivered, delivery.named = true

/-- The consumer goes on with every entry handled, or has ended at one without a subject. -/
def Going (accepts : AuditRow → Bool) (world : NotifyWorld) {α : Type}
    (result : Except PyError α) : Prop :=
  (∃ value, result = .ok value) ∧ Settled accepts world ∨
    (∃ error, result = .error error) ∧ ∃ delivery ∈ world.delivered, delivery.named = false

namespace NotifyConsumer

theorem drain_going {result : Except PyError ℕ} (settled : Settled accepts world)
    (ran : Prog.Runs (Answers accepts) world consumer.drain result after) :
    Going accepts after result := by
  obtain ⟨batch, rfl, returns⟩ := consumer.drain_runs ran
  rw [settle_fold]
  rcases named : batch.deliveries.all Delivery.named with _ | _
  · rcases result with error | count
    · obtain ⟨delivery, member, unnamed⟩ := List.all_eq_false.mp named
      exact .inr ⟨⟨error, rfl⟩, delivery, by simp [deliver, member], by simpa using unnamed⟩
    · simp [named] at returns
  · have whole := List.all_eq_true.mp named
    refine .inl ⟨returns.mpr named, ?_⟩
    rw [List.takeWhile_eq_self_iff.mpr whole]
    exact ⟨by simp [deliver, settled.audit], by simp [deliver, settled.acked], by
      simpa [deliver, or_imp, forall_and] using ⟨settled.named, whole⟩⟩

theorem serve_going {rounds : ℕ} {result : Except PyError Unit} (settled : Settled accepts world)
    (ran : Prog.Runs (Answers accepts) world (consumer.serve rounds) result after) :
    Going accepts after result := by
  induction rounds generalizing world with
  | zero =>
      obtain ⟨rfl, rfl⟩ := ran
      exact .inl ⟨⟨(), rfl⟩, settled⟩
  | succ rounds ih =>
      rcases Prog.runs_bind.mp ran with ⟨processed, middle, drained, later⟩ | ⟨error, failed, rfl⟩
      · rcases consumer.drain_going settled drained with ⟨_, kept⟩ | ⟨⟨_, same⟩, _⟩
        · simp only at later
          split at later
          · obtain ⟨_, ran⟩ := later.bind_quiet (sleep_quiet _)
            exact ih kept ran
          · exact ih kept later
        · cases same
      · rcases consumer.drain_going settled failed with ⟨⟨_, same⟩, _⟩ | ⟨_, stuck⟩
        · cases same
        · exact .inr ⟨⟨error, rfl⟩, stuck⟩

theorem runForever_going {rounds : ℕ} {result : Except PyError Unit}
    (settled : Settled accepts world)
    (ran : Prog.Runs (Answers accepts) world (consumer.runForever rounds) result after) :
    Going accepts after result := by
  obtain ⟨_, ran⟩ := ran.bind_quiet ensureGroups_quiet
  exact consumer.serve_going settled ran

theorem exists_drain (accepts : AuditRow → Bool) (world : NotifyWorld) (batch : Batch)
    (bounded : ∀ group ∈ batch, group.2.length ≤ 16) : ∃ result after,
      Prog.Runs (Answers accepts) world consumer.drain result after ∧
        after.delivered = world.delivered ++ batch.deliveries := by
  have read : Prog.Runs (Answers accepts) world readBatch (.ok batch.response)
      (world.deliver batch) :=
    Prog.runs_rescue.mpr (.inl ⟨_, Prog.runs_perform.mpr ⟨batch, bounded, rfl, rfl⟩, rfl⟩)
  obtain ⟨result, after, worked⟩ := Prog.exists_runs (answers_exist accepts)
    (Prog.forEach batch.deliveries consumer.work) (world.deliver batch)
  have kept : after.delivered = world.delivered ++ batch.deliveries := by
    rw [(consumer.works worked).1, settle_fold, deliver]
  have looped {α : Type} {rest : Unit → Program α} {result : Except PyError α}
      (ran : Prog.Runs (Answers accepts) (world.deliver batch)
        (Prog.forEach batch.deliveries consumer.work >>= rest) result after) :
      Prog.Runs (Answers accepts) (world.deliver batch)
        ((Prog.forEach batch.response fun group =>
          Prog.forEach group.2 (consumer.handleMessage group.1)) >>= rest) result after := by
    rwa [forEach_response]
  rcases result with error | _
  · exact ⟨.error error, after, Prog.runs_bind.mpr (.inl ⟨_, _, read,
      looped (Prog.runs_bind.mpr (.inr ⟨error, worked, rfl⟩))⟩), kept⟩
  · exact ⟨.ok _, after, Prog.runs_bind.mpr (.inl ⟨_, _, read,
      looped (Prog.runs_bind.mpr (.inl ⟨(), after, worked, rfl, rfl⟩))⟩), kept⟩

theorem exists_serve (accepts : AuditRow → Bool) (batches : List Batch)
    (bounded : ∀ batch ∈ batches, ∀ group ∈ batch, group.2.length ≤ 16) (world : NotifyWorld) :
    ∃ result after read, Prog.Runs (Answers accepts) world (consumer.serve batches.length)
        result after ∧
      after.delivered = world.delivered ++ read.flatMap Batch.deliveries ∧
        read <+: batches ∧ (result = .ok () → read = batches) := by
  induction batches generalizing world with
  | nil => exact ⟨.ok (), world, [], ⟨rfl, rfl⟩, by simp, by simp, fun _ => rfl⟩
  | cons batch rest ih =>
      obtain ⟨result, middle, drained, first⟩ :=
        consumer.exists_drain accepts world batch (bounded batch (by simp))
      rcases result with error | processed
      · exact ⟨.error error, middle, [batch], Prog.runs_bind.mpr (.inr ⟨error, drained, rfl⟩),
          by simp [first], by simp, fun same => by cases same⟩
      · obtain ⟨result, after, read, served, later, before, whole⟩ :=
          ih (fun other member => bounded other (by simp [member])) middle
        refine ⟨result, after, batch :: read, ?_, by simp [later, first],
          by simpa using before, fun same => by rw [whole same]⟩
        refine Prog.runs_bind.mpr (.inl ⟨processed, middle, drained, ?_⟩)
        simp only
        split
        · exact Prog.runs_bind.mpr (.inl ⟨(), middle, Prog.runs_perform.mpr ⟨rfl, rfl⟩, served⟩)
        · exact served

theorem exists_runForever (accepts : AuditRow → Bool) (batches : List Batch)
    (bounded : ∀ batch ∈ batches, ∀ group ∈ batch, group.2.length ≤ 16) :
    ∃ result after read, Prog.Runs (Answers accepts) {} (consumer.runForever batches.length)
        result after ∧
      after.delivered = read.flatMap Batch.deliveries ∧ read <+: batches ∧
        (result = .ok () → read = batches) := by
  obtain ⟨result, after, read, served, rest⟩ := consumer.exists_serve accepts batches bounded {}
  obtain ⟨created, middle, ensured⟩ :=
    Prog.exists_runs (answers_exist accepts) ensureGroups {}
  obtain ⟨_, rfl, rfl⟩ := ensureGroups_quiet _ _ _ ensured
  exact ⟨result, after, read, Prog.runs_bind.mpr (.inl ⟨_, _, ensured, served⟩), rest⟩

end NotifyConsumer

theorem audit_complete_iff (consumer : NotifyConsumer) (accepts : AuditRow → Bool) (rounds : ℕ)
    (result : Except PyError Unit) (after : NotifyWorld)
    (ran : Prog.Runs (Answers accepts) {} (consumer.runForever rounds) result after) :
    (result = .ok () ∧ after.audit = after.delivered.map Delivery.row ∧
        after.acked = after.delivered.map Delivery.key) ↔
      ∀ delivery ∈ after.delivered, delivery.named = true ∧ accepts delivery.row = true := by
  have start : Settled accepts {} := ⟨rfl, rfl, by simp⟩
  rcases consumer.runForever_going start ran with ⟨⟨_, rfl⟩, settled⟩ | ⟨⟨_, rfl⟩, stuck⟩
  · rw [settled.audit, settled.acked, List.filter_eq_self]
    constructor
    · rintro ⟨_, accepted, _⟩ delivery member
      exact ⟨settled.named delivery member, accepted _ (List.mem_map_of_mem member)⟩
    · intro each
      exact ⟨rfl, List.forall_mem_map.mpr fun delivery member => (each delivery member).2, rfl⟩
  · obtain ⟨delivery, member, unnamed⟩ := stuck
    constructor
    · rintro ⟨same, _⟩
      cases same
    · intro each
      rw [(each delivery member).1] at unnamed
      cases unnamed

end Runs

namespace Sample

open TextFormats.Sample

noncomputable def consumer : NotifyConsumer where
  telegramToken := "123456789:AA-FakeTokenForUnitTests-000000"
  telegramChatId := "111222333"
  formats := formats
  isdigit := fun text => text ≠ "" ∧ text.toList.all Char.isDigit
  twoDecimals := fun _ => .ok "0.81"

theorem published_generated : Published formats .signalGenerated
    [("signal", signalText), ("correlation_id", "c1")] := by
  have dumped : formats.dumps (.dict (formats.dumpSignal signal)) = some signalText := if_pos rfl
  refine .signalGenerated (show formats.signalEntry "u1" signal "c1" = _ from ?_)
  rw [TextFormats.signalEntry, dumped]
  rfl

def generated : LifecycleEntry .signalGenerated where
  id := "1-0"
  fields := [("signal", signalText), ("correlation_id", "c1")]
  layout := published_generated.layout

def rejection : SignalRejection where
  signalId := "5f0c"
  symbol := "Volatility 75 Index"
  direction := .buy
  rejectedReason := "max_open_trades_reached"
  detail := "exposure limits reached"
  correlationId := "c1"

theorem published_rejection : Published formats .signalRejected
    [("signal_id", "5f0c"), ("symbol", "Volatility 75 Index"), ("direction", "BUY"),
      ("rejected_reason", "max_open_trades_reached"), ("detail", "exposure limits reached"),
      ("correlation_id", "c1")] :=
  .signalRejected (show formats.streamFields "u1" rejection.payload (some "c1") = _ from rfl)

def muted : LifecycleEntry .signalRejected where
  id := "2-0"
  fields := _
  layout := published_rejection.layout

def closing : ClosedEntry where
  signalId := "5f0c"
  idempotencyKey := "5f0c"
  symbol := "Volatility 75 Index"
  ticket := 30
  pnl := 101
  exitPrice := 199 / 2
  correlationId := "c2"

theorem published_closing : Published formats .orderClosed
    [("signal_id", "5f0c"), ("idempotency_key", "5f0c"), ("symbol", "Volatility 75 Index"),
      ("ticket", "30"), ("pnl", "101.0"), ("exit_price", "99.5"), ("correlation_id", "c2")] :=
  .orderClosed (show formats.streamFields "u2" closing.payload (some "c2") = _ by decide +kernel)

def closed : LifecycleEntry .orderClosed where
  id := "3-0"
  fields := _
  layout := published_closing.layout

end Sample

theorem audit_complete_sample : ∃ after : NotifyWorld,
    Prog.Runs (Answers fun _ => true) {} (Sample.consumer.runForever 1) (.ok ()) after ∧
      after.delivered = [⟨.signalRejected, Sample.muted⟩, ⟨.orderClosed, Sample.closed⟩] ∧
      after.audit = [
        ⟨"notify-service", "signal.rejected", "5f0c", "rejected",
          [("rejected_reason", some "max_open_trades_reached")]⟩,
        ⟨"notify-service", "order.closed", "5f0c", "ok",
          [("pnl", some "101.0"), ("ticket", some "30")]⟩] ∧
      after.acked = [("signal.rejected", .str "2-0"), ("order.closed", .str "3-0")] := by
  let batch : Batch := [⟨.signalRejected, [Sample.muted]⟩, ⟨.orderClosed, [Sample.closed]⟩]
  obtain ⟨result, after, read, ran, delivered, before, whole⟩ :=
    Sample.consumer.exists_runForever (fun _ => true) [batch] (by simp [batch])
  have named : ∀ delivery ∈ after.delivered, delivery.named = true := by
    intro delivery member
    rw [delivered] at member
    have among : delivery ∈ batch.deliveries := by
      obtain ⟨other, taken, within⟩ := List.mem_flatMap.mp member
      obtain rfl := List.mem_singleton.mp (before.subset taken)
      exact within
    simp only [batch, Batch.deliveries, List.flatMap_cons, List.map_cons, List.map_nil,
      List.flatMap_nil, List.cons_append, List.nil_append, List.mem_cons, List.not_mem_nil,
      or_false] at among
    rcases among with rfl | rfl <;> decide
  obtain ⟨rfl, audit, acked⟩ :=
    (audit_complete_iff Sample.consumer (fun _ => true) 1 result after ran).mpr
      fun delivery member => ⟨named delivery member, rfl⟩
  rw [delivered, whole rfl] at audit acked
  exact ⟨after, ran, by rw [delivered, whole rfl]; rfl, audit, acked⟩

/-- A generated signal, as it is published, ends the consumer before the entry that follows. -/
theorem audit_incomplete : ¬∀ (consumer : NotifyConsumer) (rounds : ℕ)
    (result : Except PyError Unit) (after : NotifyWorld),
      Prog.Runs (Answers fun _ => true) {} (consumer.runForever rounds) result after →
        result = .ok () ∧ after.audit = after.delivered.map Delivery.row ∧
          after.acked = after.delivered.map Delivery.key := by
  intro complete
  let batch : Batch := [⟨.signalGenerated, [Sample.generated]⟩, ⟨.orderClosed, [Sample.closed]⟩]
  obtain ⟨result, after, read, ran, delivered, _, whole⟩ :=
    Sample.consumer.exists_runForever (fun _ => true) [batch] (by simp [batch])
  obtain ⟨rfl, _, _⟩ := complete Sample.consumer 1 result after ran
  have start : Settled (fun _ => true) {} := ⟨rfl, rfl, by simp⟩
  rcases Sample.consumer.runForever_going start ran with ⟨_, settled⟩ | ⟨⟨_, same⟩, _⟩
  · have member : (⟨.signalGenerated, Sample.generated⟩ : Delivery) ∈ after.delivered := by
      rw [delivered, whole rfl]
      simp [batch, Batch.deliveries]
    have named := settled.named _ member
    rw [Delivery.named, Sample.generated.generated_unnamed] at named
    cases named
  · cases same

end Notifying

end Vix75
