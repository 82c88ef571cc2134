import Vix75.DeliveryChecks

/-! Whatever fails or crashes, a cached result agrees with the row of its key and with the one
entry that was published for it. -/

namespace Vix75

open EffectProgram

@[ext] structure Verdict where
  accepted : Bool
  desc : Option String

def ResultView.verdict (view : ResultView) : Verdict := ⟨view.accepted, view.retcodeDescription⟩

def Verdict.status (verdict : Verdict) : TradeStatus :=
  if verdict.accepted then .filled else .rejected

inductive Settling where
  | idle
  | claimed (key : String)
  | recorded (key : String) (verdict : Verdict)
  | published (key : String) (verdict : Verdict)

def Settling.key : Settling → Option String
  | .idle => none
  | .claimed key => some key
  | .recorded key _ => some key
  | .published key _ => some key

def settling : Discipline Effect Effect.Reply PyError ServiceRequest Settling where
  initial := fun _ => .idle
  allowed := fun stage effect => match effect, stage with
    | .insertPending _, .idle => True
    | .setStatus wanted update, .claimed key =>
        wanted = key ∧ ∃ verdict : Verdict, update.status = verdict.status ∧
          update.desc = verdict.desc
    | .xaddFilled entry, .recorded key verdict =>
        entry.order.idempotencyKey = key ∧ verdict.accepted = true
    | .xaddRejected entry, .recorded key verdict =>
        entry.idempotencyKey = key ∧ verdict.accepted = false
    | .redisSet wanted view, .published key verdict =>
        wanted = resultKey key ∧ view.verdict = verdict
    | .insertPending _, _ | .setStatus _ _, _ | .xaddFilled _, _ | .xaddRejected _, _
    | .redisSet _ _, _ => False
    | _, _ => True
  advance := fun stage effect reply => match effect, reply, stage with
    | .insertPending row, .ok rowcount, _ =>
        if rowcount = 1 then .claimed row.idempotencyKey else .idle
    | .setStatus key update, .ok _, _ => .recorded key ⟨update.status = .filled, update.desc⟩
    | .xaddFilled _, .ok _, .recorded key verdict => .published key verdict
    | .xaddRejected _, .ok _, .recorded key verdict => .published key verdict
    | .insertPending _, _, _ | .setStatus _ _, _, _ | .xaddFilled _, _, _
    | .xaddRejected _, _, _ | .redisSet _ _, _, _ => .idle
    | _, _, _ => stage

def Effect.Unsettling : Effect → Prop
  | .insertPending _ => False
  | .setStatus _ _ => False
  | .xaddFilled _ => False
  | .xaddRejected _ => False
  | .redisSet _ _ => False
  | _ => True

section Follows

variable {service : ExecutionService}

theorem settling_inert {stage : Settling} (effect : Effect) (unsettling : effect.Unsettling) :
    settling.allowed stage effect ∧ ∀ reply, settling.assumed stage effect reply →
      settling.advance stage effect reply = stage := by
  cases effect <;> first | exact absurd unsettling id | exact ⟨trivial, fun _ _ => rfl⟩

theorem settling_of_uses {α : Type} {stage : Settling} {program : Execution α}
    (used : program.Uses Effect.Unsettling) :
    settling.wp stage program (fun after _ => after = stage) (fun _ _ => True) :=
  Discipline.wp_mono (Discipline.wp_of_uses used settling_inert) (fun _ _ same => same)
    (fun _ _ _ => trivial)

theorem settling_await {α : Type} {stage : Settling} {effect : Effect}
    {rest : effect.Reply → Execution α} {returned : Settling → α → Prop}
    (allowed : settling.allowed stage effect)
    (answers : ∀ value, settling.wp (settling.advance stage effect (.ok value)) (rest value)
      returned (fun _ _ => True)) :
    settling.wp stage (await effect >>= rest) returned (fun _ _ => True) :=
  Discipline.wp_perform_bind allowed (fun _ _ => trivial) fun value _ => answers value

theorem settle_settles {order : OrderRequest ℚ} {outcome : ExecOutcome} {correlationId : String} :
    settling.wp (.claimed order.idempotencyKey)
      (if outcome.result.accepted then settleFilled order outcome.result correlationId
        else settleRejected order outcome correlationId)
      (fun after _ => after = .published order.idempotencyKey (resultView outcome.result).verdict)
      (fun _ _ => True) := by
  cases accepted : outcome.result.accepted with
  | true =>
      refine settling_await ⟨rfl, ⟨true, _⟩, rfl, rfl⟩ fun _ => ?_
      rw [Discipline.wp_perform]
      refine ⟨⟨rfl, rfl⟩, fun _ _ => ?_, fun _ _ => trivial⟩
      simp [settling, ResultView.verdict, resultView, accepted]
  | false =>
      refine settling_await ⟨rfl, ⟨false, _⟩, rfl, rfl⟩ fun _ => ?_
      rw [Discipline.wp_perform]
      refine ⟨⟨rfl, rfl⟩, fun _ _ => ?_, fun _ _ => trivial⟩
      simp [settling, ResultView.verdict, resultView, accepted]

theorem executeOrder_settles (order : OrderRequest ℚ) (correlationId : String) :
    settling.wp (.claimed order.idempotencyKey) (executeOrder service order correlationId)
      (fun after _ => after = .idle) (fun _ _ => True) := by
  refine settling_await trivial fun _ => ?_
  refine Discipline.wp_seq _ (settling_of_uses (execute_uses trivial trivial (fun _ => trivial)
    trivial fun _ => trivial)) ?_
  rintro current outcome rfl
  have settled := @settle_settles order outcome correlationId
  have recorded : ∀ entry, settling.wp
      (.published order.idempotencyKey (resultView outcome.result).verdict)
      (do
        await (.redisSet (resultKey order.idempotencyKey) (resultView outcome.result))
        audit entry)
      (fun after _ => after = .idle) (fun _ _ => True) := fun entry =>
    settling_await ⟨rfl, rfl⟩ fun _ => settling_of_uses (audit_uses trivial)
  dsimp only
  split
  · rename_i accepted
    simp only [accepted, ↓reduceIte] at settled
    refine Discipline.wp_seq _ settled ?_
    rintro current _ rfl
    exact recorded _
  · rename_i refused
    simp only [refused, Bool.false_eq_true, ↓reduceIte] at settled
    refine Discipline.wp_seq _ settled ?_
    rintro current _ rfl
    exact recorded _

theorem handleOrder_settles (order : OrderRequest ℚ) (correlationId : String) :
    settling.wp .idle (handleOrder service order correlationId)
      (fun after _ => after = .idle) (fun _ _ => True) := by
  refine settling_await trivial fun cached => ?_
  cases cached with
  | some view => rfl
  | none =>
      dsimp only
      rw [insertPending, Discipline.wp_bind]
      split
      · trivial
      · refine settling_await trivial fun rowcount => ?_
        by_cases won : rowcount = 1
        · subst won
          exact executeOrder_settles order correlationId
        · simp [settling, won]

theorem handleMessage_settles (message : Message) :
    settling.wp .idle (handleMessage service message)
      (fun after _ => after = .idle) (fun _ _ => True) := by
  refine Discipline.wp_seq (fun after _ => after = .idle) ?_ ?_
  · refine Discipline.wp_seq _ (settling_of_uses (getOrCreateCorrelationId_uses trivial)) ?_
    rintro current correlationId rfl
    split
    · trivial
    · rfl
    · exact handleOrder_settles _ correlationId
  · rintro current _ rfl
    exact settling_of_uses (Prog.uses_perform trivial)

theorem entry_settles (service : ExecutionService) (request : ServiceRequest) :
    settling.wp .idle (service.entry request) (fun _ _ => True) (fun _ _ => True) := by
  have quiet : ∀ {program : Execution Unit}, program.Uses Effect.Unsettling →
      settling.wp .idle program (fun _ _ => True) (fun _ _ => True) := fun used =>
    Discipline.wp_mono (settling_of_uses used) (fun _ _ _ => trivial) (fun _ _ _ => trivial)
  cases request with
  | ensureGroup => exact quiet (ensureGroup_uses trivial)
  | sweep =>
      refine quiet ((runOnce_uses service).mono fun effect sweeping => ?_)
      cases effect <;> trivial
  | close ticket =>
      refine quiet (Prog.uses_bind ?_ fun _ => trivial)
      exact closeRoute_uses trivial trivial (fun _ => trivial) (fun _ => trivial) trivial trivial
        (fun _ => trivial) fun _ => trivial
  | drain =>
      refine Discipline.wp_seq _ (settling_of_uses (readBatch_uses trivial trivial trivial)) ?_
      rintro current messages rfl
      have looped : settling.wp .idle (Prog.forEach messages (handleMessage service))
          (fun after _ => after = .idle) (fun _ _ => True) := by
        refine Discipline.wp_forEach (fun _ stage => stage = Settling.idle) rfl ?_
        rintro message rest current rfl
        exact handleMessage_settles message
      exact Discipline.wp_mono looped (fun _ _ _ => trivial) (fun _ _ _ => trivial)

end Follows

/-! What the stores say about one key -/

structure KeyRecord where
  row : Option (TradeStatus × Option String)
  filled : ℕ
  rejected : ℕ
  cached : Option ResultView

namespace World

def filledCount (world : World) (key : String) : ℕ :=
  world.filled.countP fun entry => entry.order.idempotencyKey = key

def rejectedCount (world : World) (key : String) : ℕ :=
  world.rejected.countP fun entry => entry.idempotencyKey = key

def record (world : World) (key : String) : KeyRecord where
  row := (world.trades.find? key).map fun row => (row.status, row.retcodeDesc)
  filled := world.filledCount key
  rejected := world.rejectedCount key
  cached := world.results (resultKey key)

theorem record_apply (world : World) {effect : Effect} (unsettling : effect.Unsettling)
    (key : String) : (world.apply effect).record key = world.record key := by
  cases effect with
  | closeByTicket ticket closedAt profit =>
      simp only [record, apply, KeyedTable.find?_update, Option.map_map]
      congr 1
      cases world.trades.find? key with
      | none => rfl
      | some row =>
          simp only [Option.map_some, Function.comp_apply, Option.some.injEq]
          split <;> rfl
  | _ => first | exact absurd unsettling id | rfl

theorem record_insert (world : World) (row : TradeRow) (key : String) :
    (world.apply (.insertPending row)).record key = { world.record key with
      row := if key = row.idempotencyKey then
        some ((world.record key).row.getD (row.status, row.retcodeDesc))
      else (world.record key).row } := by
  simp only [record, apply, KeyedTable.find?_insert, filledCount, rejectedCount,
    KeyRecord.mk.injEq, and_true]
  split
  · cases world.trades.find? key <;> rfl
  · rfl

theorem record_setStatus (world : World) {update : StatusUpdate} {verdict : Verdict}
    (status : update.status = verdict.status) (desc : update.desc = verdict.desc)
    (key wanted : String) : (world.apply (.setStatus wanted update)).record key =
      { world.record key with row := if key = wanted then
          (world.record key).row.map fun _ => (verdict.status, verdict.desc)
        else (world.record key).row } := by
  simp only [record, apply, KeyedTable.find?_update, filledCount, rejectedCount,
    KeyRecord.mk.injEq, and_true]
  cases found : world.trades.find? key with
  | none => simp
  | some row =>
      have keyed := KeyedTable.key_of_find? found
      by_cases same : key = wanted
      · cases accepted : verdict.accepted <;>
          simp [keyed, same, TradeRow.setStatus, status, desc, Verdict.status, accepted]
      · simp [keyed, same]

theorem record_filled (world : World) (entry : FilledEntry) (key : String) :
    (world.apply (.xaddFilled entry)).record key = { world.record key with
      filled := (world.record key).filled +
        if entry.order.idempotencyKey = key then 1 else 0 } := by
  simp [record, apply, filledCount, rejectedCount, List.countP_append, List.countP_singleton]

theorem record_rejected (world : World) (entry : RejectedEntry) (key : String) :
    (world.apply (.xaddRejected entry)).record key = { world.record key with
      rejected := (world.record key).rejected +
        if entry.idempotencyKey = key then 1 else 0 } := by
  simp [record, apply, filledCount, rejectedCount, List.countP_append, List.countP_singleton]

theorem record_cached (world : World) (view : ResultView) (key wanted : String) :
    (world.apply (.redisSet (resultKey wanted) view)).record key = { world.record key with
      cached := if key = wanted then some view else (world.record key).cached } := by
  by_cases same : key = wanted
  · simp [record, apply, filledCount, rejectedCount, same]
  · have apart : resultKey key ≠ resultKey wanted := fun equal =>
      same (resultKey_injective equal)
    simp [record, apply, filledCount, rejectedCount, same, apart]

end World

def Verdict.record (verdict : Verdict) (cached : Option ResultView) : KeyRecord where
  row := some (verdict.status, verdict.desc)
  filled := if verdict.accepted then 1 else 0
  rejected := if verdict.accepted then 0 else 1
  cached := cached

def Away (stage : Option Settling) (key : String) : Prop := stage.bind Settling.key ≠ some key

section Invariant

variable {Pid : Type} [DecidableEq Pid] {record : KeyRecord} {stages : Pid → Option Settling}
variable {key : String} {pid : Pid} {next : Option Settling}

/-- How far the writes about a key have come, and who may go on with them. -/
inductive KeyStory (record : KeyRecord) (stages : Pid → Option Settling) (key : String) : Prop
  | absent (same : record = ⟨none, 0, 0, none⟩) (unseen : ∀ pid, Away (stages pid) key)
  | claimed (pid : Pid) (row : TradeStatus × Option String)
      (same : record = ⟨some row, 0, 0, none⟩) (holder : stages pid = some (.claimed key))
      (others : ∀ other, other ≠ pid → Away (stages other) key)
  | recorded (pid : Pid) (verdict : Verdict)
      (same : record = ⟨some (verdict.status, verdict.desc), 0, 0, none⟩)
      (holder : stages pid = some (.recorded key verdict))
      (others : ∀ other, other ≠ pid → Away (stages other) key)
  | published (verdict : Verdict) (cached : Option ResultView)
      (same : record = verdict.record cached)
      (agrees : ∀ view, cached = some view → view.verdict = verdict)
      (holders : ∀ pid, Away (stages pid) key ∨ stages pid = some (.published key verdict))
  | abandoned (row : TradeStatus × Option String) (filled rejected : ℕ)
      (same : record = ⟨some row, filled, rejected, none⟩) (few : filled + rejected ≤ 1)
      (unseen : ∀ pid, Away (stages pid) key)

namespace KeyStory

theorem away_update (away : Away next key) {other : Pid} (before : Away (stages other) key) :
    Away (Function.update stages pid next other) key := by
  by_cases here : other = pid
  · subst here
    simpa using away
  · simpa [Function.update_of_ne here] using before

theorem drop (story : KeyStory record stages key) (away : Away next key) :
    KeyStory record (Function.update stages pid next) key := by
  cases story with
  | absent same unseen => exact .absent same fun other => away_update away (unseen other)
  | claimed owner row same holder others =>
      by_cases here : pid = owner
      · subst here
        refine .abandoned row 0 0 same (by omega) fun other => ?_
        by_cases it : other = pid
        · subst it
          simpa using away
        · exact away_update away (others other it)
      · refine .claimed owner row same ?_ fun other elsewhere =>
          away_update away (others other elsewhere)
        rw [Function.update_of_ne (Ne.symm here), holder]
  | recorded owner verdict same holder others =>
      by_cases here : pid = owner
      · subst here
        refine .abandoned _ 0 0 same (by omega) fun other => ?_
        by_cases it : other = pid
        · subst it
          simpa using away
        · exact away_update away (others other it)
      · refine .recorded owner verdict same ?_ fun other elsewhere =>
          away_update away (others other elsewhere)
        rw [Function.update_of_ne (Ne.symm here), holder]
  | published verdict cached same agrees holders =>
      refine .published verdict cached same agrees fun other => ?_
      by_cases here : other = pid
      · subst here
        exact .inl (by simpa using away)
      · simpa [Function.update_of_ne here] using holders other
  | abandoned row filled rejected same few unseen =>
      exact .abandoned row filled rejected same few fun other => away_update away (unseen other)

omit [DecidableEq Pid] in
theorem of_near (story : KeyStory record stages key) (near : ¬Away (stages pid) key) :
    ((∃ row, record = ⟨some row, 0, 0, none⟩) ∧ stages pid = some (.claimed key) ∧
      ∀ other, other ≠ pid → Away (stages other) key) ∨
    (∃ verdict, record = ⟨some (verdict.status, verdict.desc), 0, 0, none⟩ ∧
      stages pid = some (.recorded key verdict) ∧
        ∀ other, other ≠ pid → Away (stages other) key) ∨
    ∃ verdict, (∃ cached, record = verdict.record cached) ∧
      stages pid = some (.published key verdict) ∧
        ∀ other, Away (stages other) key ∨ stages other = some (.published key verdict) := by
  cases story with
  | absent same unseen => exact absurd (unseen pid) near
  | claimed owner row same holder others =>
      obtain rfl : pid = owner := by_contra fun elsewhere => near (others pid elsewhere)
      exact .inl ⟨⟨row, same⟩, holder, others⟩
  | recorded owner verdict same holder others =>
      obtain rfl : pid = owner := by_contra fun elsewhere => near (others pid elsewhere)
      exact .inr (.inl ⟨verdict, same, holder, others⟩)
  | published verdict cached same agrees holders =>
      exact .inr (.inr ⟨verdict, ⟨cached, same⟩, (holders pid).resolve_left near, holders⟩)
  | abandoned row filled rejected same few unseen => exact absurd (unseen pid) near

omit [DecidableEq Pid] in
theorem of_claimed (story : KeyStory record stages key)
    (current : stages pid = some (.claimed key)) :
    (∃ row, record = ⟨some row, 0, 0, none⟩) ∧ ∀ other, other ≠ pid → Away (stages other) key := by
  have near : ¬Away (stages pid) key := by simp [Away, current, Settling.key]
  rcases story.of_near near with ⟨same, _, others⟩ | ⟨verdict, _, holder, _⟩ |
    ⟨verdict, _, holder, _⟩
  · exact ⟨same, others⟩
  · simp [holder] at current
  · simp [holder] at current

omit [DecidableEq Pid] in
theorem of_recorded {verdict : Verdict} (story : KeyStory record stages key)
    (current : stages pid = some (.recorded key verdict)) :
    record = ⟨some (verdict.status, verdict.desc), 0, 0, none⟩ ∧
      ∀ other, other ≠ pid → Away (stages other) key := by
  have near : ¬Away (stages pid) key := by simp [Away, current, Settling.key]
  rcases story.of_near near with ⟨_, holder, _⟩ | ⟨other, same, holder, others⟩ |
    ⟨other, _, holder, _⟩
  · simp [holder] at current
  · rw [holder, Option.some.injEq, Settling.recorded.injEq] at current
    obtain ⟨_, rfl⟩ := current
    exact ⟨same, others⟩
  · simp [holder] at current

omit [DecidableEq Pid] in
theorem of_published {verdict : Verdict} (story : KeyStory record stages key)
    (current : stages pid = some (.published key verdict)) :
    (∃ cached, record = verdict.record cached) ∧
      ∀ other, Away (stages other) key ∨ stages other = some (.published key verdict) := by
  have near : ¬Away (stages pid) key := by simp [Away, current, Settling.key]
  rcases story.of_near near with ⟨_, holder, _⟩ | ⟨other, _, holder, _⟩ |
    ⟨other, same, holder, holders⟩
  · simp [holder] at current
  · simp [holder] at current
  · rw [holder, Option.some.injEq, Settling.published.injEq] at current
    obtain ⟨_, rfl⟩ := current
    exact ⟨same, holders⟩

omit [DecidableEq Pid] in
theorem of_rowless (story : KeyStory record stages key) (rowless : record.row = none) :
    record = ⟨none, 0, 0, none⟩ ∧ ∀ pid, Away (stages pid) key := by
  cases story with
  | absent same unseen => exact ⟨same, unseen⟩
  | claimed owner row same => simp [same] at rowless
  | recorded owner verdict same => simp [same] at rowless
  | published verdict cached same => simp [same, Verdict.record] at rowless
  | abandoned row filled rejected same => simp [same] at rowless

theorem others_update (others : ∀ other, other ≠ pid → Away (stages other) key)
    (other : Pid) (elsewhere : other ≠ pid) : Away (Function.update stages pid next other) key := by
  rw [Function.update_of_ne elsewhere]
  exact others other elsewhere

theorem idle_update (others : ∀ other, other ≠ pid → Away (stages other) key) (other : Pid) :
    Away (Function.update stages pid (some .idle) other) key := by
  by_cases here : other = pid
  · subst here
    simp [Away, Settling.key]
  · exact others_update others other here

theorem claim {row : TradeStatus × Option String} (story : KeyStory record stages key)
    (rowless : record.row = none) :
    KeyStory { record with row := some row } (Function.update stages pid (some (.claimed key)))
      key := by
  obtain ⟨rfl, unseen⟩ := story.of_rowless rowless
  exact .claimed pid row rfl (by simp) (others_update fun other _ => unseen other)

theorem lose {row : TradeStatus × Option String} (story : KeyStory record stages key)
    (rowless : record.row = none) :
    KeyStory { record with row := some row } (Function.update stages pid (some .idle)) key := by
  obtain ⟨rfl, unseen⟩ := story.of_rowless rowless
  exact .abandoned row 0 0 rfl (by omega) (idle_update fun other _ => unseen other)

theorem write (verdict : Verdict) (story : KeyStory record stages key)
    (current : stages pid = some (.claimed key)) :
    let after : KeyRecord := { record with
      row := record.row.map fun _ => (verdict.status, verdict.desc) }
    KeyStory after (Function.update stages pid (some (.recorded key verdict))) key ∧
      KeyStory after (Function.update stages pid (some .idle)) key := by
  obtain ⟨⟨row, rfl⟩, others⟩ := story.of_claimed current
  exact ⟨.recorded pid verdict rfl (by simp) (others_update others),
    .abandoned _ 0 0 rfl (by omega) (idle_update others)⟩

theorem publish {verdict : Verdict} {after : KeyRecord} (story : KeyStory record stages key)
    (current : stages pid = some (.recorded key verdict))
    (added : record = ⟨some (verdict.status, verdict.desc), 0, 0, none⟩ →
      after = verdict.record none) :
    KeyStory after (Function.update stages pid (some (.published key verdict))) key ∧
      KeyStory after (Function.update stages pid (some .idle)) key := by
  obtain ⟨same, others⟩ := story.of_recorded current
  have entered := added same
  refine ⟨.published verdict none entered nofun fun other => ?_,
    .published verdict none entered nofun fun other => .inl (idle_update others other)⟩
  by_cases here : other = pid
  · subst here
    exact .inr (by simp)
  · exact .inl (others_update others other here)

theorem cache {verdict : Verdict} {view : ResultView} (story : KeyStory record stages key)
    (current : stages pid = some (.published key verdict)) (agrees : view.verdict = verdict) :
    KeyStory { record with cached := some view } (Function.update stages pid (some .idle)) key := by
  obtain ⟨⟨cached, rfl⟩, holders⟩ := story.of_published current
  refine .published verdict (some view) rfl (fun other same => ?_) fun other => ?_
  · obtain rfl := Option.some.inj same
    exact agrees
  · by_cases here : other = pid
    · subst here
      exact .inl (by simp [Away, Settling.key])
    · rw [Function.update_of_ne here]
      exact holders other

omit [DecidableEq Pid] in
theorem expire (story : KeyStory record stages key) :
    KeyStory { record with cached := none } stages key := by
  cases story with
  | absent same unseen => exact .absent (by rw [same]) unseen
  | claimed owner row same holder others => exact .claimed owner row (by rw [same]) holder others
  | recorded owner verdict same holder others =>
      exact .recorded owner verdict (by rw [same]) holder others
  | published verdict cached same agrees holders =>
      exact .published verdict none (by rw [same]; rfl) nofun holders
  | abandoned row filled rejected same few unseen =>
      exact .abandoned row filled rejected (by rw [same]) few unseen

end KeyStory

def Stories (world : World) (stages : Pid → Option Settling) : Prop :=
  ∀ key, KeyStory (world.record key) stages key

variable {world after : World}

omit [DecidableEq Pid] in
theorem away_idle (key : String) : Away (some .idle) key := by simp [Away, Settling.key]

theorem Stories.drop (held : Stories world stages)
    (same : ∀ key, after.record key = world.record key) (away : ∀ key, Away next key) :
    Stories after (Function.update stages pid next) := by
  intro key
  rw [same]
  exact (held key).drop (away key)

theorem Stories.touch (touched : String) (held : Stories world stages)
    (there : KeyStory (after.record touched) (Function.update stages pid next) touched)
    (same : ∀ key, key ≠ touched → after.record key = world.record key)
    (away : ∀ key, key ≠ touched → Away next key) :
    Stories after (Function.update stages pid next) := by
  intro key
  by_cases here : key = touched
  · subst here
    exact there
  · rw [same key here]
    exact (held key).drop (away key here)

theorem Stories.insertPending {row : TradeRow} {reply : Except PyError ℕ}
    (held : Stories world stages)
    (answered : world.answer (.insertPending row) reply = some after) :
    Stories after (Function.update stages pid
      (some (settling.advance .idle (.insertPending row) reply))) := by
  have elsewhere : ∀ key, key ≠ row.idempotencyKey →
      (world.apply (.insertPending row)).record key = world.record key := by
    intro key apart
    rw [World.record_insert]
    simp [apart]
  have there := World.record_insert world row row.idempotencyKey
  rw [if_pos rfl] at there
  cases present : (world.record row.idempotencyKey).row with
  | some found =>
      have unchanged : ∀ key, (world.apply (.insertPending row)).record key = world.record key := by
        intro key
        by_cases here : key = row.idempotencyKey
        · rw [here, there, present, Option.getD_some, ← present]
        · exact elsewhere key here
      have idle : settling.advance .idle (.insertPending row) reply = .idle := by
        cases reply with
        | error error => rfl
        | ok rowcount =>
            obtain ⟨given, _⟩ := World.answer_ok answered
            simp only [World.replies, Bool.and_eq_true, decide_eq_true_eq] at given
            have lost : rowcount ≠ 1 := by
              intro won
              have absent := KeyedTable.insertCount_eq_one.mp (given.2.symm.trans won)
              simp [World.record, absent] at present
            simp [settling, lost]
      rw [idle]
      refine held.drop (fun key => ?_) away_idle
      rcases World.answer_eq answered with rfl | rfl
      · rfl
      · exact unchanged key
  | none =>
      rw [present, Option.getD_none] at there
      rcases reply with error | rowcount
      · rcases World.answer_eq answered with rfl | rfl
        · exact held.drop (fun _ => rfl) away_idle
        · refine held.touch row.idempotencyKey ?_ elsewhere fun key _ => away_idle key
          rw [there]
          exact (held _).lose present
      · obtain ⟨given, rfl⟩ := World.answer_ok answered
        simp only [World.replies, Bool.and_eq_true, decide_eq_true_eq] at given
        have absent : world.trades.find? row.idempotencyKey = none := by
          simpa [World.record] using present
        have won : rowcount = 1 := given.2.trans (KeyedTable.insertCount_eq_one.mpr absent)
        have claimed : settling.advance .idle (.insertPending row) (.ok rowcount) =
            .claimed row.idempotencyKey := by simp [settling, won]
        rw [claimed]
        refine held.touch row.idempotencyKey ?_ elsewhere fun key apart => ?_
        · rw [there]
          exact (held _).claim present
        · simpa [Away, Settling.key] using Ne.symm apart

theorem Stories.fail {effect : Effect} {error : PyError} (touched : String)
    (held : Stories world stages) (answered : world.answer effect (.error error) = some after)
    (there : KeyStory ((world.apply effect).record touched)
      (Function.update stages pid (some .idle)) touched)
    (same : ∀ key, key ≠ touched → (world.apply effect).record key = world.record key) :
    Stories after (Function.update stages pid (some .idle)) := by
  rcases World.answer_eq answered with rfl | rfl
  · exact held.drop (fun _ => rfl) away_idle
  · exact held.touch touched there same fun key _ => away_idle key

theorem Stories.setStatus {key : String} {update : StatusUpdate} {reply : Except PyError Unit}
    {verdict : Verdict} (held : Stories world stages) (current : stages pid = some (.claimed key))
    (status : update.status = verdict.status) (desc : update.desc = verdict.desc)
    (answered : world.answer (.setStatus key update) reply = some after) :
    Stories after (Function.update stages pid
      (some (settling.advance (.claimed key) (.setStatus key update) reply))) := by
  have same : ∀ other, other ≠ key →
      (world.apply (.setStatus key update)).record other = world.record other := by
    intro other apart
    rw [World.record_setStatus world status desc, if_neg apart]
  have there := World.record_setStatus world status desc key key
  rw [if_pos rfl] at there
  have done := (held key).write verdict current
  rw [← there] at done
  cases reply with
  | error error => exact held.fail key answered done.2 same
  | ok value =>
      obtain ⟨_, rfl⟩ := World.answer_ok answered
      have decided : (⟨update.status = .filled, update.desc⟩ : Verdict) = verdict := by
        cases accepted : verdict.accepted <;>
          simp [status, desc, Verdict.status, accepted, Verdict.ext_iff]
      refine held.touch key ?_ same fun other apart => by
        simpa [settling, Away, Settling.key] using Ne.symm apart
      simp only [settling, decided]
      exact done.1

theorem Stories.publish {key : String} {verdict : Verdict} {effect : Effect}
    {reply : Except PyError effect.Reply} {stage : Settling} (held : Stories world stages)
    (current : stages pid = some (.recorded key verdict))
    (answered : world.answer effect reply = some after)
    (there : world.record key = ⟨some (verdict.status, verdict.desc), 0, 0, none⟩ →
      (world.apply effect).record key = verdict.record none)
    (same : ∀ other, other ≠ key → (world.apply effect).record other = world.record other)
    (failed : ∀ error, reply = .error error → stage = .idle)
    (passed : ∀ value, reply = .ok value → stage = .published key verdict) :
    Stories after (Function.update stages pid (some stage)) := by
  have done := (held key).publish current there
  cases reply with
  | error error =>
      rw [failed error rfl]
      exact held.fail key answered done.2 same
  | ok value =>
      obtain ⟨_, rfl⟩ := World.answer_ok answered
      rw [passed value rfl]
      refine held.touch key done.1 same fun other apart => ?_
      simpa [Away, Settling.key] using Ne.symm apart

theorem Stories.redisSet {key : String} {verdict : Verdict} {view : ResultView}
    {reply : Except PyError Unit} (held : Stories world stages)
    (current : stages pid = some (.published key verdict)) (agrees : view.verdict = verdict)
    (answered : world.answer (.redisSet (resultKey key) view) reply = some after) :
    Stories after (Function.update stages pid (some .idle)) := by
  have there := (held key).cache current agrees
  have cached := World.record_cached world view key key
  rw [if_pos rfl] at cached
  rw [← cached] at there
  rcases World.answer_eq answered with rfl | rfl
  · exact held.drop (fun _ => rfl) away_idle
  · refine held.touch key there (fun other apart => ?_) fun other _ => away_idle other
    rw [World.record_cached, if_neg apart]

theorem Stories.answer {stage : Settling} {effect : Effect} {reply : Except PyError effect.Reply}
    (held : Stories world stages) (current : stages pid = some stage)
    (allowed : settling.allowed stage effect)
    (answered : world.answer effect reply = some after) :
    Stories after (Function.update stages pid (some (settling.advance stage effect reply))) := by
  by_cases unsettling : effect.Unsettling
  · rw [(settling_inert effect unsettling).2 reply trivial, ← current, Function.update_eq_self]
    intro key
    rcases World.answer_eq answered with rfl | rfl
    · exact held key
    · rw [world.record_apply unsettling]
      exact held key
  · cases effect with
    | insertPending row =>
        cases stage with
        | idle => exact held.insertPending answered
        | _ => exact allowed.elim
    | setStatus wanted update =>
        cases stage with
        | claimed key =>
            obtain ⟨rfl, verdict, status, desc⟩ := allowed
            exact held.setStatus current status desc answered
        | _ => exact allowed.elim
    | xaddFilled entry =>
        cases stage with
        | recorded key verdict =>
            obtain ⟨rfl, accepted⟩ := allowed
            refine held.publish current answered (fun same => ?_) (fun other apart => ?_) ?_ ?_
            · rw [World.record_filled, same]
              simp [Verdict.record, accepted]
            · rw [World.record_filled]
              simp [Ne.symm apart]
            · rintro error rfl
              rfl
            · rintro value rfl
              rfl
        | _ => exact allowed.elim
    | xaddRejected entry =>
        cases stage with
        | recorded key verdict =>
            obtain ⟨rfl, refused⟩ := allowed
            refine held.publish current answered (fun same => ?_) (fun other apart => ?_) ?_ ?_
            · rw [World.record_rejected, same]
              simp [Verdict.record, refused]
            · rw [World.record_rejected]
              simp [Ne.symm apart]
            · rintro error rfl
              rfl
            · rintro value rfl
              rfl
        | _ => exact allowed.elim
    | redisSet wanted view =>
        cases stage with
        | published key verdict =>
            obtain ⟨rfl, agrees⟩ := allowed
            have idle : settling.advance (.published key verdict) (.redisSet (resultKey key) view)
                reply = .idle := by cases reply <;> rfl
            rw [idle]
            exact held.redisSet current agrees answered
        | _ => exact allowed.elim
    | _ => exact absurd trivial unsettling

omit [DecidableEq Pid] in
theorem Stories.environment {event : WorldEvent} (held : Stories world stages)
    (happened : world.environment event = some after) : Stories after stages := by
  intro key
  cases event with
  | publish message =>
      simp only [World.environment] at happened
      split at happened
      · simp at happened
      · rw [← Option.some.inj happened]
        exact held key
  | loseGroup =>
      rw [← Option.some.inj happened]
      exact held key
  | expire expired =>
      rw [← Option.some.inj happened]
      by_cases here : resultKey key = expired
      · have emptied : ({ world with results := Function.update world.results expired none } :
            World).record key = { world.record key with cached := none } := by
          simp [World.record, World.filledCount, World.rejectedCount, here]
        rw [emptied]
        exact (held key).expire
      · have untouched : ({ world with results := Function.update world.results expired none } :
            World).record key = world.record key := by
          simp [World.record, World.filledCount, World.rejectedCount, here]
        rw [untouched]
        exact held key

theorem settling_maintains (service : ExecutionService) :
    settling.Maintains service.system (fun world (stages : Pid → Option Settling) =>
      Stories world stages) where
  follows := entry_settles service
  start _ _ _ _ held _ _ := held.drop (fun _ => rfl) away_idle
  finish _ _ _ _ held _ _ := held.drop (fun _ => rfl) fun _ => nofun
  fail _ _ _ _ _ held _ _ := held.drop (fun _ => rfl) fun _ => nofun
  crash _ _ _ _ held _ _ := held.drop (fun _ => rfl) fun _ => nofun
  environment _ _ _ _ held happened := held.environment happened
  answer _ _ _ _ _ _ _ held current allowed _ _ answered := held.answer current allowed answered

/-- The cached result of a key agrees with its row and its entry, and a key has entries of one
kind at most. -/
structure World.FastPathAgrees (world : World) (key : String) : Prop where
  cached : ∀ view, world.results (resultKey key) = some view →
    (∃ row, world.trades.find? key = some row ∧
      (row.status = .filled ∨ row.status = .rejected) ∧
      (row.status = .filled ↔ view.accepted = true) ∧
      row.retcodeDesc = view.retcodeDescription) ∧
    world.filledCount key = (if view.accepted then 1 else 0) ∧
    world.rejectedCount key = (if view.accepted then 0 else 1)
  exclusive : world.filledCount key = 0 ∨ world.rejectedCount key = 0

omit [DecidableEq Pid] in
theorem World.FastPathAgrees.of_uncached {world : World}
    (uncached : (world.record key).cached = none)
    (few : (world.record key).filled + (world.record key).rejected ≤ 1) :
    world.FastPathAgrees key where
  cached := by
    intro view cached
    rw [show world.results (resultKey key) = none from uncached] at cached
    cases cached
  exclusive := by
    change world.filledCount key + world.rejectedCount key ≤ 1 at few
    omega

omit [DecidableEq Pid] in
theorem KeyStory.agrees {world : World} (story : KeyStory (world.record key) stages key) :
    world.FastPathAgrees key := by
  cases story with
  | absent same => exact .of_uncached (by rw [same]) (by simp [same])
  | claimed owner row same => exact .of_uncached (by rw [same]) (by simp [same])
  | recorded owner verdict same => exact .of_uncached (by rw [same]) (by simp [same])
  | abandoned row filled rejected same few =>
      exact .of_uncached (by rw [same]) (by simpa [same] using few)
  | published verdict cached same agrees =>
      simp only [World.record, Verdict.record, KeyRecord.mk.injEq] at same
      obtain ⟨rowed, filled, rejected, results⟩ := same
      refine ⟨fun view known => ?_, ?_⟩
      · obtain rfl := agrees view (results.symm.trans known)
        obtain ⟨row, found, written⟩ := Option.map_eq_some_iff.mp rowed
        obtain ⟨status, desc⟩ := Prod.mk.inj written
        refine ⟨⟨row, found, ?_, ?_, desc⟩, filled, rejected⟩
        · rw [status]
          cases accepted : view.verdict.accepted <;> simp [Verdict.status, accepted]
        · rw [status]
          change _ ↔ view.verdict.accepted = true
          cases accepted : view.verdict.accepted <;> simp [Verdict.status, accepted]
      · cases accepted : verdict.accepted with
        | false => exact .inl (by rw [filled]; simp [accepted])
        | true => exact .inr (by rw [rejected]; simp [accepted])

structure World.Unused (world : World) : Prop extends World.Unbooked world where
  filled : world.filled = []
  rejected : world.rejected = []

omit [DecidableEq Pid] in
theorem World.Unused.stories (unused : world.Unused) : Stories world (fun _ : Pid => none) := by
  intro key
  refine .absent ?_ fun _ => nofun
  simp [World.record, KeyedTable.find?, World.filledCount, World.rejectedCount, unused.rows,
    unused.filled, unused.rejected, unused.results]

/-- In every state that the workers can reach, whatever fails, crashes or expires. -/
theorem fast_path_agrees (service : ExecutionService) {world : World}
    {trace : List (ServiceLabel Pid)} {after : ServiceConfig Pid} (unused : world.Unused)
    (ran : service.system.run (ServiceConfig.idle world) trace = some after) (key : String) :
    after.world.FastPathAgrees key := by
  have assumed : settling.Assumes (fun _ : Pid => none) trace :=
    Discipline.assumes_of_forall (fun _ _ _ _ _ => trivial) fun _ _ _ => trivial
  have held := (settling_maintains service).run (Discipline.matches_initial world) unused.stories
    assumed ran
  exact (held.2 key).agrees

end Invariant

theorem fast_path_agrees_filled : ∃ after,
    (Sample.service (some {})).system.run (ServiceConfig.idle {}) (Sample.filling ()) =
      some after ∧ after.world.results (resultKey Sample.key) = some Sample.view ∧
        after.world.FastPathAgrees Sample.key := by
  have ran : ((Sample.service (some {})).system.run (ServiceConfig.idle {})
      (Sample.filling ())).map (fun after => after.world.results (resultKey Sample.key)) =
        some (some Sample.view) := by decide +kernel
  obtain ⟨after, reached, cached⟩ := Option.map_eq_some_iff.mp ran
  exact ⟨after, reached, cached, fast_path_agrees _ ⟨⟨rfl, fun _ => rfl⟩, rfl, rfl⟩ reached _⟩

end Vix75
