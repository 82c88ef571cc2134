import Vix75.SweepChecks

/-! When the broker tickets that dry-run executions draw from the clock identify the open
trades. -/

namespace Vix75

open EffectProgram

/-- The open filled rows carry distinct tickets, and one ticket leads to one trade. -/
structure World.TicketsIdentify (world : World) : Prop where
  distinct : (world.openTrades.filterMap TradeRow.brokerTicket).Nodup
  closes : ∀ ticket, world.trades.rows.countP (TradeRow.openWithTicket ticket) ≤ 1
  found : ∀ row ∈ world.trades.rows, ∀ ticket, row.openWithTicket ticket = true →
    ∀ answer, world.replies (.tradeByTicket ticket) answer = true → answer = some row
  mapped : ∀ row ∈ world.openTrades, ∀ ticket, row.brokerTicket = some ticket →
    byTicket world.openTrades ticket = some row

theorem mem_openTrades {world : World} {row : TradeRow} : row ∈ world.openTrades ↔
    row ∈ world.trades.rows ∧ row.status = .filled ∧ row.closedAt = none := by
  simp [World.openTrades]

theorem World.DistinctTickets.eq {world : World} (distinct : world.DistinctTickets) {ticket : ℤ}
    {first second : TradeRow} (member : first ∈ world.trades.rows)
    (opened : first.openWithTicket ticket = true) (other : second ∈ world.trades.rows)
    (otherOpened : second.openWithTicket ticket = true) : first = second :=
  KeyedTable.eq_of_countP_le_one (distinct ticket) member opened other otherOpened

theorem World.DistinctTickets.identify {world : World} (distinct : world.DistinctTickets) :
    world.TicketsIdentify where
  distinct := by
    have rows : world.openTrades.Nodup := by
      have keyed := world.trades.unique.of_map
      exact List.nodup_reverse.mpr (keyed.filter _)
    refine List.pairwise_filterMap.mpr (rows.imp_of_mem ?_)
    intro first second member other different ticket carried otherTicket otherCarried same
    subst same
    obtain ⟨stored, _, stillOpen⟩ := mem_openTrades.mp member
    obtain ⟨otherStored, _, otherOpen⟩ := mem_openTrades.mp other
    exact different (distinct.eq stored (openWithTicket_iff.mpr ⟨carried, stillOpen⟩) otherStored
      (openWithTicket_iff.mpr ⟨otherCarried, otherOpen⟩))
  closes := distinct
  found := by
    intro row member ticket opened answer replied
    cases answer with
    | none =>
        simp only [World.replies, Bool.not_eq_eq_eq_not, Bool.not_true,
          List.any_eq_false] at replied
        exact absurd opened (replied row member)
    | some other =>
        simp only [World.replies, Bool.and_eq_true, decide_eq_true_eq] at replied
        rw [distinct.eq replied.1 replied.2 member opened]
  mapped := by
    intro row member ticket carried
    obtain ⟨stored, _, stillOpen⟩ := mem_openTrades.mp member
    have opened : row.openWithTicket ticket = true := openWithTicket_iff.mpr ⟨carried, stillOpen⟩
    unfold byTicket
    cases found : world.openTrades.reverse.find? fun row => row.brokerTicket = some ticket with
    | none =>
        have absent := List.find?_eq_none.mp found row (by simpa using member)
        simp [carried] at absent
    | some other =>
        have carriedOther : other.brokerTicket = some ticket := by
          simpa using List.find?_some found
        have memberOther : other ∈ world.openTrades := by
          simpa using List.mem_of_find?_eq_some found
        obtain ⟨storedOther, _, openOther⟩ := mem_openTrades.mp memberOther
        rw [distinct.eq storedOther (openWithTicket_iff.mpr ⟨carriedOther, openOther⟩) stored
          opened]

inductive Drawing where
  | idle
  | executing
  | holding (ticket : ℤ)

/-- `int(time.time())`. -/
def clockSecond (now : ℚ) : ℤ := now.num.tdiv now.den

def drawing : Discipline Effect Effect.Reply PyError ServiceRequest Drawing where
  initial := fun _ => .idle
  allowed := fun stage effect => match effect, stage with
    | .insertPending row, _ => row.brokerTicket = none
    | .setStatus _ update, .holding ticket =>
        update.status = .filled ∧ update.ticket = some ticket
    | .setStatus _ _, _ => False
    | _, _ => True
  advance := fun stage effect reply => match effect, stage, reply with
    | .startExecute _, _, _ => .executing
    | .time, .executing, .ok now => .holding (clockSecond now)
    | .setStatus _ _, _, _ => .idle
    | _, _, _ => stage

def Effect.Ticketless : Effect → Prop
  | .insertPending _ => False
  | .setStatus _ _ => False
  | .startExecute _ => False
  | .time => False
  | _ => True

theorem drawing_inert {stage : Drawing} (effect : Effect) (ticketless : effect.Ticketless) :
    drawing.allowed stage effect ∧
      ∀ reply, drawing.assumed stage effect reply → drawing.advance stage effect reply = stage := by
  cases effect <;> first | exact absurd ticketless id | exact ⟨trivial, fun _ _ => rfl⟩

def Effect.Bystanding : Effect → Prop
  | .insertPending _ => False
  | .setStatus _ _ => False
  | .startExecute _ => False
  | _ => True

theorem drawing_idle (effect : Effect) (bystanding : effect.Bystanding) :
    drawing.allowed .idle effect ∧
      ∀ reply, drawing.assumed .idle effect reply → drawing.advance .idle effect reply = .idle := by
  cases effect <;> first | exact absurd bystanding id | exact ⟨trivial, fun _ _ => rfl⟩

theorem drawing_of_uses {α : Type} {stage : Drawing} {program : Execution α}
    (used : program.Uses Effect.Ticketless) :
    drawing.wp stage program (fun after _ => after = stage) (fun _ _ => True) :=
  Discipline.wp_mono (Discipline.wp_of_uses used drawing_inert) (fun _ _ same => same)
    (fun _ _ _ => trivial)

theorem bystanding_of_uses {α : Type} {program : Execution α}
    (used : program.Uses Effect.Bystanding) :
    drawing.wp .idle program (fun after _ => after = .idle) (fun _ _ => True) :=
  Discipline.wp_mono (Discipline.wp_of_uses used drawing_idle) (fun _ _ same => same)
    (fun _ _ _ => trivial)

theorem executeDryRun_draws (executor : MT5Executor) (order : OrderRequest ℚ) :
    drawing.wp .executing (executor.executeDryRun order)
      (fun after outcome => outcome.result.accepted = true ∧
        ∃ ticket, outcome.result.ticket = some ticket ∧ after = .holding ticket)
      (fun _ _ => True) := by
  have drawn : ∀ price : ℚ, drawing.wp .executing
      (do
        let now ← await .time
        .done {
          result := {
            idempotencyKey := order.idempotencyKey
            accepted := true
            retcode := some tradeRetcodeDone
            retcodeDescription := some "DONE (dry_run)"
            ticket := some (clockSecond now)
            price := some price }
          attempts := 0 } : Execution ExecOutcome)
      (fun after outcome => outcome.result.accepted = true ∧
        ∃ ticket, outcome.result.ticket = some ticket ∧ after = .holding ticket)
      (fun _ _ => True) := by
    intro price
    refine Discipline.wp_perform_bind trivial (fun _ _ => trivial) fun now _ => ?_
    exact ⟨rfl, clockSecond now, rfl, rfl⟩
  unfold MT5Executor.executeDryRun
  split
  · refine Discipline.wp_seq _ (drawing_of_uses (tick_uses trivial)) ?_
    rintro current tick rfl
    rw [Prog.done_bind]
    exact drawn _
  · exact drawn order.entry

theorem executeOrder_draws {service : ExecutionService}
    (dry : service.settings.dryRunMode = true) (order : OrderRequest ℚ) (correlationId : String) :
    drawing.wp .idle (executeOrder service order correlationId)
      (fun after _ => after = .idle) (fun _ _ => True) := by
  have dryExecutor : service.executor.settings.dryRunMode = true := dry
  refine Discipline.wp_perform_bind trivial (fun _ _ => trivial) fun _ _ => ?_
  rw [MT5Executor.execute, if_pos dryExecutor]
  refine Discipline.wp_seq _ (executeDryRun_draws service.executor order) ?_
  rintro current outcome ⟨accepted, ticket, carried, rfl⟩
  simp only [accepted, ↓reduceIte]
  unfold settleFilled
  refine Discipline.wp_seq (fun after _ => after = .idle) ?_ ?_
  · refine Discipline.wp_perform_bind ⟨rfl, carried⟩ (fun _ _ => trivial) fun _ _ => ?_
    exact drawing_of_uses (Prog.uses_perform trivial)
  · rintro current _ rfl
    exact drawing_of_uses (Prog.uses_bind (Prog.uses_perform trivial) fun _ => audit_uses trivial)

theorem handleMessage_draws {service : ExecutionService}
    (dry : service.settings.dryRunMode = true) (message : Message) :
    drawing.wp .idle (handleMessage service message)
      (fun after _ => after = .idle) (fun _ _ => True) := by
  refine Discipline.wp_seq (fun after _ => after = .idle) ?_ ?_
  · refine Discipline.wp_seq _ (drawing_of_uses (getOrCreateCorrelationId_uses trivial)) ?_
    rintro current correlationId rfl
    split
    · trivial
    · rfl
    · rename_i order parsed
      refine Discipline.wp_perform_bind trivial (fun _ _ => trivial) fun cached _ => ?_
      cases cached with
      | some view => rfl
      | none =>
          refine Discipline.wp_seq (fun after _ => after = .idle) ?_ ?_
          · unfold insertPending
            split
            · trivial
            · exact Discipline.wp_perform_bind rfl (fun _ _ => trivial) fun _ _ => rfl
          · rintro current won rfl
            cases won with
            | false => rfl
            | true => exact executeOrder_draws dry order correlationId
  · rintro current _ rfl
    exact drawing_of_uses (Prog.uses_perform trivial)

theorem entry_draws {service : ExecutionService} (dry : service.settings.dryRunMode = true)
    (request : ServiceRequest) :
    drawing.wp .idle (service.entry request) (fun _ _ => True) (fun _ _ => True) := by
  have bystands : ∀ {program : Execution Unit}, program.Uses Effect.Bystanding →
      drawing.wp .idle program (fun _ _ => True) (fun _ _ => True) := fun used =>
    Discipline.wp_mono (bystanding_of_uses used) (fun _ _ _ => trivial) (fun _ _ _ => trivial)
  cases request with
  | ensureGroup => exact bystands (ensureGroup_uses trivial)
  | sweep =>
      refine bystands ((runOnce_uses service).mono fun effect sweeping => ?_)
      cases effect <;> trivial
  | close ticket =>
      refine bystands (Prog.uses_bind ?_ fun _ => trivial)
      exact closeRoute_uses trivial trivial (fun _ => trivial) (fun _ => trivial) trivial trivial
        (fun _ => trivial) fun _ => trivial
  | drain =>
      refine Discipline.wp_seq _ (bystanding_of_uses (readBatch_uses trivial trivial trivial)) ?_
      rintro current messages rfl
      have looped : drawing.wp .idle (Prog.forEach messages (handleMessage service))
          (fun after _ => after = .idle) (fun _ _ => True) := by
        refine Discipline.wp_forEach (fun _ stage => stage = Drawing.idle) rfl ?_
        rintro message rest current rfl
        exact handleMessage_draws dry message
      exact Discipline.wp_mono looped (fun _ _ _ => trivial) (fun _ _ _ => trivial)

/-! Interleavings -/

section Interleavings

variable {Pid : Type} [DecidableEq Pid] {world after : World} {stages : Pid → Option Drawing}

/-- An execution that reads the clock draws a ticket that no open row carries and that no other
execution holds. -/
def DrawsFresh (world : World) (stages : Pid → Option Drawing) : ServiceLabel Pid → Prop
  | .answer pid .time (.ok now) => stages pid = some .executing →
      (∀ row ∈ world.trades.rows, row.openWithTicket (clockSecond now) = false) ∧
        ∀ other, stages other ≠ some (.holding (clockSecond now))
  | _ => True

structure TicketsHeld (world : World) (stages : Pid → Option Drawing) : Prop where
  distinct : world.DistinctTickets
  free : ∀ pid ticket, stages pid = some (.holding ticket) →
    ∀ row ∈ world.trades.rows, row.openWithTicket ticket = false
  apart : ∀ pid other ticket, stages pid = some (.holding ticket) →
    stages other = some (.holding ticket) → pid = other

omit [DecidableEq Pid] in
theorem World.KeepsTickets.free (kept : world.KeepsTickets after) {ticket : ℤ}
    (free : ∀ row ∈ world.trades.rows, row.openWithTicket ticket = false) :
    ∀ row ∈ after.trades.rows, row.openWithTicket ticket = false := by
  have none : world.trades.rows.countP (TradeRow.openWithTicket ticket) = 0 :=
    List.countP_eq_zero.mpr fun row member => by simp [free row member]
  have zero := Nat.le_zero.mp (none ▸ kept ticket)
  intro row member
  simpa using List.countP_eq_zero.mp zero row member

theorem TicketsHeld.move {pid : Pid} {stage : Option Drawing} (held : TicketsHeld world stages)
    (kept : world.KeepsTickets after)
    (same : ∀ ticket, stage = some (.holding ticket) → stages pid = some (.holding ticket)) :
    TicketsHeld after (Function.update stages pid stage) := by
  have before : ∀ other ticket, Function.update stages pid stage other =
      some (.holding ticket) → stages other = some (.holding ticket) := by
    intro other ticket holds
    by_cases here : other = pid
    · subst here
      exact same ticket (by simpa using holds)
    · simpa [Function.update_of_ne here] using holds
  refine ⟨held.distinct.keep kept, ?_, ?_⟩
  · intro other ticket holds
    exact kept.free (held.free other ticket (before other ticket holds))
  · intro first second ticket holdsFirst holdsSecond
    exact held.apart first second ticket (before first ticket holdsFirst)
      (before second ticket holdsSecond)

theorem TicketsHeld.draw {pid : Pid} {ticket : ℤ} (held : TicketsHeld world stages)
    (free : ∀ row ∈ world.trades.rows, row.openWithTicket ticket = false)
    (unheld : ∀ other, stages other ≠ some (.holding ticket)) :
    TicketsHeld world (Function.update stages pid (some (.holding ticket))) := by
  have holder : ∀ other wanted, Function.update stages pid (some (.holding ticket)) other =
      some (.holding wanted) → other = pid ∧ wanted = ticket ∨
        stages other = some (.holding wanted) := by
    intro other wanted holds
    by_cases here : other = pid
    · subst here
      simp only [Function.update_self, Option.some.injEq, Drawing.holding.injEq] at holds
      exact .inl ⟨rfl, holds.symm⟩
    · exact .inr (by simpa [Function.update_of_ne here] using holds)
  refine ⟨held.distinct, ?_, ?_⟩
  · intro other wanted holds
    rcases holder other wanted holds with ⟨_, rfl⟩ | before
    · exact free
    · exact held.free other wanted before
  · intro first second wanted holdsFirst holdsSecond
    rcases holder first wanted holdsFirst with ⟨rfl, rfl⟩ | beforeFirst
    · rcases holder second _ holdsSecond with ⟨rfl, _⟩ | beforeSecond
      · rfl
      · exact absurd beforeSecond (unheld second)
    · rcases holder second wanted holdsSecond with ⟨_, rfl⟩ | beforeSecond
      · exact absurd beforeFirst (unheld first)
      · exact held.apart first second wanted beforeFirst beforeSecond

omit [DecidableEq Pid] in
theorem setStatus_open {row : TradeRow} {key : String} {update : StatusUpdate} {ticket wanted : ℤ}
    (filled : update.status = .filled) (carried : update.ticket = some ticket)
    (opened : (if row.idempotencyKey = key then row.setStatus update else row).openWithTicket
      wanted = true) :
    row.idempotencyKey = key ∧ wanted = ticket ∨ row.openWithTicket wanted = true := by
  split at opened
  · rename_i same
    have written := (openWithTicket_iff.mp opened).1
    simp only [TradeRow.setStatus, filled, carried, Option.some.injEq] at written
    exact .inl ⟨same, written.symm⟩
  · exact .inr opened

theorem TicketsHeld.write {pid : Pid} {key : String} {update : StatusUpdate} {ticket : ℤ}
    (held : TicketsHeld world stages) (current : stages pid = some (.holding ticket))
    (filled : update.status = .filled) (carried : update.ticket = some ticket) :
    TicketsHeld (world.apply (.setStatus key update))
      (Function.update stages pid (some .idle)) := by
  have free := held.free pid ticket current
  have before : ∀ other wanted, Function.update stages pid (some .idle) other =
      some (.holding wanted) → other ≠ pid ∧ stages other = some (.holding wanted) := by
    intro other wanted holds
    by_cases here : other = pid
    · subst here
      simp at holds
    · exact ⟨here, by simpa [Function.update_of_ne here] using holds⟩
  refine ⟨fun wanted => ?_, ?_, ?_⟩
  · simp only [World.apply, KeyedTable.update, List.countP_map]
    by_cases same : wanted = ticket
    · subst same
      refine le_trans (List.countP_mono_left fun row member opened => ?_)
        (world.trades.countP_key_le_one key)
      rcases setStatus_open filled carried (by simpa using opened) with ⟨keyed, _⟩ | already
      · simpa using keyed
      · simp [free row member] at already
    · refine le_trans (List.countP_mono_left fun row _ opened => ?_) (held.distinct wanted)
      rcases setStatus_open filled carried (by simpa using opened) with ⟨_, drawn⟩ | already
      · exact absurd drawn same
      · exact already
  · intro other wanted holds row member
    obtain ⟨elsewhere, held'⟩ := before other wanted holds
    obtain ⟨old, stored, rfl⟩ := List.mem_map.mp member
    by_contra opened
    rcases setStatus_open filled carried (by simpa using opened) with ⟨_, rfl⟩ | already
    · exact elsewhere (held.apart other pid wanted held' current)
    · simp [held.free other wanted held' old stored] at already
  · intro first second wanted holdsFirst holdsSecond
    exact held.apart first second wanted (before first wanted holdsFirst).2
      (before second wanted holdsSecond).2

omit [DecidableEq Pid] in
theorem keepsTickets_insert (world : World) {row : TradeRow}
    (ticketless : row.brokerTicket = none) :
    world.KeepsTickets (world.apply (.insertPending row)) := by
  intro ticket
  simp only [World.apply, KeyedTable.insert]
  split
  · simp [TradeRow.openWithTicket, ticketless]
  · exact le_rfl

omit [DecidableEq Pid] in
theorem keepsTickets_apply (world : World) {effect : Effect} (bystanding : effect.Bystanding) :
    world.KeepsTickets (world.apply effect) := by
  cases effect with
  | closeByTicket ticket closedAt profit => exact world.keepsTickets_close ticket closedAt profit
  | _ => first | exact absurd bystanding id | exact fun _ => le_rfl

omit [DecidableEq Pid] in
theorem keepsTickets_answer {effect : Effect} {reply : Except PyError effect.Reply}
    (kept : world.KeepsTickets (world.apply effect))
    (answered : world.answer effect reply = some after) : world.KeepsTickets after := by
  rcases World.answer_eq answered with rfl | rfl
  · exact fun _ => le_rfl
  · exact kept

omit [DecidableEq Pid] in
theorem TicketsHeld.environment {event : WorldEvent} (held : TicketsHeld world stages)
    (happened : world.environment event = some after) : TicketsHeld after stages := by
  obtain ⟨_, trades, _⟩ := environment_keeps happened
  obtain ⟨distinct, free, apart⟩ := held
  refine ⟨?_, ?_, apart⟩
  · simpa [World.DistinctTickets, trades] using distinct
  · simpa [trades] using free

theorem TicketsHeld.answer {pid : Pid} {stage : Drawing} {effect : Effect}
    {reply : Except PyError effect.Reply} (held : TicketsHeld world stages)
    (current : stages pid = some stage) (allowed : drawing.allowed stage effect)
    (fresh : DrawsFresh world stages (.answer pid effect reply))
    (answered : world.answer effect reply = some after) :
    TicketsHeld after
      (Function.update stages pid (some (drawing.advance stage effect reply))) := by
  by_cases ticketless : effect.Ticketless
  · rw [(drawing_inert effect ticketless).2 reply trivial, ← current]
    have bystanding : effect.Bystanding := by cases effect <;> trivial
    refine held.move (keepsTickets_answer (keepsTickets_apply world bystanding) answered) ?_
    exact fun _ holds => holds
  · cases effect with
    | insertPending row =>
        have kept := keepsTickets_answer (keepsTickets_insert world allowed) answered
        refine held.move kept fun ticket holds => ?_
        rw [current, ← holds]
        rfl
    | startExecute key =>
        refine held.move (fun _ => ?_) fun ticket holds => by simp [drawing] at holds
        rcases World.answer_eq answered with rfl | rfl <;> exact le_rfl
    | setStatus key update =>
        cases stage with
        | idle => exact allowed.elim
        | executing => exact allowed.elim
        | holding ticket =>
            obtain ⟨filled, carried⟩ := allowed
            rcases World.answer_eq answered with rfl | rfl
            · refine held.move (fun _ => le_rfl) fun ticket holds => ?_
              simp [drawing] at holds
            · exact held.write current filled carried
    | time =>
        have same : after = world := by rcases World.answer_eq answered with rfl | rfl <;> rfl
        have kept : world.KeepsTickets after := same ▸ fun _ => le_rfl
        cases stage with
        | executing =>
            cases reply with
            | error error =>
                refine held.move kept fun ticket holds => ?_
                simp [drawing] at holds
            | ok now =>
                obtain ⟨_, rfl⟩ := World.answer_ok answered
                obtain ⟨free, unheld⟩ := fresh current
                exact held.draw free unheld
        | idle => exact held.move kept fun ticket holds => by simp [drawing] at holds
        | holding ticket =>
            refine held.move kept fun wanted holds => ?_
            rw [current, ← holds]
            rfl
    | _ => exact absurd trivial ticketless

theorem TicketsHeld.step {service : ExecutionService} {label : ServiceLabel Pid}
    (held : TicketsHeld world stages) (fresh : DrawsFresh world stages label)
    (moved : drawing.Moves service.system world stages label after) :
    TicketsHeld after (drawing.track stages label) := by
  cases moved with
  | start pid request idle =>
      exact held.move (fun _ => le_rfl) fun ticket holds => by simp [drawing] at holds
  | answer pid stage effect reply after current allowed answered =>
      have moved := held.answer current allowed fresh answered
      simpa [Discipline.track, current] using moved
  | finish pid stage current finished =>
      exact held.move (fun _ => le_rfl) fun ticket holds => by simp at holds
  | fail pid stage error current failed =>
      exact held.move (fun _ => le_rfl) fun ticket holds => by simp at holds
  | crash pid stage current =>
      exact held.move (fun _ => le_rfl) fun ticket holds => by simp at holds
  | environment event after happened => exact held.environment happened

/-- In dry run, whatever fails and however the workers interleave: while every execution draws
a clock second that no open row carries and no other execution holds, the tickets identify the
open trades. -/
theorem dryRun_tickets_identify (service : ExecutionService)
    (dry : service.settings.dryRunMode = true) {world : World} {trace : List (ServiceLabel Pid)}
    {after : ServiceConfig Pid} (distinct : world.DistinctTickets)
    (fresh : drawing.Guarded service.system DrawsFresh (ServiceConfig.idle world) (fun _ => none)
      trace)
    (ran : service.system.run (ServiceConfig.idle world) trace = some after) :
    after.world.TicketsIdentify := by
  have initial : TicketsHeld world (fun _ : Pid => none) := ⟨distinct, nofun, nofun⟩
  have assumed : drawing.Assumes (fun _ : Pid => none) trace :=
    Discipline.assumes_of_forall (fun _ _ _ _ _ => trivial) fun _ _ _ => trivial
  have held := Discipline.run_guarded TicketsHeld (entry_draws dry)
    (fun _ _ _ _ held fresh moved => held.step fresh moved)
    (Discipline.matches_initial world) initial assumed fresh ran
  exact held.2.distinct.identify

end Interleavings

theorem dryRun_tickets_identify_one : ∃ after,
    (Sample.service (some {})).system.run (ServiceConfig.idle {}) (Sample.filling ()) =
      some after ∧ after.world.TicketsIdentify := by
  let first := (Sample.filling ()).take 7
  let last := (Sample.filling ()).drop 8
  have split : Sample.filling () = first ++ .answer () .time (.ok 1700000000) :: last := rfl
  have ran : ((Sample.service (some {})).system.run (ServiceConfig.idle {})
      (Sample.filling ())).isSome := by decide +kernel
  obtain ⟨after, reached⟩ := Option.isSome_iff_exists.mp ran
  refine ⟨after, reached, dryRun_tickets_identify _ rfl ?_ ?_ reached⟩
  · intro ticket
    simp [KeyedTable.empty]
  · rw [split]
    refine Discipline.Guarded.append (Discipline.guarded_of_forall ?_) fun middle before => ?_
    · simp [first, Sample.filling, DrawsFresh]
    · have rows : ((Sample.service (some {})).system.run (ServiceConfig.idle {}) first).map
          (fun middle => middle.world.trades.rows) = some [Sample.row] := by decide +kernel
      rw [before, Option.map_some, Option.some.injEq] at rows
      refine ⟨fun _ => ⟨?_, ?_⟩, fun next _ => Discipline.guarded_of_forall ?_⟩
      · rw [rows]
        simp [TradeRow.openWithTicket, Sample.row]
      · intro other holds
        change some Drawing.executing = _ at holds
        simp at holds
      · simp [last, Sample.filling, DrawsFresh]

namespace Sample

def keyed : ExecutionService := { service none with
  codec := {
    loads := fun _ => .error (.jsonDecodeError "Expecting value")
    intOf := fun _ => none
    validate := fun json => match json.item? "idempotency_key" with
      | some (.str key) => some { order with idempotencyKey := key }
      | _ => none } }

def keyedMessage (id key : String) : Message :=
  ⟨id, fields.map fun field => if field.1 = "idempotency_key" then (field.1, key) else field⟩

def keyedView (ticket : ℤ) : ResultView := { view with ticket := some ticket, price := some 1000 }

def keyedFilling (id key : String) (now : ℚ) (ticket : ℤ) : List (ServiceLabel Unit) :=
  [.answer () (.redisGet (resultKey key)) (.ok none),
   .answer () (.insertPending { row with idempotencyKey := key }) (.ok 1),
   .answer () (.startExecute key) (.ok ()),
   .answer () .time (.ok now),
   .answer () (.setStatus key ⟨.filled, some 10009, some "DONE (dry_run)", some ticket,
     some 1000⟩) (.ok ()),
   .answer () (.xaddFilled ⟨{ order with idempotencyKey := key }, keyedView ticket, ticket, 1000,
     "c-1"⟩) (.ok ()),
   .answer () (.redisSet (resultKey key) (keyedView ticket)) (.ok ()),
   .answer () (.audit ⟨"execution-service", "order.executed", key, "ok", keyedView ticket,
     none⟩) (.ok ()),
   .answer () (.xack id) (.ok ())]

end Sample

/-- Two orders of one batch that are filled within a second get the same ticket. -/
theorem dryRun_tickets_shared :
    ¬ ∀ (service : ExecutionService) (world : World) (trace : List (ServiceLabel Unit))
        (after : ServiceConfig Unit), service.settings.dryRunMode = true →
        world.trades.rows = [] → service.system.run (ServiceConfig.idle world) trace = some after →
        (after.world.openTrades.filterMap TradeRow.brokerTicket).Nodup := by
  intro identified
  let first := Sample.keyedMessage "1-0" "k1"
  let second := Sample.keyedMessage "2-0" "k2"
  let trace : List (ServiceLabel Unit) :=
    [.environment (.publish first), .environment (.publish second), .start () .drain,
     .answer () (.xreadgroup 8) (.ok [first, second])] ++
      Sample.keyedFilling "1-0" "k1" (1700000000 + 1 / 4) 1700000000 ++
      Sample.keyedFilling "2-0" "k2" (1700000000 + 1 / 2) 1700000000
  have ran : (Sample.keyed.system.run (ServiceConfig.idle {}) trace).map
      (fun after => after.world.openTrades.filterMap TradeRow.brokerTicket) =
        some [1700000000, 1700000000] := by decide +kernel
  obtain ⟨after, reached, tickets⟩ := Option.map_eq_some_iff.mp ran
  have distinct := identified _ {} trace after rfl rfl reached
  rw [tickets] at distinct
  simp at distinct

end Vix75
