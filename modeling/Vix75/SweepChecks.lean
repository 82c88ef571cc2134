import Vix75.ProgramResults
import Vix75.SweepCore

/-! Reconciliation sweeps: which closes they report, which positions they close, and what
becomes of the profit of a trade that was closed by hand. -/

namespace Vix75

open EffectProgram

/-- The entries published since `before` are one for each row that was closed since, and
carry its key and its profit. -/
structure ReportsCloses (before after : World) (published : List ClosedEntry) : Prop where
  since : after.closed = before.closed ++ published
  once : ∀ key row now, before.trades.find? key = some row → row.closedAt = none →
    after.trades.find? key = some now → now.closedAt ≠ none →
      ∃ entry, published.filter (fun entry => entry.idempotencyKey = key) = [entry] ∧
        now.profit = some entry.pnl
  closed : ∀ entry ∈ published, ∃ row now,
    before.trades.find? entry.idempotencyKey = some row ∧ row.closedAt = none ∧
      after.trades.find? entry.idempotencyKey = some now ∧ now.closedAt ≠ none

/-- Every UPDATE finds at most one open row and is not lost after it took effect, and no
publication is lost. -/
def Reported : StepCondition := fun world effect reply => match effect, reply with
  | .closeByTicket ticket _ _, .ok _ =>
      world.trades.rows.countP (TradeRow.openWithTicket ticket) ≤ 1
  | .closeByTicket _ _ _, .error error => error.applied = false
  | .uuid4, .error _ => False
  | .xaddClosed _, .error error => error.applied = true
  | _, _ => True

structure Reporting (before world : World) : Prop where
  open_ : ∀ key now, world.trades.find? key = some now → now.closedAt = none →
    before.trades.find? key = some now
  reports : ∃ published, ReportsCloses before world published

structure Awaiting (before : World) (rows : List TradeRow) (tickets : List ℤ) (world : World) :
    Prop where
  reporting : Reporting before world
  distinct : tickets.Nodup
  held : ∀ ticket ∈ tickets, ∀ row, byTicket rows ticket = some row →
    row ∈ world.trades.rows ∧ row.openWithTicket ticket = true

theorem Reporting.start (world : World) : Reporting world world := by
  refine ⟨fun _ _ found _ => found, [], (List.append_nil _).symm, ?_, by simp⟩
  intro key row now found opened found' closed
  obtain rfl := Option.some.inj (found.symm.trans found')
  exact absurd opened closed

section Steps

variable {before world after : World} {symbol : String} {rows : List TradeRow} {ticket : ℤ}

theorem ReportsCloses.publish {published : List ClosedEntry} {row : TradeRow}
    {closedAt profit : ℚ} {entry : ClosedEntry} (held : ReportsCloses before world published)
    (found : world.trades.find? row.idempotencyKey = some row)
    (first : before.trades.find? row.idempotencyKey = some row)
    (opened : row.openWithTicket ticket = true)
    (only : ∀ other ∈ world.trades.rows, other.openWithTicket ticket = true → other = row)
    (trades : after.trades = (world.apply (.closeByTicket ticket closedAt profit)).trades)
    (publishes : after.closed = world.closed ++ [entry])
    (key : entry.idempotencyKey = row.idempotencyKey) (pnl : entry.pnl = profit) :
    ReportsCloses before after (published ++ [entry]) := by
  have unclosed := (openWithTicket_iff.mp opened).2
  have closes : after.trades.find? row.idempotencyKey = some (row.close closedAt profit) := by
    rw [find?_closed trades, found]
    simp [opened]
  have keeps : ∀ other now, other ≠ row.idempotencyKey →
      (after.trades.find? other = some now ↔ world.trades.find? other = some now) := by
    intro other now elsewhere
    rw [find?_closed trades]
    cases known : world.trades.find? other with
    | none => simp
    | some old =>
        have apart : old.openWithTicket ticket = false := by
          by_contra hit
          have same := only old (List.mem_of_find?_eq_some known) (by simpa using hit)
          exact elsewhere ((KeyedTable.key_of_find? known).symm.trans (by rw [same]))
        simp [apart]
  refine ⟨by rw [publishes, held.since, List.append_assoc], ?_, ?_⟩
  · intro other old now before_ wasOpen after_ isClosed
    by_cases here : other = row.idempotencyKey
    · subst here
      obtain rfl := Option.some.inj (closes.symm.trans after_)
      have unreported : published.filter (fun entry => entry.idempotencyKey =
          row.idempotencyKey) = [] := by
        rw [List.filter_eq_nil_iff]
        intro earlier member same
        obtain ⟨_, closedRow, _, _, known, isClosed⟩ := held.closed earlier member
        rw [of_decide_eq_true same, found] at known
        obtain rfl := Option.some.inj known
        exact isClosed unclosed
      refine ⟨entry, ?_, by rw [pnl]; rfl⟩
      rw [List.filter_append, unreported]
      simp [key]
    · obtain ⟨reported, one, same⟩ := held.once other old now before_ wasOpen
        ((keeps other now here).mp after_) isClosed
      refine ⟨reported, ?_, same⟩
      have apart : ¬row.idempotencyKey = other := fun same => here same.symm
      rw [List.filter_append, one]
      simp [key, apart]
  · intro reported member
    rcases List.mem_append.mp member with earlier | last
    · obtain ⟨old, now, before_, wasOpen, known, isClosed⟩ := held.closed reported earlier
      refine ⟨old, now, before_, wasOpen, (keeps _ now ?_).mpr known, isClosed⟩
      intro same
      rw [same, found] at known
      obtain rfl := Option.some.inj known
      exact isClosed unclosed
    · obtain rfl := List.mem_singleton.mp last
      rw [key]
      exact ⟨row, _, first, unclosed, closes, by simp [TradeRow.close]⟩

theorem Reporting.publish {row : TradeRow} {closedAt profit : ℚ} {entry : ClosedEntry}
    (held : Reporting before world) (member : row ∈ world.trades.rows)
    (opened : row.openWithTicket ticket = true)
    (few : world.trades.rows.countP (TradeRow.openWithTicket ticket) ≤ 1)
    (trades : after.trades = (world.apply (.closeByTicket ticket closedAt profit)).trades)
    (publishes : after.closed = world.closed ++ [entry])
    (key : entry.idempotencyKey = row.idempotencyKey) (pnl : entry.pnl = profit) :
    Reporting before after := by
  have found := KeyedTable.find?_eq_some_iff.mpr ⟨member, rfl⟩
  have first := held.open_ _ _ found (openWithTicket_iff.mp opened).2
  obtain ⟨published, reports⟩ := held.reports
  refine ⟨?_, published ++ [entry], reports.publish found first opened (fun other inside hit =>
    KeyedTable.eq_of_countP_le_one few inside hit member opened) trades publishes key pnl⟩
  intro other now known unclosed
  rw [find?_closed trades] at known
  obtain ⟨old, before_, rfl⟩ := Option.map_eq_some_iff.mp known
  split at unclosed
  · simp [TradeRow.close] at unclosed
  · rename_i apart
    simpa [apart] using held.open_ other old before_ unclosed

theorem mem_closed_of_ne {row : TradeRow} {closedAt profit : ℚ} {other : ℤ}
    (trades : after.trades = (world.apply (.closeByTicket ticket closedAt profit)).trades)
    (member : row ∈ world.trades.rows) (opened : row.openWithTicket other = true)
    (different : other ≠ ticket) : row ∈ after.trades.rows := by
  have apart : row.openWithTicket ticket = false := by
    rw [TradeRow.openWithTicket, (openWithTicket_iff.mp opened).1]
    simp [different]
  have found := KeyedTable.find?_eq_some_iff.mpr ⟨member, rfl⟩
  have kept : after.trades.find? row.idempotencyKey = some row := by
    rw [find?_closed trades, found]
    simp [apart]
  exact (KeyedTable.find?_eq_some_iff.mp kept).1

theorem Reported.published {entry : ClosedEntry} {reply : Except PyError Unit}
    (answered : world.AnswersUnder Reported (.xaddClosed entry) reply after) :
    after = world.apply (.xaddClosed entry) := by
  obtain ⟨answered, kept⟩ := answered
  cases reply with
  | ok value => exact (World.answer_ok answered).2
  | error error =>
      have applied : error.applied = true := kept
      simpa [World.answer, Effect.tookEffect, applied] using answered.symm

theorem Reported.updated {row : TradeRow} {closedAt profit : ℚ} {reply : Except PyError ℕ}
    (member : row ∈ world.trades.rows) (opened : row.openWithTicket ticket = true)
    (answered : world.AnswersUnder Reported (.closeByTicket ticket closedAt profit) reply after) :
    (∃ error, reply = .error error) ∧ after = world ∨ reply = .ok 1 ∧
      world.trades.rows.countP (TradeRow.openWithTicket ticket) ≤ 1 ∧
        after = world.apply (.closeByTicket ticket closedAt profit) := by
  obtain ⟨answered, kept⟩ := answered
  cases reply with
  | ok rowcount =>
      obtain ⟨replied, applied⟩ := World.answer_ok answered
      have counted : rowcount = world.trades.rows.countP (TradeRow.openWithTicket ticket) :=
        of_decide_eq_true replied
      have few : world.trades.rows.countP (TradeRow.openWithTicket ticket) ≤ 1 := kept
      have some_ := List.one_le_countP_iff.mpr ⟨row, member, opened⟩
      have one : rowcount = 1 := by omega
      exact .inr ⟨by rw [one], few, applied⟩
  | error error =>
      have unapplied : error.applied = false := kept
      exact .inl ⟨⟨error, rfl⟩,
        by simpa [World.answer, Effect.tookEffect, unapplied] using answered.symm⟩

theorem Awaiting.step {tickets : List ℤ} (held : Awaiting before rows (ticket :: tickets) world)
    (stepped : GhostStep Reported symbol rows ticket world after) :
    Awaiting before rows tickets after := by
  obtain ⟨fresh, distinct⟩ := List.nodup_cons.mp held.distinct
  have kept : Awaiting before rows tickets world :=
    ⟨held.reporting, distinct, fun other later => held.held other (by simp [later])⟩
  cases stepped with
  | kept => exact kept
  | updated row exitPrice profit closedAt reply after known told update silent =>
      obtain ⟨member, opened⟩ := held.held ticket (by simp) row known
      rcases Reported.updated member opened update with ⟨_, rfl⟩ | ⟨one, _⟩
      · exact kept
      · obtain ⟨_, impossible⟩ := silent one
        exact impossible.elim
  | published row exitPrice profit closedAt middle correlationId reply after known told update
      publish =>
      obtain ⟨member, opened⟩ := held.held ticket (by simp) row known
      obtain rfl := Reported.published publish
      rcases Reported.updated member opened update with ⟨⟨_, failed⟩, _⟩ | ⟨_, few, rfl⟩
      · cases failed
      · refine ⟨held.reporting.publish member opened few rfl rfl rfl rfl, distinct, ?_⟩
        intro other later found same
        obtain ⟨inside, stillOpen⟩ := held.held other (by simp [later]) found same
        have different : other ≠ ticket := fun same => fresh (same ▸ later)
        exact ⟨mem_closed_of_ne rfl inside stillOpen different, stillOpen⟩

end Steps

theorem byTicket_open {world : World} {ticket : ℤ} {row : TradeRow}
    (known : byTicket world.openTrades ticket = some row) :
    row ∈ world.trades.rows ∧ row.openWithTicket ticket = true := by
  have ticketed := List.find?_some known
  have member := List.mem_of_find?_eq_some known
  simp only [World.openTrades, List.reverse_reverse, List.mem_filter, Bool.and_eq_true] at member
  simp only [decide_eq_true_eq] at ticketed
  obtain ⟨inside, _, unclosed⟩ := member
  exact ⟨inside, by simp [TradeRow.openWithTicket, ticketed, unclosed]⟩

theorem Reporting.sweep {service : ExecutionService} {before world after : World}
    (held : Reporting before world) (swept : service.Sweep Reported world after) :
    Reporting before after := by
  rcases sweep_cases swept with rfl | ⟨positions, result, _, looped⟩
  · exact held
  have start : Awaiting before world.openTrades
      (ghostTickets service.settings.symbol positions world.openTrades) world := by
    exact ⟨held, ghostTickets_nodup _ _ _, fun ticket _ row known => byTicket_open known⟩
  obtain ⟨rest, awaiting⟩ := looped.forEach (Awaiting before world.openTrades) start
    fun ticket tickets _ _ _ awaiting ran => awaiting.step (closeGhost_runs ran)
  exact awaiting.reporting

/-- Any number of sweeps, with any answers of the terminal and any failures that lose neither
an UPDATE that took effect nor a publication. -/
theorem sweeps_report_closes (service : ExecutionService) {before after : World}
    (swept : service.Sweeps Reported before after) :
    ∃ published, ReportsCloses before after published := by
  have held : Reporting before after := by
    induction swept with
    | refl => exact .start before
    | tail _ swept ih => exact ih.sweep swept
  exact held.reports

def World.DistinctTickets (world : World) : Prop :=
  ∀ ticket, world.trades.rows.countP (TradeRow.openWithTicket ticket) ≤ 1

def World.KeepsTickets (world after : World) : Prop :=
  ∀ ticket, after.trades.rows.countP (TradeRow.openWithTicket ticket) ≤
    world.trades.rows.countP (TradeRow.openWithTicket ticket)

theorem World.keepsTickets_close (world : World) (closed : ℤ) (closedAt profit : ℚ) :
    world.KeepsTickets (world.apply (.closeByTicket closed closedAt profit)) := by
  intro ticket
  simp only [World.apply, KeyedTable.update, List.countP_map]
  refine List.countP_mono_left fun row _ opened => ?_
  simp only [Function.comp_apply] at opened
  split at opened
  · simp [TradeRow.openWithTicket, TradeRow.close] at opened
  · exact opened

theorem World.DistinctTickets.keep {world after : World} (distinct : world.DistinctTickets)
    (kept : world.KeepsTickets after) : after.DistinctTickets := fun ticket =>
  (kept ticket).trans (distinct ticket)

theorem Terminal.sweep_reported (terminal : Terminal) (service : ExecutionService) {world : World}
    (distinct : world.DistinctTickets) :
    service.Sweep Reported world (terminal.sweep service world) := by
  refine terminal.sweep_runs service World.DistinctTickets distinct ?_
  intro effect sweeping world held
  cases effect with
  | closeByTicket ticket closedAt profit =>
      exact ⟨held ticket, held.keep (world.keepsTickets_close ticket closedAt profit)⟩
  | xaddClosed entry => exact ⟨trivial, held⟩
  | _ => exact ⟨trivial, held⟩

namespace Sample

def ticketed (key : String) (ticket : ℤ) : TradeRow := { row with
  idempotencyKey := key
  status := .filled
  retcode := some tradeRetcodeDone
  brokerTicket := some ticket }

def reconciling : ExecutionService := { service none with reconcilerMt5 := some {} }

def oneTrade : World := { trades := ⟨[ticketed "k1" 7], by decide⟩ }

def twins : World := { trades := ⟨[ticketed "k1" 7, ticketed "k2" 7], by decide⟩ }

def closedOut : Terminal where
  deals := fun _ => some [⟨some dealEntryOut, 1 / 2, 1010, 5⟩]

end Sample

theorem sweeps_report_closes_one : ∃ after published,
    (after.trades.find? "k1").bind TradeRow.profit = some 5 ∧
      ReportsCloses Sample.oneTrade after published := by
  have distinct : Sample.oneTrade.DistinctTickets := by
    intro ticket
    exact List.countP_le_length
  obtain ⟨published, reports⟩ := sweeps_report_closes Sample.reconciling
    (Relation.ReflTransGen.single (Sample.closedOut.sweep_reported Sample.reconciling distinct))
  exact ⟨_, published, by decide +kernel, reports⟩

/-- The UPDATE closes both trades and nothing is published. -/
theorem sweep_reports_neither : ¬∀ after,
    Sample.reconciling.Sweeps (fun _ _ _ => True) Sample.twins after →
      ∃ published, ReportsCloses Sample.twins after published := by
  intro reported
  have swept : Sample.reconciling.Sweep (fun _ _ _ => True) Sample.twins
      (Sample.closedOut.sweep Sample.reconciling Sample.twins) :=
    Sample.closedOut.sweep_runs Sample.reconciling (fun _ => True) trivial
      fun _ _ _ _ => ⟨trivial, trivial⟩
  obtain ⟨published, reports⟩ := reported _ (Relation.ReflTransGen.single swept)
  have silent : published = [] := by
    have since := reports.since
    have closed : (Sample.closedOut.sweep Sample.reconciling Sample.twins).closed = [] := by
      decide +kernel
    rw [closed] at since
    exact (List.append_eq_nil_iff.mp since.symm).2
  obtain ⟨entry, one, _⟩ := reports.once "k1" (Sample.ticketed "k1" 7)
    ((Sample.ticketed "k1" 7).close 0 5) (by decide +kernel) rfl (by decide +kernel)
    (by simp [TradeRow.close])
  rw [silent] at one
  simp at one

/-! A live position keeps its row open -/

def SparesLive (terminal : Terminal) (before after : World) : Prop :=
  ∀ key row now, before.trades.find? key = some row → row.closedAt = none →
    after.trades.find? key = some now → now.closedAt ≠ none →
      ∀ position ∈ terminal.positions, row.brokerTicket ≠ some position.ticket

theorem SparesLive.refl (terminal : Terminal) (world : World) :
    SparesLive terminal world world := by
  intro key row now before_ wasOpen after_ isClosed
  obtain rfl := Option.some.inj (before_.symm.trans after_)
  exact absurd wasOpen isClosed

def HasClosingDeal (terminal : Terminal) (ticket : ℤ) : Prop :=
  ∃ deal ∈ (terminal.deals ticket).getD [], deal.entry = some dealEntryOut

/-- Every live position of an open trade is seen by the sweep, or none of it was closed. -/
def LiveKnown (service : ExecutionService) (terminal : Terminal) (world : World) : Prop :=
  ∀ position ∈ terminal.positions,
    (∃ row ∈ world.openTrades, row.brokerTicket = some position.ticket) →
      position.ticket ∈ seenTickets service.settings.symbol terminal.reported ∨
        ¬HasClosingDeal terminal position.ticket

theorem closeSummary_isSome_iff (deals : List Deal) :
    (closeSummary deals).isSome ↔ ∃ deal ∈ deals, deal.entry = some dealEntryOut := by
  unfold closeSummary
  split
  · rename_i none
    simpa using List.filter_eq_nil_iff.mp none
  · rename_i outDeals some_
    obtain ⟨deal, member⟩ := List.exists_mem_of_ne_nil _ some_
    have parts := List.mem_filter.mp member
    simp only [Option.isSome_some, true_iff]
    exact ⟨deal, parts.1, of_decide_eq_true parts.2⟩

theorem closing_of_told {terminal : Terminal} {world : World} {ticket : ℤ}
    {summary : Option ℚ × ℚ} (told : Told terminal.Answers world ticket (some summary)) :
    HasClosingDeal terminal ticket := by
  obtain ⟨_, _, deals, same, summarised⟩ := told
  obtain rfl : deals = terminal.deals ticket := same
  refine (closeSummary_isSome_iff _).mp ?_
  rw [← summarised]
  rfl

/-- Rows that a sweep closed since `before` carry ghost tickets with a closing deal. -/
def ClosedGhosts (terminal : Terminal) (ghosts : List ℤ) (before world : World) : Prop :=
  ∀ key now, world.trades.find? key = some now → ∃ row, before.trades.find? key = some row ∧
    now.brokerTicket = row.brokerTicket ∧ (row.closedAt = none → now.closedAt ≠ none →
      ∃ ticket ∈ ghosts, row.brokerTicket = some ticket ∧ HasClosingDeal terminal ticket)

theorem ClosedGhosts.step {terminal : Terminal} {ghosts : List ℤ} {before world after : World}
    {symbol : String} {rows : List TradeRow} {ticket : ℤ}
    (held : ClosedGhosts terminal ghosts before world) (member : ticket ∈ ghosts)
    (stepped : GhostStep terminal.Answers symbol rows ticket world after) :
    ClosedGhosts terminal ghosts before after := by
  intro key now known
  rcases stepped.trades with same | ⟨exitPrice, profit, closedAt, told, trades⟩
  · exact held key now (same ▸ known)
  · rw [find?_closed trades] at known
    obtain ⟨old, found, rfl⟩ := Option.map_eq_some_iff.mp known
    obtain ⟨row, first, ticketed, closes⟩ := held key old found
    refine ⟨row, first, ?_, ?_⟩
    · split
      · exact ticketed
      · exact ticketed
    · split
      · rename_i opened
        intro _ _
        exact ⟨ticket, member, ticketed ▸ (openWithTicket_iff.mp opened).1, closing_of_told told⟩
      · exact closes

theorem sweep_spares_live {service : ExecutionService} {terminal : Terminal} {world after : World}
    (known : LiveKnown service terminal world)
    (swept : service.Sweep terminal.Answers world after) : SparesLive terminal world after := by
  rcases sweep_cases swept with rfl | ⟨positions, result, reported, looped⟩
  · exact .refl terminal after
  intro key row now before_ wasOpen after_ isClosed position live ticketed
  obtain rfl : positions = terminal.reported := reported
  have start : ClosedGhosts terminal (ghostTickets service.settings.symbol terminal.reported
      world.openTrades) world world :=
    fun _ old found => ⟨old, found, rfl, fun unclosed closed => absurd unclosed closed⟩
  obtain ⟨_, _, held⟩ := looped.forEach (fun tickets current =>
    (∀ ticket ∈ tickets, ticket ∈ ghostTickets service.settings.symbol terminal.reported
      world.openTrades) ∧
    ClosedGhosts terminal (ghostTickets service.settings.symbol terminal.reported
      world.openTrades) world current) ⟨fun _ member => member, start⟩ (by
    rintro ticket tickets current _ next ⟨ghosts, held⟩ ran
    exact ⟨fun other later => ghosts other (by simp [later]),
      held.step (ghosts ticket (by simp)) (closeGhost_runs ran)⟩)
  obtain ⟨old, found, _, closes⟩ := held key now after_
  obtain rfl := Option.some.inj (before_.symm.trans found)
  obtain ⟨ticket, ghost, same, closing⟩ := closes wasOpen isClosed
  obtain rfl := Option.some.inj (ticketed.symm.trans same)
  obtain ⟨local_, unseen⟩ := mem_ghostTickets.mp ghost
  rcases known position live local_ with seen | spared
  · exact unseen seen
  · exact spared closing

section Closes

variable {terminal : Terminal} {symbol : String} {rows : List TradeRow} {world : World}

theorem respond_keeps {P : TradeRow → Prop} {key : String} (effect : Effect)
    (closes : ∀ row closedAt profit, P row → P (row.close closedAt profit))
    (held : ∃ row, world.trades.find? key = some row ∧ P row) :
    ∃ row, (terminal.respond world effect).2.trades.find? key = some row ∧ P row := by
  cases effect with
  | closeByTicket ticket closedAt profit =>
      obtain ⟨row, found, holds⟩ := held
      change ∃ row, (world.apply (.closeByTicket ticket closedAt profit)).trades.find? key =
        some row ∧ P row
      rw [find?_closed rfl, found]
      refine ⟨_, rfl, ?_⟩
      dsimp only
      split
      · exact closes _ _ _ holds
      · exact holds
  | _ => exact held

theorem eval_closeGhost (terminal : Terminal) (symbol : String) (rows : List TradeRow)
    (world : World) (ticket : ℤ) : ∃ after,
    Prog.eval terminal.respond world (closeGhost symbol rows ticket) = (.ok (), after) ∧
      ((byTicket rows ticket).isSome → HasClosingDeal terminal ticket → ∃ profit,
        after.trades = (world.apply (.closeByTicket ticket terminal.clock profit)).trades) := by
  have summarised : Prog.eval terminal.respond world (summariseClose ticket) =
      (.ok (closeSummary ((terminal.deals ticket).getD [])), world) := rfl
  rw [closeGhost, Prog.eval_bind, summarised]
  cases known : byTicket rows ticket with
  | none => exact ⟨world, rfl, nofun⟩
  | some row =>
      cases summary : closeSummary ((terminal.deals ticket).getD []) with
      | none =>
          refine ⟨world, rfl, fun _ closing => ?_⟩
          have some_ := (closeSummary_isSome_iff _).mpr closing
          simp [summary] at some_
      | some result =>
          obtain ⟨exitPrice, profit⟩ := result
          have closing : Prog.eval terminal.respond world (closeByTicket ticket profit) =
              (.ok (decide (world.trades.rows.countP (TradeRow.openWithTicket ticket) = 1)),
                world.apply (.closeByTicket ticket terminal.clock profit)) := rfl
          dsimp only
          rw [Prog.eval_bind, closing]
          dsimp only
          split
          · exact ⟨_, rfl, fun _ _ => ⟨profit, rfl⟩⟩
          · exact ⟨_, rfl, fun _ _ => ⟨profit, rfl⟩⟩

theorem eval_forEach_closes {key : String} {ticket : ℤ} {tickets : List ℤ}
    (member : ticket ∈ tickets) (local_ : (byTicket rows ticket).isSome)
    (closing : HasClosingDeal terminal ticket)
    (ticketed : ∃ row, world.trades.find? key = some row ∧ row.brokerTicket = some ticket) :
    ∃ row, (Prog.eval terminal.respond world
      (Prog.forEach tickets (closeGhost symbol rows))).2.trades.find? key = some row ∧
        row.closedAt ≠ none := by
  induction tickets generalizing world with
  | nil => simp at member
  | cons first rest ih =>
      obtain ⟨after, evaluated, closes⟩ := eval_closeGhost terminal symbol rows world first
      have still : ∃ row, (Prog.eval terminal.respond world
          (closeGhost symbol rows first)).2.trades.find? key = some row ∧
            row.brokerTicket = some ticket :=
        Prog.eval_invariant (fun current : World => ∃ row, current.trades.find? key = some row ∧
          row.brokerTicket = some ticket)
          (fun _ effect held => respond_keeps effect (fun _ _ _ same => same) held) ticketed
      rw [evaluated] at still
      rw [Prog.forEach, Prog.eval_bind, evaluated]
      rcases List.mem_cons.mp member with rfl | later
      · obtain ⟨profit, trades⟩ := closes local_ closing
        obtain ⟨row, found, same⟩ := ticketed
        refine Prog.eval_invariant (fun current : World =>
          ∃ row, current.trades.find? key = some row ∧ row.closedAt ≠ none) (fun _ effect held =>
            respond_keeps effect (fun _ _ _ _ => Option.some_ne_none _) held) ?_
        refine ⟨_, (find?_closed trades).trans (by rw [found]; rfl), ?_⟩
        dsimp only
        split
        · exact Option.some_ne_none _
        · rename_i closed
          exact fun unclosed => closed (openWithTicket_iff.mpr ⟨same, unclosed⟩)
      · exact ih later still

end Closes

theorem sweep_eq {service : ExecutionService} {mt5 : Mt5Module} {terminal : Terminal}
    {world : World} (configured : service.reconcilerMt5 = some mt5) :
    terminal.sweep service world = (Prog.eval terminal.respond world
      (Prog.forEach (ghostTickets service.settings.symbol terminal.reported world.openTrades)
        (closeGhost service.settings.symbol world.openTrades))).2 := by
  rw [Terminal.sweep, runOnce, configured]
  rfl

/-- A sweep can close the row of a live position exactly if it misses the position and finds a
closing deal in its history. -/
theorem sweep_spares_live_iff (service : ExecutionService) (terminal : Terminal) (world : World) :
    (∀ after, service.Sweep terminal.Answers world after → SparesLive terminal world after) ↔
      service.reconcilerMt5 = none ∨ LiveKnown service terminal world := by
  constructor
  · intro spares
    cases configured : service.reconcilerMt5 with
    | none => exact .inl rfl
    | some mt5 =>
        refine .inr fun position live local_ => ?_
        by_contra neither
        obtain ⟨unseen, closing⟩ := not_or.mp neither
        rw [not_not] at closing
        obtain ⟨row, opened, ticketed⟩ := local_
        have inside := opened
        simp only [World.openTrades, List.mem_reverse, List.mem_filter, Bool.and_eq_true,
          Option.isNone_iff_eq_none] at inside
        have found := KeyedTable.find?_eq_some_iff.mpr ⟨inside.1, rfl⟩
        have kept : (byTicket world.openTrades position.ticket).isSome :=
          List.find?_isSome.mpr ⟨row, List.mem_reverse.mpr opened, by simp [ticketed]⟩
        have ghost := mem_ghostTickets.mpr ⟨⟨row, opened, ticketed⟩, unseen⟩
        obtain ⟨now, closed, isClosed⟩ := eval_forEach_closes ghost kept closing
          ⟨row, found, ticketed⟩
        rw [← sweep_eq configured] at closed
        have swept : service.Sweep terminal.Answers world (terminal.sweep service world) :=
          terminal.sweep_runs service (fun _ => True) trivial
            fun effect sweeping world _ => ⟨terminal.respond_answers effect sweeping world, trivial⟩
        exact spares _ swept _ row now found inside.2.2 closed isClosed position live ticketed
  · rintro (skipped | known) after ⟨result, ran⟩
    · rw [runOnce, skipped] at ran
      obtain ⟨_, rfl⟩ := ran
      exact .refl terminal after
    · exact sweep_spares_live known ⟨result, ran⟩

def Sample.halfClosed : Terminal := { Sample.closedOut with
  positions := [{ ticket := 7, symbol := some "Volatility 75 Index" }]
  reports := false }

theorem sweep_closes_live : ¬∀ after,
    Sample.reconciling.Sweep Sample.halfClosed.Answers Sample.oneTrade after →
      SparesLive Sample.halfClosed Sample.oneTrade after := by
  intro spares
  have swept : Sample.reconciling.Sweep Sample.halfClosed.Answers Sample.oneTrade
      (Sample.halfClosed.sweep Sample.reconciling Sample.oneTrade) :=
    Sample.halfClosed.sweep_runs Sample.reconciling (fun _ => True) trivial
      fun effect sweeping world _ =>
        ⟨Sample.halfClosed.respond_answers effect sweeping world, trivial⟩
  exact spares _ swept "k1" (Sample.ticketed "k1" 7) ((Sample.ticketed "k1" 7).close 0 5)
    (by decide +kernel) rfl (by decide +kernel) (by simp [TradeRow.close])
    { ticket := 7, symbol := some "Volatility 75 Index" } (by simp [Sample.halfClosed]) rfl

def realised (deals : List Deal) : ℚ :=
  ((deals.filter fun deal => deal.entry = some dealEntryOut).map Deal.profit).sum

def World.Booked (world : World) (key : String) (profit : ℚ) : Prop :=
  ∃ row, world.trades.find? key = some row ∧ row.closedAt ≠ none ∧ row.profit = some profit

theorem setStatus_booking (update : StatusUpdate) (row : TradeRow) :
    (row.setStatus update).closedAt = row.closedAt ∧
      (row.setStatus update).profit = row.profit := by
  unfold TradeRow.setStatus
  split <;> try exact ⟨rfl, rfl⟩
  split <;> exact ⟨rfl, rfl⟩

theorem World.Booked.apply {world : World} {key : String} {profit : ℚ}
    (booked : world.Booked key profit) (effect : Effect) :
    (world.apply effect).Booked key profit := by
  obtain ⟨row, found, closed, same⟩ := booked
  obtain ⟨next, later, stepped⟩ := World.row_step found effect
  cases stepped with
  | kept => exact ⟨row, later, closed, same⟩
  | status update =>
      obtain ⟨closedAt, profit⟩ := setStatus_booking update row
      exact ⟨_, later, closedAt ▸ closed, profit ▸ same⟩
  | closed ticket closedAt other opened => exact absurd (openWithTicket_iff.mp opened).2 closed

theorem World.Booked.answer {world after : World} {key : String} {profit : ℚ} {effect : Effect}
    {reply : Except PyError effect.Reply} (booked : world.Booked key profit)
    (answered : world.answer effect reply = some after) : after.Booked key profit := by
  rcases World.answer_eq answered with rfl | rfl
  · exact booked
  · exact booked.apply effect

theorem World.Booked.environment {world after : World} {key : String} {profit : ℚ}
    {event : WorldEvent} (booked : world.Booked key profit)
    (happened : world.environment event = some after) : after.Booked key profit := by
  obtain ⟨_, trades, _⟩ := environment_keeps happened
  unfold World.Booked at booked ⊢
  rwa [trades]

def ServiceRequest.Closes (request : ServiceRequest) (effect : Effect) : Prop :=
  ∀ asked ticket closedAt profit, request = .close asked →
    effect = .closeByTicket ticket closedAt profit → ticket = asked ∧ profit = 0

theorem entry_closes (service : ExecutionService) (request : ServiceRequest) :
    (service.entry request).Uses request.Closes := by
  cases request with
  | close asked =>
      refine Prog.uses_bind (closeRoute_uses ?_ ?_ ?_ ?_ ?_ ?_ ?_ ?_) fun _ => trivial
      all_goals simp +contextual [ServiceRequest.Closes]
  | _ => exact Prog.uses_of_forall (by simp [ServiceRequest.Closes]) _

theorem route_books {Pid : Type} [DecidableEq Pid] {service : ExecutionService}
    {config middle after : ServiceConfig Pid} {first since : List (ServiceLabel Pid)} {pid : Pid}
    {ticket : ℤ} {rowcount : ℕ} {closedAt profit : ℚ} {key : String} {row : TradeRow}
    (reached : service.system.run config (first ++ .start pid (.close ticket) :: since) =
      some middle)
    (unbroken : ∀ request, .start pid request ∉ since)
    (found : middle.world.trades.find? key = some row) (opened : row.openWithTicket ticket = true)
    (stepped : service.system.step middle
      (.answer pid (.closeByTicket ticket closedAt profit) (.ok rowcount)) = some after) :
    after.world.Booked key 0 := by
  obtain ⟨_, rfl⟩ := Discipline.permitted_since (entry_closes service) reached unbroken stepped
    _ _ _ _ rfl rfl
  have answered : middle.world.answer (.closeByTicket ticket closedAt 0) (.ok rowcount) =
      some after.world := service.system.changes_of_step stepped
  obtain ⟨_, applied⟩ := World.answer_ok answered
  refine ⟨row.close closedAt 0, ?_, Option.some_ne_none _, rfl⟩
  rw [find?_closed (by rw [applied]), found]
  simp [opened]

/-- Once the UPDATE of a close by hand has taken a row, however long routes, sweeps and workers go
on, the row carries the profit of its closing deals only if that is zero. -/
theorem manual_close_profit_iff {Pid : Type} [DecidableEq Pid] {service : ExecutionService}
    {config middle after : ServiceConfig Pid} {first since later : List (ServiceLabel Pid)}
    {pid : Pid} {ticket : ℤ} {rowcount : ℕ} {closedAt profit : ℚ} {key : String} {row : TradeRow}
    (reached : service.system.run config (first ++ .start pid (.close ticket) :: since) =
      some middle)
    (unbroken : ∀ request, .start pid request ∉ since)
    (found : middle.world.trades.find? key = some row) (opened : row.openWithTicket ticket = true)
    (ran : service.system.run middle
      (.answer pid (.closeByTicket ticket closedAt profit) (.ok rowcount) :: later) = some after)
    (deals : List Deal) :
    (after.world.trades.find? key).bind TradeRow.profit = some (realised deals) ↔
      realised deals = 0 := by
  obtain ⟨closed, stepped, ran⟩ := Option.bind_eq_some_iff.mp ran
  have booked : after.world.Booked key 0 := by
    refine service.system.run_invariant (fun world => world.Booked key 0) ?_ ?_ ran
      (route_books reached unbroken found opened stepped)
    · exact fun _ _ _ _ booked answered => booked.answer answered
    · exact fun _ _ _ booked happened => booked.environment happened
  obtain ⟨now, known, _, profit⟩ := booked
  rw [known, Option.bind_some, profit, Option.some.injEq]
  exact eq_comm

namespace Sample

def live : ExecutionService := { service (some {}) with reconcilerMt5 := some {} }

def trade : TradeRow := ticketed "k1" 7

def doneAt (price : ℚ) : SendResult := { retcode := tradeRetcodeDone, order := 7, price := price }

def sellingByHand : List (ServiceLabel ℕ) :=
  [.start 0 (.close 7), .answer 0 (.tradeByTicket 7) (.ok (some trade)),
   .answer 0 (.positionsGet (some 7)) (.ok (some [{ ticket := 7 }])),
   .answer 0 (.symbolInfoTick "Volatility 75 Index") (.ok (some ⟨1005, 1006⟩)),
   .answer 0 (.orderSend { closeRequest with
     position := some 7, comment := "vix75-close:" ++ toString (7 : ℤ) })
     (.ok (some (doneAt 1005))),
   .answer 0 .time (.ok 0)]

def thenSwept : List (ServiceLabel ℕ) :=
  [.answer 0 (.closeByTicket 7 0 0) (.ok 1), .finish 0, .start 1 .sweep,
   .answer 1 (.positionsGet none) (.ok (some [])), .answer 1 .openTrades (.ok []), .finish 1]

end Sample

theorem sellingByHand_runs : ∃ middle after : ServiceConfig ℕ,
    Sample.live.system.run (ServiceConfig.idle Sample.oneTrade) Sample.sellingByHand =
        some middle ∧
      middle.world.trades.find? "k1" = some Sample.trade ∧
      Sample.live.system.run middle Sample.thenSwept = some after ∧
      (after.world.trades.find? "k1").bind TradeRow.profit = some 0 := by
  have first : (Sample.live.system.run (ServiceConfig.idle Sample.oneTrade)
      Sample.sellingByHand).map (fun middle => middle.world.trades.find? "k1") =
        some (some Sample.trade) := by decide +kernel
  have whole : (Sample.live.system.run (ServiceConfig.idle Sample.oneTrade)
      (Sample.sellingByHand ++ Sample.thenSwept)).map
        (fun after => (after.world.trades.find? "k1").bind TradeRow.profit) = some (some 0) := by
    decide +kernel
  obtain ⟨middle, reached, found⟩ := Option.map_eq_some_iff.mp first
  obtain ⟨after, ended, profit⟩ := Option.map_eq_some_iff.mp whole
  obtain ⟨other, same, rest⟩ := Sample.live.system.run_append.mp ended
  obtain rfl := Option.some.inj (reached.symm.trans same)
  exact ⟨middle, after, reached, found, rest, profit⟩

theorem manual_close_profit_even : ∃ middle after : ServiceConfig ℕ,
    Sample.live.system.run (ServiceConfig.idle Sample.oneTrade) Sample.sellingByHand =
        some middle ∧
      Sample.live.system.run middle Sample.thenSwept = some after ∧
      ((after.world.trades.find? "k1").bind TradeRow.profit =
        some (realised [⟨some dealEntryOut, 1 / 2, 1005, 0⟩]) ↔
          realised [⟨some dealEntryOut, 1 / 2, 1005, 0⟩] = 0) := by
  obtain ⟨middle, after, reached, found, rest, _⟩ := sellingByHand_runs
  have opened : Sample.trade.openWithTicket 7 = true := by decide
  have unbroken : ∀ request, .start 0 request ∉ Sample.sellingByHand.tail := by
    simp [Sample.sellingByHand]
  have started : Sample.sellingByHand =
      [] ++ .start 0 (.close 7) :: Sample.sellingByHand.tail := rfl
  have ran := started ▸ reached
  exact ⟨middle, after, reached, rest,
    manual_close_profit_iff ran unbroken found opened rest _⟩

/-- A profit of 5 is never attached. -/
theorem manual_close_profit_lost : ¬∀ middle after : ServiceConfig ℕ,
    Sample.live.system.run (ServiceConfig.idle Sample.oneTrade) Sample.sellingByHand =
        some middle →
      Sample.live.system.run middle Sample.thenSwept = some after →
        (after.world.trades.find? "k1").bind TradeRow.profit =
          some (realised [⟨some dealEntryOut, 1 / 2, 1005, 5⟩]) := by
  intro attached
  obtain ⟨middle, after, reached, _, rest, unattached⟩ := sellingByHand_runs
  have profit := attached middle after reached rest
  rw [unattached] at profit
  exact absurd profit (by decide +kernel)

end Vix75
