import Mathlib.Logic.Relation
import Vix75.ExecutionChecks
import Vix75.ProgramRuns

/-! Sequences of reconciliation sweeps over the shared world, and what a single sweep can do to
a ghost position. -/

namespace Vix75

open EffectProgram

abbrev StepCondition := World → (effect : Effect) → Except PyError effect.Reply → Prop

def World.AnswersUnder (condition : StepCondition) (world : World) (effect : Effect)
    (reply : Except PyError effect.Reply) (after : World) : Prop :=
  world.answer effect reply = some after ∧ condition world effect reply

/-- One `run_once`; `run_forever` logs its exception and goes on. -/
def ExecutionService.Sweep (service : ExecutionService) (condition : StepCondition)
    (world after : World) : Prop :=
  ∃ result, (runOnce service).Runs (World.AnswersUnder condition) world result after

def ExecutionService.Sweeps (service : ExecutionService) (condition : StepCondition) :
    World → World → Prop :=
  Relation.ReflTransGen (service.Sweep condition)

def Effect.Looking : Effect → Prop
  | .positionsGet none => True
  | .openTrades => True
  | .time => True
  | .historyDealsGet _ _ _ => True
  | .uuid4 => True
  | _ => False

theorem World.answer_looking {world after : World} {effect : Effect}
    {reply : Except PyError effect.Reply} (looking : effect.Looking)
    (answered : world.answer effect reply = some after) : after = world := by
  have still : world.apply effect = world := by
    cases effect <;> first | rfl | exact looking.elim
  rcases World.answer_eq answered with same | applied
  · exact same
  · exact applied.trans still

section Ghosts

variable {condition : StepCondition} {world after : World} {symbol : String}
variable {rows : List TradeRow} {ticket : ℤ}

theorem looking_runs (effect : Effect) {reply : Except PyError effect.Reply}
    (looking : effect.Looking)
    (ran : (await effect).Runs (World.AnswersUnder condition) world reply after) :
    after = world ∧ condition world effect reply := by
  obtain ⟨answered, held⟩ := Prog.runs_perform.mp ran
  exact ⟨World.answer_looking looking answered, held⟩

/-- The history of a ticket as a sweep was told it. -/
def Told (condition : StepCondition) (world : World) (ticket : ℤ)
    (summary : Option (Option ℚ × ℚ)) : Prop :=
  ∃ dateFrom dateTo deals, condition world (.historyDealsGet dateFrom dateTo ticket) (.ok deals) ∧
    summary = closeSummary (deals.getD [])

theorem summariseClose_runs {result : Except PyError (Option (Option ℚ × ℚ))}
    (ran : (summariseClose ticket).Runs (World.AnswersUnder condition) world result after) :
    after = world ∧ ∀ summary, result = .ok summary → Told condition world ticket summary := by
  rcases Prog.runs_bind.mp ran with ⟨now, _, clock, fromDeals⟩ | ⟨_, clock, rfl⟩
  rotate_left
  · exact ⟨(looking_runs .time trivial clock).1, nofun⟩
  obtain ⟨rfl, _⟩ := looking_runs .time trivial clock
  rcases Prog.runs_bind.mp fromDeals with ⟨deals, _, history, ended⟩ | ⟨_, history, rfl⟩
  rotate_left
  · exact ⟨(looking_runs (.historyDealsGet _ _ _) trivial history).1, nofun⟩
  obtain ⟨rfl, told⟩ := looking_runs (.historyDealsGet _ _ _) trivial history
  refine ⟨ended.2, ?_⟩
  rintro summary rfl
  exact ⟨_, _, deals, told, Except.ok.inj ended.1⟩

def closedEntry (symbol : String) (row : TradeRow) (ticket : ℤ) (exitPrice : Option ℚ)
    (profit : ℚ) (correlationId : String) : ClosedEntry where
  signalId := row.signalId
  idempotencyKey := row.idempotencyKey
  symbol := symbol
  ticket := ticket
  pnl := profit
  exitPrice := exitPrice.getD 0
  correlationId := correlationId

inductive GhostStep (condition : StepCondition) (symbol : String) (rows : List TradeRow)
    (ticket : ℤ) (world : World) : World → Prop
  | kept : GhostStep condition symbol rows ticket world world
  | updated (row : TradeRow) (exitPrice : Option ℚ) (profit closedAt : ℚ)
      (reply : Except PyError ℕ) (after : World) (known : byTicket rows ticket = some row)
      (told : Told condition world ticket (some (exitPrice, profit)))
      (update : world.AnswersUnder condition (.closeByTicket ticket closedAt profit) reply after)
      (silent : reply = .ok 1 → ∃ error, condition after .uuid4 (.error error)) :
      GhostStep condition symbol rows ticket world after
  | published (row : TradeRow) (exitPrice : Option ℚ) (profit closedAt : ℚ) (middle : World)
      (correlationId : String) (reply : Except PyError Unit) (after : World)
      (known : byTicket rows ticket = some row)
      (told : Told condition world ticket (some (exitPrice, profit)))
      (update : world.AnswersUnder condition (.closeByTicket ticket closedAt profit) (.ok 1) middle)
      (publish : middle.AnswersUnder condition
        (.xaddClosed (closedEntry symbol row ticket exitPrice profit correlationId)) reply after) :
      GhostStep condition symbol rows ticket world after

theorem closeByTicket_runs {profit : ℚ} {result : Except PyError Bool}
    (ran : (closeByTicket ticket profit).Runs (World.AnswersUnder condition) world result after) :
    after = world ∧ (∃ error, result = .error error) ∨ ∃ closedAt reply,
      world.AnswersUnder condition (.closeByTicket ticket closedAt profit) reply after ∧
        (result = .ok true ↔ reply = .ok 1) := by
  rcases Prog.runs_bind.mp ran with ⟨now, _, clock, fromUpdate⟩ | ⟨error, clock, rfl⟩
  rotate_left
  · exact .inl ⟨(looking_runs .time trivial clock).1, error, rfl⟩
  obtain ⟨rfl, _⟩ := looking_runs .time trivial clock
  refine .inr ⟨now, ?_⟩
  rcases Prog.runs_perform_bind.mp fromUpdate with
    ⟨rowcount, _, update, rfl, rfl⟩ | ⟨error, update, rfl⟩
  · refine ⟨.ok rowcount, update, ?_⟩
    simp
  · exact ⟨.error error, update, by simp⟩

theorem closeGhost_runs {result : Except PyError Unit}
    (ran : (closeGhost symbol rows ticket).Runs (World.AnswersUnder condition) world result
      after) : GhostStep condition symbol rows ticket world after := by
  rcases Prog.runs_bind.mp ran with ⟨summary, _, summarised, fromMatch⟩ | ⟨error, summarised, _⟩
  rotate_left
  · obtain ⟨rfl, _⟩ := summariseClose_runs summarised
    exact .kept
  obtain ⟨rfl, told⟩ := summariseClose_runs summarised
  have history := told summary rfl
  split at fromMatch
  · rename_i row exitPrice profit known
    rcases Prog.runs_bind.mp fromMatch with
      ⟨wasOpen, middle, closing, fromReport⟩ | ⟨error, closing, _⟩
    rotate_left
    · rcases closeByTicket_runs closing with ⟨rfl, _⟩ | ⟨closedAt, reply, update, one⟩
      · exact .kept
      · refine .updated row exitPrice profit closedAt reply after known history update ?_
        intro same
        simp [same] at one
    rcases closeByTicket_runs closing with ⟨_, error, impossible⟩ | ⟨closedAt, reply, update, one⟩
    · cases impossible
    cases wasOpen with
    | false =>
        obtain ⟨_, rfl⟩ := fromReport
        refine .updated row exitPrice profit closedAt reply _ known history update ?_
        intro same
        simp [same] at one
    | true =>
        obtain rfl := one.mp rfl
        rcases Prog.runs_bind.mp fromReport with
          ⟨correlationId, _, drawn, publish⟩ | ⟨error, drawn, _⟩
        · obtain ⟨rfl, _⟩ := looking_runs .uuid4 trivial drawn
          exact .published row exitPrice profit closedAt _ correlationId result after known history
            update (Prog.runs_perform.mp publish)
        · obtain ⟨rfl, failed⟩ := looking_runs .uuid4 trivial drawn
          exact .updated row exitPrice profit closedAt (.ok 1) _ known history update
            fun _ => ⟨error, failed⟩
  · obtain ⟨_, rfl⟩ := fromMatch
    exact .kept

/-! A whole sweep -/

def seenTickets (symbol : String) (positions : Option (List Position)) : List ℤ :=
  ((positions.getD []).filter fun position => position.symbol.getD symbol = symbol).map
    Position.ticket

def ghostTickets (symbol : String) (positions : Option (List Position)) (rows : List TradeRow) :
    List ℤ :=
  sortedDifference (rows.filterMap TradeRow.brokerTicket) (seenTickets symbol positions)

theorem mem_ghostTickets {positions : Option (List Position)} :
    ticket ∈ ghostTickets symbol positions rows ↔
      (∃ row ∈ rows, row.brokerTicket = some ticket) ∧ ticket ∉ seenTickets symbol positions := by
  simp [ghostTickets, sortedDifference, List.mem_insertionSort]

theorem ghostTickets_nodup (symbol : String) (positions : Option (List Position))
    (rows : List TradeRow) : (ghostTickets symbol positions rows).Nodup :=
  (List.perm_insertionSort _ _).nodup_iff.mpr (List.nodup_dedup _)

theorem sweep_cases {service : ExecutionService} (swept : service.Sweep condition world after) :
    after = world ∨ ∃ positions result, condition world (.positionsGet none) (.ok positions) ∧
      (Prog.forEach (ghostTickets service.settings.symbol positions world.openTrades)
        (closeGhost service.settings.symbol world.openTrades)).Runs
          (World.AnswersUnder condition) world result after := by
  obtain ⟨result, ran⟩ := swept
  unfold runOnce at ran
  split at ran
  · exact .inl ran.2
  rcases Prog.runs_bind.mp ran with ⟨positions, _, listed, fromRows⟩ | ⟨_, listed, _⟩
  rotate_left
  · exact .inl (looking_runs (.positionsGet none) trivial listed).1
  obtain ⟨rfl, told⟩ := looking_runs (.positionsGet none) trivial listed
  rcases Prog.runs_bind.mp fromRows with ⟨rows, _, opened, looped⟩ | ⟨_, opened, _⟩
  rotate_left
  · exact .inl (looking_runs .openTrades trivial opened).1
  obtain ⟨replied, -⟩ := World.answer_ok (Prog.runs_perform.mp opened).1
  obtain rfl : rows = _ := of_decide_eq_true replied
  obtain ⟨rfl, _⟩ := looking_runs .openTrades trivial opened
  exact .inr ⟨positions, result, told, looped⟩

theorem GhostStep.trades (stepped : GhostStep condition symbol rows ticket world after) :
    after.trades = world.trades ∨ ∃ exitPrice profit closedAt,
      Told condition world ticket (some (exitPrice, profit)) ∧
        after.trades = (world.apply (.closeByTicket ticket closedAt profit)).trades := by
  cases stepped with
  | kept => exact .inl rfl
  | updated row exitPrice profit closedAt reply after known told update silent =>
      rcases World.answer_eq update.1 with rfl | rfl
      · exact .inl rfl
      · exact .inr ⟨exitPrice, profit, closedAt, told, rfl⟩
  | published row exitPrice profit closedAt middle correlationId reply after known told update
      publish =>
      obtain ⟨_, rfl⟩ := World.answer_ok update.1
      rcases World.answer_eq publish.1 with rfl | rfl <;>
        exact .inr ⟨exitPrice, profit, closedAt, told, rfl⟩

theorem find?_closed {closedAt profit : ℚ} {key : String}
    (trades : after.trades = (world.apply (.closeByTicket ticket closedAt profit)).trades) :
    after.trades.find? key = (world.trades.find? key).map fun row =>
      if row.openWithTicket ticket then row.close closedAt profit else row := by
  simp only [trades, World.apply, KeyedTable.find?_update]

theorem openWithTicket_iff {row : TradeRow} : row.openWithTicket ticket = true ↔
    row.brokerTicket = some ticket ∧ row.closedAt = none := by
  simp [TradeRow.openWithTicket]

end Ghosts

structure Terminal where
  positions : List Position := []
  reports : Bool := true
  deals : ℤ → Option (List Deal) := fun _ => none
  clock : ℚ := 0

namespace Terminal

variable (terminal : Terminal)

def reported : Option (List Position) :=
  if terminal.reports then some terminal.positions else none

def Answers : StepCondition := fun _ effect reply => match effect, reply with
  | .positionsGet none, .ok positions => positions = terminal.reported
  | .historyDealsGet _ _ ticket, .ok deals => deals = terminal.deals ticket
  | _, _ => True

/-- The answers when nothing fails; a sweep awaits no other effects. -/
def respond (world : World) : (effect : Effect) → Except PyError effect.Reply × World
  | .positionsGet _ => (.ok terminal.reported, world)
  | .openTrades => (.ok world.openTrades, world)
  | .time => (.ok terminal.clock, world)
  | .historyDealsGet _ _ ticket => (.ok (terminal.deals ticket), world)
  | .closeByTicket ticket closedAt profit =>
      (.ok (world.trades.rows.countP (TradeRow.openWithTicket ticket)),
        world.apply (.closeByTicket ticket closedAt profit))
  | .uuid4 => (.ok "", world)
  | .xaddClosed entry => (.ok (), world.apply (.xaddClosed entry))
  | _ => (.error .assertionError, world)

def sweep (service : ExecutionService) (world : World) : World :=
  (Prog.eval terminal.respond world (runOnce service)).2

theorem respond_answer (effect : Effect) (sweeping : effect.Sweeping) (world : World) :
    world.answer effect (terminal.respond world effect).1 =
      some (terminal.respond world effect).2 := by
  cases effect with
  | openTrades => simp [respond, World.answer, World.replies, World.apply]
  | closeByTicket ticket closedAt profit => simp [respond, World.answer, World.replies]
  | positionsGet ticket => rfl
  | time => rfl
  | historyDealsGet dateFrom dateTo ticket => rfl
  | uuid4 => rfl
  | xaddClosed entry => rfl
  | _ => exact sweeping.elim

theorem respond_answers (effect : Effect) (sweeping : effect.Sweeping) (world : World) :
    terminal.Answers world effect (terminal.respond world effect).1 := by
  cases effect with
  | positionsGet ticket =>
      cases ticket with
      | none => exact rfl
      | some ticket => exact sweeping.elim
  | historyDealsGet dateFrom dateTo ticket => exact rfl
  | _ => trivial

theorem sweep_runs {condition : StepCondition} (service : ExecutionService) {world : World}
    (Inv : World → Prop) (start : Inv world)
    (meets : ∀ effect, effect.Sweeping → ∀ world, Inv world →
      condition world effect (terminal.respond world effect).1 ∧
        Inv (terminal.respond world effect).2) :
    service.Sweep condition world (terminal.sweep service world) := by
  refine ⟨_, Prog.runs_eval Inv (runOnce_uses service) start fun effect sweeping world held => ?_⟩
  obtain ⟨holds, kept⟩ := meets effect sweeping world held
  exact ⟨⟨terminal.respond_answer effect sweeping world, holds⟩, kept⟩

end Terminal

end Vix75
