import Mathlib.Algebra.Order.BigOperators.Group.List
import Mathlib.Algebra.BigOperators.Ring.List
import Mathlib.Tactic.FieldSimp
import Mathlib.Tactic.LinearCombination
import Vix75.SweepChecks

/-! The summary of a close against the whole deal history of its position: which closing deals
the query of a sweep leaves out, and what that does to the profit and the exit price. -/

namespace Vix75

open EffectProgram DecimalRounding

structure TimedDeal where
  time : ℚ
  deal : Deal
deriving DecidableEq

def dealEntryOutBy : ℤ := 3

namespace TimedDeal

variable (deal : TimedDeal)

def Closes : Prop :=
  (deal.deal.entry = some dealEntryOut ∨ deal.deal.entry = some dealEntryOutBy) ∧
    0 < deal.deal.volume

def Within (dateFrom dateTo : ℚ) : Prop := dateFrom ≤ deal.time ∧ deal.time ≤ dateTo

/-- The deals that a sweep at that time sums up. -/
def Found (now : ℚ) : Prop :=
  deal.deal.entry = some dealEntryOut ∧ deal.Within (now - secondsPerWeek) now

def Missed (now : ℚ) : Prop := deal.Closes ∧ ¬deal.Found now

def Extra (now : ℚ) : Prop := deal.Found now ∧ ¬deal.Closes

instance : DecidablePred Closes := fun _ => inferInstanceAs (Decidable (_ ∧ _))

instance (dateFrom dateTo : ℚ) : DecidablePred fun deal => Within deal dateFrom dateTo :=
  fun _ => inferInstanceAs (Decidable (_ ∧ _))

instance (now : ℚ) : DecidablePred fun deal => Found deal now :=
  fun _ => inferInstanceAs (Decidable (_ ∧ _ ∧ _))

instance (now : ℚ) : DecidablePred fun deal => Missed deal now :=
  fun deal => inferInstanceAs (Decidable (deal.Closes ∧ ¬deal.Found now))

instance (now : ℚ) : DecidablePred fun deal => Extra deal now :=
  fun deal => inferInstanceAs (Decidable (deal.Found now ∧ ¬deal.Closes))

end TimedDeal

def historyDealsGet (dateFrom dateTo : ℚ) (deals : List TimedDeal) : List Deal :=
  (deals.filter fun deal => deal.Within dateFrom dateTo).map TimedDeal.deal

def Deal.notional (deal : Deal) : ℚ := deal.volume * deal.price

def totalOf (measure : Deal → ℚ) (kept : TimedDeal → Prop) [DecidablePred kept]
    (deals : List TimedDeal) : ℚ :=
  ((deals.filter kept).map fun deal => measure deal.deal).sum

def summaryAt (now : ℚ) (deals : List TimedDeal) : Option (Option ℚ × ℚ) :=
  closeSummary (historyDealsGet (now - secondsPerWeek) now deals)

section Summary

variable {deals : List TimedDeal} {now : ℚ} {exitPrice : Option ℚ} {profit : ℚ}

theorem summaryAt_eq_some (summary : summaryAt now deals = some (exitPrice, profit)) :
    exitPrice = (if totalOf Deal.volume (·.Found now) deals > 0 then
        some (totalOf Deal.notional (·.Found now) deals / totalOf Deal.volume (·.Found now) deals)
      else none) ∧
      profit = roundDigits 2 (totalOf Deal.profit (·.Found now) deals) := by
  have found : (historyDealsGet (now - secondsPerWeek) now deals).filter
      (fun deal => deal.entry = some dealEntryOut) =
        (deals.filter fun deal => deal.Found now).map TimedDeal.deal := by
    rw [historyDealsGet, List.filter_map, List.filter_filter]
    congr 1
    refine List.filter_congr fun deal _ => ?_
    rw [Bool.eq_iff_iff, Bool.and_eq_true, decide_eq_true_eq, decide_eq_true_eq]
    exact and_congr_left fun _ => decide_eq_true_iff
  rw [summaryAt, closeSummary, found] at summary
  split at summary
  · cases summary
  · obtain ⟨rfl, rfl⟩ := Prod.mk.inj (Option.some.inj summary)
    simp only [List.map_map, totalOf]
    exact ⟨rfl, rfl⟩

theorem totalOf_closes (measure : Deal → ℚ) (now : ℚ) (deals : List TimedDeal) :
    totalOf measure TimedDeal.Closes deals = totalOf measure (·.Found now) deals +
      totalOf measure (·.Missed now) deals - totalOf measure (·.Extra now) deals := by
  induction deals with
  | nil => simp [totalOf]
  | cons deal rest ih =>
      simp only [totalOf] at ih ⊢
      by_cases closes : deal.Closes <;> by_cases found : deal.Found now <;>
        simp only [List.filter_cons, TimedDeal.Missed, TimedDeal.Extra, closes, found, and_self,
          not_true_eq_false, not_false_eq_true, and_false, false_and, decide_true, decide_false,
          if_true, List.map_cons, List.sum_cons, Bool.false_eq_true, if_false] at ih ⊢ <;>
        linarith

theorem summaryAt_perm {other : List TimedDeal} (same : other.Perm deals) :
    summaryAt now other = summaryAt now deals := by
  have parts : (historyDealsGet (now - secondsPerWeek) now other).Perm
      (historyDealsGet (now - secondsPerWeek) now deals) := (same.filter _).map _
  have kept := parts.filter fun deal => decide (deal.entry = some dealEntryOut)
  rw [summaryAt, summaryAt, closeSummary, closeSummary]
  cases here : (historyDealsGet (now - secondsPerWeek) now deals).filter
      fun deal => decide (deal.entry = some dealEntryOut) with
  | nil =>
      rw [here] at kept
      rw [kept.eq_nil]
  | cons first rest =>
      rw [here] at kept
      cases there : (historyDealsGet (now - secondsPerWeek) now other).filter
          fun deal => decide (deal.entry = some dealEntryOut) with
      | nil =>
          rw [there] at kept
          exact absurd kept.nil_eq (by simp)
      | cons first' rest' =>
          rw [there] at kept
          simp only [(kept.map Deal.volume).sum_eq, (kept.map Deal.profit).sum_eq,
            (kept.map fun deal => deal.volume * deal.price).sum_eq]

theorem closes_of_volume (positive : 0 < totalOf Deal.volume (·.Found now) deals) :
    0 < totalOf Deal.volume TimedDeal.Closes deals := by
  have some_ : ∃ deal ∈ deals, deal.Closes := by
    by_contra none_
    have least : totalOf Deal.volume (·.Found now) deals ≤ 0 := by
      refine (List.sum_le_card_nsmul _ 0 fun volume member => ?_).trans (nsmul_zero _).le
      obtain ⟨deal, kept, rfl⟩ := List.mem_map.mp member
      obtain ⟨among, found⟩ := List.mem_filter.mp kept
      by_contra above
      exact none_ ⟨deal, among, .inl (of_decide_eq_true found).1, not_le.mp above⟩
    exact absurd positive (not_lt.mpr least)
  obtain ⟨deal, member, closes⟩ := some_
  refine List.sum_pos _ ?_ ?_
  · intro volume inside
    obtain ⟨other, kept, rfl⟩ := List.mem_map.mp inside
    exact (of_decide_eq_true (List.mem_filter.mp kept).2 : other.Closes).2
  · intro empty
    have kept : deal ∈ deals.filter TimedDeal.Closes :=
      List.mem_filter.mpr ⟨member, decide_eq_true closes⟩
    rw [List.map_eq_nil_iff.mp empty] at kept
    exact absurd kept List.not_mem_nil

theorem mean_between {lowest highest : ℚ}
    (positive : 0 < totalOf Deal.volume TimedDeal.Closes deals)
    (bounded : ∀ deal ∈ deals, deal.Closes →
      lowest ≤ deal.deal.price ∧ deal.deal.price ≤ highest) :
    lowest ≤ totalOf Deal.notional TimedDeal.Closes deals /
        totalOf Deal.volume TimedDeal.Closes deals ∧
      totalOf Deal.notional TimedDeal.Closes deals /
        totalOf Deal.volume TimedDeal.Closes deals ≤ highest := by
  have each : ∀ deal ∈ deals.filter TimedDeal.Closes, 0 ≤ deal.deal.volume ∧
      lowest ≤ deal.deal.price ∧ deal.deal.price ≤ highest := by
    intro deal kept
    obtain ⟨member, closes⟩ := List.mem_filter.mp kept
    have closes : deal.Closes := of_decide_eq_true closes
    exact ⟨closes.2.le, bounded deal member closes⟩
  rw [le_div_iff₀ positive, div_le_iff₀ positive, totalOf, totalOf, ← List.sum_map_mul_left,
    ← List.sum_map_mul_left]
  constructor
  · refine List.sum_le_sum fun deal kept => ?_
    obtain ⟨volume, low, _⟩ := each deal kept
    rw [Deal.notional, mul_comm]
    exact mul_le_mul_of_nonneg_left low volume
  · refine List.sum_le_sum fun deal kept => ?_
    obtain ⟨volume, _, high⟩ := each deal kept
    rw [Deal.notional, mul_comm highest]
    exact mul_le_mul_of_nonneg_left high volume

structure ExactClose (deals : List TimedDeal) (now : ℚ) (exitPrice : Option ℚ) (profit : ℚ) :
    Prop where
  sum : profit = roundDigits 2 (totalOf Deal.profit TimedDeal.Closes deals)
  mean : exitPrice = some (totalOf Deal.notional TimedDeal.Closes deals /
    totalOf Deal.volume TimedDeal.Closes deals)
  between : ∀ price, exitPrice = some price → ∀ lowest highest,
    (∀ deal ∈ deals, deal.Closes → lowest ≤ deal.deal.price ∧ deal.deal.price ≤ highest) →
      lowest ≤ price ∧ price ≤ highest
  shuffled : ∀ other, other.Perm deals → summaryAt now other = some (exitPrice, profit)

/-- What the query leaves out, less what it counts of no volume, moves neither the rounded profit
nor the mean price. -/
structure Harmless (deals : List TimedDeal) (now : ℚ) : Prop where
  profit : roundDigits 2 (totalOf Deal.profit (·.Found now) deals +
      totalOf Deal.profit (·.Missed now) deals - totalOf Deal.profit (·.Extra now) deals) =
    roundDigits 2 (totalOf Deal.profit (·.Found now) deals)
  volume : 0 < totalOf Deal.volume (·.Found now) deals
  price : (totalOf Deal.notional (·.Missed now) deals -
        totalOf Deal.notional (·.Extra now) deals) * totalOf Deal.volume (·.Found now) deals =
    totalOf Deal.notional (·.Found now) deals * (totalOf Deal.volume (·.Missed now) deals -
        totalOf Deal.volume (·.Extra now) deals)

theorem exactClose_iff (summary : summaryAt now deals = some (exitPrice, profit)) :
    ExactClose deals now exitPrice profit ↔ Harmless deals now := by
  obtain ⟨rfl, rfl⟩ := summaryAt_eq_some summary
  have profits := totalOf_closes Deal.profit now deals
  have volumes := totalOf_closes Deal.volume now deals
  have notionals := totalOf_closes Deal.notional now deals
  constructor
  · intro exact_
    have price := exact_.mean
    split at price
    next positive =>
      have whole := closes_of_volume positive
      have means := Option.some.inj price
      rw [div_eq_div_iff positive.ne' whole.ne', volumes, notionals] at means
      refine ⟨?_, positive, by linear_combination -means⟩
      rw [← profits]
      exact exact_.sum.symm
    next => cases price
  · intro harmless
    have positive := harmless.volume
    have whole := closes_of_volume positive
    have means : totalOf Deal.notional (·.Found now) deals /
          totalOf Deal.volume (·.Found now) deals =
        totalOf Deal.notional TimedDeal.Closes deals /
          totalOf Deal.volume TimedDeal.Closes deals := by
      rw [div_eq_div_iff positive.ne' whole.ne', volumes, notionals]
      linear_combination -harmless.price
    rw [if_pos positive] at summary ⊢
    refine ⟨?_, by rw [means], ?_, fun other same => (summaryAt_perm same).trans summary⟩
    · rw [profits]
      exact harmless.profit.symm
    · rintro price same lowest highest bounded
      obtain rfl := Option.some.inj same
      rw [means]
      exact mean_between whole bounded

theorem totalOf_none {kept : TimedDeal → Prop} [DecidablePred kept] (measure : Deal → ℚ)
    (none_ : ∀ deal ∈ deals, ¬kept deal) : totalOf measure kept deals = 0 := by
  have empty : deals.filter (fun deal => decide (kept deal)) = [] := by
    rw [List.filter_eq_nil_iff]
    intro deal member held
    exact none_ deal member (of_decide_eq_true held)
  rw [totalOf, empty]
  rfl

end Summary

/-! What a sweep records -/

structure DealTerminal where
  history : ℤ → List TimedDeal
  asked : ℤ → ℚ

namespace DealTerminal

variable (terminal : DealTerminal)

def Answers : StepCondition := fun _ effect reply => match effect, reply with
  | .historyDealsGet dateFrom dateTo ticket, .ok deals => dateTo = terminal.asked ticket ∧
      deals.getD [] = historyDealsGet dateFrom dateTo (terminal.history ticket)
  | _, _ => True

def summary (ticket : ℤ) : Option (Option ℚ × ℚ) :=
  summaryAt (terminal.asked ticket) (terminal.history ticket)

end DealTerminal

def Effect.WeekLong : Effect → Prop
  | .historyDealsGet dateFrom dateTo _ => dateFrom = dateTo - secondsPerWeek
  | _ => True

theorem runOnce_weekLong (service : ExecutionService) :
    (runOnce service).Uses Effect.WeekLong := by
  unfold runOnce
  split
  · trivial
  refine Prog.uses_bind (Prog.uses_perform trivial) fun _ => ?_
  refine Prog.uses_bind (Prog.uses_perform trivial) fun rows => ?_
  refine Prog.uses_forEach fun ticket => Prog.uses_bind ?_ fun summary => ?_
  · refine Prog.uses_bind (Prog.uses_perform trivial) fun now => ?_
    exact Prog.uses_bind (Prog.uses_perform rfl) fun _ => trivial
  · split
    · refine Prog.uses_bind (closeByTicket_uses trivial fun _ => trivial) fun wasOpen => ?_
      cases wasOpen with
      | false => trivial
      | true =>
          exact Prog.uses_bind (Prog.uses_perform trivial) fun _ => Prog.uses_perform trivial
    · trivial

section Sweep

variable {terminal : DealTerminal} {service : ExecutionService} {before world after : World}
variable {symbol : String} {rows : List TradeRow} {ticket : ℤ}

def DealTerminal.AnswersWeek (terminal : DealTerminal) : StepCondition :=
  fun world effect reply => terminal.Answers world effect reply ∧ effect.WeekLong

theorem sweep_weekLong (swept : service.Sweep terminal.Answers world after) :
    service.Sweep terminal.AnswersWeek world after := by
  obtain ⟨result, ran⟩ := swept
  refine ⟨result, (ran.of_uses (runOnce_weekLong service)).map id ?_⟩
  rintro current effect reply next ⟨⟨answered, told⟩, week⟩
  exact ⟨answered, told, week⟩

theorem summary_of_told {summary : Option (Option ℚ × ℚ)}
    (told : Told terminal.AnswersWeek world ticket summary) :
    summary = terminal.summary ticket := by
  obtain ⟨dateFrom, dateTo, deals, ⟨⟨rfl, answered⟩, rfl⟩, rfl⟩ := told
  rw [answered]
  rfl

structure Recorded (terminal : DealTerminal) (before world : World) : Prop where
  rows : ∀ key now, world.trades.find? key = some now → ∃ row, before.trades.find? key = some row ∧
    now.brokerTicket = row.brokerTicket ∧ (row.closedAt = none → now.closedAt ≠ none →
      ∃ ticket exitPrice profit, row.brokerTicket = some ticket ∧
        terminal.summary ticket = some (exitPrice, profit) ∧ now.profit = some profit)
  entries : ∃ published, world.closed = before.closed ++ published ∧ ∀ entry ∈ published,
    ∃ exitPrice, terminal.summary entry.ticket = some (exitPrice, entry.pnl) ∧
      entry.exitPrice = exitPrice.getD 0

theorem Recorded.start (world : World) : Recorded terminal world world :=
  ⟨fun _ now found => ⟨now, found, rfl, fun opened closed => absurd opened closed⟩,
    [], (List.append_nil _).symm, nofun⟩

theorem Recorded.step (held : Recorded terminal before world)
    (stepped : GhostStep terminal.AnswersWeek symbol rows ticket world after) :
    Recorded terminal before after := by
  refine ⟨?_, ?_⟩
  · intro key now known
    rcases stepped.trades with same | ⟨exitPrice, profit, closedAt, told, trades⟩
    · exact held.rows key now (same ▸ known)
    · rw [find?_closed trades] at known
      obtain ⟨old, found, rfl⟩ := Option.map_eq_some_iff.mp known
      obtain ⟨row, first, ticketed, closes⟩ := held.rows key old found
      refine ⟨row, first, ?_, ?_⟩
      · split <;> exact ticketed
      · split
        · rename_i opened
          intro _ _
          exact ⟨ticket, exitPrice, profit, ticketed ▸ (openWithTicket_iff.mp opened).1,
            (summary_of_told told).symm, rfl⟩
        · exact closes
  · obtain ⟨published, whole, each⟩ := held.entries
    cases stepped with
    | kept => exact ⟨published, whole, each⟩
    | updated row exitPrice profit closedAt reply after known told update silent =>
        refine ⟨published, ?_, each⟩
        rcases World.answer_eq update.1 with rfl | rfl <;> exact whole
    | published row exitPrice profit closedAt middle correlationId reply after known told update
        publish =>
        obtain ⟨_, rfl⟩ := World.answer_ok update.1
        rcases World.answer_eq publish.1 with rfl | rfl
        · exact ⟨published, whole, each⟩
        · refine ⟨published ++
            [closedEntry symbol row ticket exitPrice profit correlationId], ?_, ?_⟩
          · rw [← List.append_assoc, ← whole]
            rfl
          · intro entry member
            rcases List.mem_append.mp member with earlier | last
            · exact each entry earlier
            · obtain rfl := List.mem_singleton.mp last
              exact ⟨exitPrice, (summary_of_told told).symm, rfl⟩

theorem sweep_recorded (swept : service.Sweep terminal.Answers world after) :
    Recorded terminal world after := by
  rcases sweep_cases (sweep_weekLong swept) with rfl | ⟨positions, result, _, looped⟩
  · exact .start after
  · obtain ⟨_, held⟩ := looped.forEach (fun _ current => Recorded terminal world current)
      (.start world) fun ticket rest current result next held ran => held.step (closeGhost_runs ran)
    exact held

theorem harmless_of_whole {deals : List TimedDeal} {now : ℚ} {summary : Option ℚ × ℚ}
    (found : summaryAt now deals = some summary)
    (whole : ∀ deal ∈ deals, deal.Closes ↔ deal.Found now) : Harmless deals now := by
  have missed : ∀ deal ∈ deals, ¬deal.Missed now :=
    fun deal member left => left.2 ((whole deal member).mp left.1)
  have extra : ∀ deal ∈ deals, ¬deal.Extra now :=
    fun deal member more => more.2 ((whole deal member).mpr more.1)
  refine ⟨?_, ?_, ?_⟩
  · rw [totalOf_none _ missed, totalOf_none _ extra, add_zero, sub_zero]
  · have some_ : (closeSummary (historyDealsGet (now - secondsPerWeek) now deals)).isSome :=
      Option.isSome_iff_exists.mpr ⟨summary, found⟩
    obtain ⟨closing, inside, out⟩ := (closeSummary_isSome_iff _).mp some_
    obtain ⟨deal, kept, rfl⟩ := List.mem_map.mp inside
    obtain ⟨member, within⟩ := List.mem_filter.mp kept
    have here : deal ∈ deals.filter fun deal => deal.Found now :=
      List.mem_filter.mpr ⟨member, decide_eq_true ⟨out, of_decide_eq_true within⟩⟩
    refine List.sum_pos _ ?_ ?_
    · intro volume some_
      obtain ⟨other, kept, rfl⟩ := List.mem_map.mp some_
      obtain ⟨among, found⟩ := List.mem_filter.mp kept
      exact ((whole other among).mpr (of_decide_eq_true found)).2
    · intro empty
      rw [List.map_eq_nil_iff.mp empty] at here
      exact absurd here List.not_mem_nil
  · rw [totalOf_none _ missed, totalOf_none _ missed, totalOf_none _ extra, totalOf_none _ extra]
    ring

end Sweep

namespace Sample

def oneClose : DealTerminal where
  history := fun _ => [⟨0, ⟨some 0, 1 / 5, 100, 0⟩⟩, ⟨600000, ⟨some 1, 1 / 5, 103, 60⟩⟩]
  asked := fun _ => 700000

def slowClose : DealTerminal where
  history := fun _ => [⟨0, ⟨some 1, 1 / 10, 102, 40⟩⟩, ⟨691200, ⟨some 1, 1 / 10, 103, 20⟩⟩]
  asked := fun _ => 700000

def closedAt (now exitPrice profit : ℚ) : World :=
  (oneTrade.apply (.closeByTicket 7 now profit)).apply
    (.xaddClosed (closedEntry "Volatility 75 Index" (ticketed "k1" 7) 7 (some exitPrice) profit ""))

theorem sweep_closes (terminal : DealTerminal) {exitPrice profit : ℚ}
    (summary : terminal.summary 7 = some (some exitPrice, profit)) :
    reconciling.Sweep terminal.Answers oneTrade
      (closedAt (terminal.asked 7) exitPrice profit) := by
  have reply : ∀ {world : World} {effect : Effect} {value : effect.Reply},
      world.replies effect value = true → terminal.Answers world effect (.ok value) →
        world.AnswersUnder terminal.Answers effect (.ok value) (world.apply effect) := by
    intro world effect value replied told
    rw [World.AnswersUnder, World.answer, if_pos replied]
    exact ⟨rfl, told⟩
  have counted : decide (1 = oneTrade.trades.rows.countP (TradeRow.openWithTicket 7)) = true := by
    decide +kernel
  have ghosts : sortedDifference (oneTrade.openTrades.filterMap TradeRow.brokerTicket) [] =
      [7] := by
    decide +kernel
  have summarised : (summariseClose 7).Runs (World.AnswersUnder terminal.Answers) oneTrade
      (.ok (some (some exitPrice, profit))) oneTrade := by
    rw [← summary]
    refine ⟨.ok (terminal.asked 7), _, reply rfl trivial, ?_⟩
    refine ⟨.ok (some _), _, reply rfl ⟨rfl, rfl⟩, ?_⟩
    exact ⟨rfl, rfl⟩
  have ghost : (closeGhost "Volatility 75 Index" oneTrade.openTrades 7).Runs
      (World.AnswersUnder terminal.Answers) oneTrade (.ok ())
        (closedAt (terminal.asked 7) exitPrice profit) := by
    refine Prog.runs_bind.mpr (.inl ⟨_, _, summarised, ?_⟩)
    refine ⟨.ok (terminal.asked 7), _, reply rfl trivial, ?_⟩
    refine ⟨.ok 1, _, reply counted trivial, ?_⟩
    refine ⟨.ok "", _, reply rfl trivial, ?_⟩
    refine ⟨.ok (), _, reply rfl trivial, ?_⟩
    exact ⟨rfl, rfl⟩
  have looped : (Prog.forEach (sortedDifference
      (oneTrade.openTrades.filterMap TradeRow.brokerTicket) [])
      (closeGhost "Volatility 75 Index" oneTrade.openTrades)).Runs
        (World.AnswersUnder terminal.Answers) oneTrade (.ok ())
          (closedAt (terminal.asked 7) exitPrice profit) := by
    rw [ghosts]
    exact Prog.runs_bind.mpr (.inl ⟨_, _, ghost, rfl, rfl⟩)
  refine ⟨.ok (), ?_⟩
  refine ⟨.ok (some []), _, reply rfl trivial, ?_⟩
  refine ⟨.ok oneTrade.openTrades, _, reply (by decide +kernel) trivial, ?_⟩
  exact looped

end Sample

/-- What a sweep records of a close is exact if and only if the deals that its query leaves out
make no difference; they make none where the query finds every closing deal. -/
theorem close_summary_exact_iff (service : ExecutionService) (terminal : DealTerminal)
    (world after : World) (swept : service.Sweep terminal.Answers world after) (key : String)
    (row now : TradeRow) (before : world.trades.find? key = some row) (opened : row.closedAt = none)
    (later : after.trades.find? key = some now) (closed : now.closedAt ≠ none) :
    ∃ ticket exitPrice profit, row.brokerTicket = some ticket ∧
      terminal.summary ticket = some (exitPrice, profit) ∧ now.profit = some profit ∧
      (∃ published, after.closed = world.closed ++ published ∧ ∀ entry ∈ published,
        entry.ticket = ticket → entry.pnl = profit ∧ entry.exitPrice = exitPrice.getD 0) ∧
      (ExactClose (terminal.history ticket) (terminal.asked ticket) exitPrice profit ↔
        Harmless (terminal.history ticket) (terminal.asked ticket)) ∧
      ((∀ deal ∈ terminal.history ticket, deal.Closes ↔ deal.Found (terminal.asked ticket)) →
        Harmless (terminal.history ticket) (terminal.asked ticket)) := by
  have recorded := sweep_recorded swept
  obtain ⟨first, same, _, closes⟩ := recorded.rows key now later
  obtain rfl := Option.some.inj (before.symm.trans same)
  obtain ⟨ticket, exitPrice, profit, ticketed, summary, booked⟩ := closes opened closed
  obtain ⟨published, whole, each⟩ := recorded.entries
  refine ⟨ticket, exitPrice, profit, ticketed, summary, booked, ⟨published, whole, ?_⟩,
    exactClose_iff summary, harmless_of_whole summary⟩
  rintro entry member rfl
  obtain ⟨exit, told, sent⟩ := each entry member
  obtain ⟨rfl, rfl⟩ := Prod.mk.inj (Option.some.inj (told.symm.trans summary))
  exact ⟨rfl, sent⟩

theorem close_summary_exact_one : ∃ after, Sample.reconciling.Sweep Sample.oneClose.Answers
    Sample.oneTrade after ∧ (after.trades.find? "k1").bind TradeRow.profit = some 60 ∧
      ExactClose (Sample.oneClose.history 7) 700000 (some 103) 60 := by
  have summary : Sample.oneClose.summary 7 = some (some 103, 60) := by decide +kernel
  have swept := Sample.sweep_closes Sample.oneClose summary
  obtain ⟨ticket, exitPrice, profit, ticketed, told, _, _, exact_, whole⟩ :=
    close_summary_exact_iff Sample.reconciling Sample.oneClose Sample.oneTrade _ swept "k1"
      (Sample.ticketed "k1" 7) ((Sample.ticketed "k1" 7).close 700000 60) (by decide +kernel) rfl
      (by decide +kernel) (by simp [TradeRow.close])
  obtain rfl := Option.some.inj ticketed
  obtain ⟨rfl, rfl⟩ := Prod.mk.inj (Option.some.inj (told.symm.trans summary))
  exact ⟨_, swept, by decide +kernel, exact_.mpr (whole (by decide +kernel))⟩

/-- The profit of 40 from the week before is lost, and the exit price is that of the last half. -/
theorem close_summary_week_lost : ∃ after, Sample.reconciling.Sweep Sample.slowClose.Answers
    Sample.oneTrade after ∧ (after.trades.find? "k1").bind TradeRow.profit = some 20 ∧
      (after.closed.map ClosedEntry.exitPrice) = [103] ∧
        ∀ exitPrice, ¬ExactClose (Sample.slowClose.history 7) 700000 exitPrice 20 := by
  have summary : Sample.slowClose.summary 7 = some (some 103, 20) := by decide +kernel
  refine ⟨_, Sample.sweep_closes Sample.slowClose summary, by decide +kernel, by decide +kernel,
    fun exitPrice exact_ => ?_⟩
  have rounded : roundDigits 2 (totalOf Deal.profit TimedDeal.Closes
      (Sample.slowClose.history 7)) = 60 := by
    decide +kernel
  have sum := exact_.sum.trans rounded
  norm_num at sum

end Vix75
