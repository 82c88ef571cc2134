import Mathlib.Data.ENat.Lattice
import Vix75.ExecutorChecks

/-! The retry loop of one live call of `execute`, against a trade server that may answer its
requests with any replies at all. -/

namespace Vix75

open EffectProgram

/-- The terminal answers the tick, and `order_send` by number; `last_error` may say something
else after every request. -/
structure TradeServer where
  tick : Tick
  reply : ℕ → Option SendResult
  lastError : ℕ → String

structure ServerLog where
  sent : List SendRequest := []
  slept : List ℚ := []

namespace TradeServer

variable (server : TradeServer)

def respond (log : ServerLog) : (effect : Effect) → Except PyError effect.Reply × ServerLog
  | .symbolInfoTick _ => (.ok (some server.tick), log)
  | .orderSend request =>
      (.ok (server.reply log.sent.length), { log with sent := log.sent ++ [request] })
  | .lastError => (.ok (server.lastError log.sent.length), log)
  | .sleep seconds => (.ok (), { log with slept := log.slept ++ [seconds] })
  | _ => (.error .assertionError, log)

def Conclusive (call : ℕ) : Prop :=
  ∃ result, server.reply call = some result ∧ result.retcode ∉ retryableRetcodes

/-- The position of the first conclusive reply, counted from 1; `⊤` where there is none. -/
noncomputable def settledAt : ℕ∞ := ⨅ call, ⨅ _ : server.Conclusive call, ((call + 1 : ℕ) : ℕ∞)

variable {server}

theorem le_settledAt {calls : ℕ} (before : ∀ earlier < calls, ¬server.Conclusive earlier) :
    ((calls + 1 : ℕ) : ℕ∞) ≤ server.settledAt := by
  refine le_iInf₂ fun other conclusive => ?_
  have later : calls ≤ other := by
    by_contra sooner
    exact before other (by omega) conclusive
  exact_mod_cast Nat.succ_le_succ later

theorem settledAt_eq {call : ℕ} (here : server.Conclusive call)
    (before : ∀ earlier < call, ¬server.Conclusive earlier) :
    server.settledAt = ((call + 1 : ℕ) : ℕ∞) :=
  le_antisymm (iInf₂_le call here) (le_settledAt before)

theorem lt_settledAt {calls : ℕ} (before : ∀ earlier < calls, ¬server.Conclusive earlier) :
    (calls : ℕ∞) < server.settledAt :=
  lt_of_lt_of_le (by exact_mod_cast Nat.lt_succ_self calls) (le_settledAt before)

end TradeServer

structure Reports (outcome : ExecOutcome) (result : SendResult) : Prop where
  accepted : outcome.result.accepted = decide result.Filled
  retcode : outcome.result.retcode = some result.retcode
  ticket : result.Filled → outcome.result.ticket = some result.order
  price : result.Filled → outcome.result.price = some result.price
  ended : outcome.retryableGaveUp = false

/-- The last reply the loop has seen, `used` replies after the first `calls` ones: the first
conclusive one, or the last of a number of inconclusive ones. -/
def Concludes (server : TradeServer) (calls rounds used : ℕ) (outcome : ExecOutcome) : Prop :=
  (∃ last result, used = last + 1 ∧ server.reply (calls + last) = some result ∧
    result.retcode ∉ retryableRetcodes ∧
    (∀ earlier < last, ¬server.Conclusive (calls + earlier)) ∧ Reports outcome result) ∨
  (used = rounds ∧ (∀ earlier < used, ¬server.Conclusive (calls + earlier)) ∧
    outcome.result.accepted = false ∧ outcome.retryableGaveUp = true)

theorem Concludes.retry {server : TradeServer} {calls rounds used : ℕ} {outcome : ExecOutcome}
    (retried : ¬server.Conclusive calls)
    (later : Concludes server (calls + 1) rounds used outcome) :
    Concludes server calls (rounds + 1) (used + 1) outcome := by
  have shift : ∀ {count : ℕ},
      (∀ earlier < count, ¬server.Conclusive (calls + 1 + earlier)) →
        ∀ earlier < count + 1, ¬server.Conclusive (calls + earlier) := by
    intro count before earlier below
    cases earlier with
    | zero => exact retried
    | succ earlier =>
        have next := before earlier (by omega)
        rwa [Nat.add_right_comm] at next
  rcases later with ⟨last, result, rfl, replied, final, before, reported⟩ | ⟨rfl, before, given⟩
  · refine .inl ⟨last + 1, result, rfl, ?_, final, shift before, reported⟩
    rw [← replied, Nat.add_right_comm, Nat.add_assoc]
  · exact .inr ⟨rfl, shift before, given⟩

def backoffDelays (delay : ℚ) (used : ℕ) : List ℚ :=
  (List.range (used - 1)).map fun step => delay * 2 ^ step

theorem backoffDelays_succ (delay : ℚ) {used : ℕ} (more : 0 < used) :
    backoffDelays delay (used + 1) = delay :: backoffDelays (delay * 2) used := by
  obtain ⟨rest, rfl⟩ : ∃ rest, used = rest + 1 := ⟨used - 1, by omega⟩
  simp only [backoffDelays, Nat.add_sub_cancel, List.range_succ_eq_map, List.map_cons,
    List.map_map, pow_zero, mul_one, List.cons.injEq, true_and]
  refine List.map_congr_left fun step _ => ?_
  simp only [Function.comp_apply, pow_succ]
  ring

namespace TradeServer

variable (server : TradeServer)

def Runs (request : SendRequest) (delay : ℚ) (rounds attempts : ℕ) (log : ServerLog)
    (ran : Except PyError ExecOutcome × ServerLog) : Prop :=
  ∃ outcome used, ran = (.ok outcome, {
      sent := log.sent ++ List.replicate used request
      slept := log.slept ++ backoffDelays delay used }) ∧
    outcome.attempts = attempts + used ∧ used ≤ rounds ∧ (0 < rounds → 0 < used) ∧
    Concludes server log.sent.length rounds used outcome

variable {server}

section Attempts

variable {request : SendRequest} {delay : ℚ} {rounds attempts next : ℕ} {log : ServerLog}
variable {ran : Except PyError ExecOutcome × ServerLog}

theorem Runs.stop {outcome : ExecOutcome} {result : SendResult}
    (answered : server.reply log.sent.length = some result)
    (final : result.retcode ∉ retryableRetcodes) (counted : outcome.attempts = attempts + 1)
    (reported : Reports outcome result) : server.Runs request delay (rounds + 1) attempts log
      (.ok outcome, { log with sent := log.sent ++ [request] }) := by
  refine ⟨outcome, 1, ?_, counted, by omega, fun _ => by omega,
    .inl ⟨0, result, rfl, answered, final, ?_, reported⟩⟩
  · simp [backoffDelays]
  · intro earlier impossible
    omega

theorem Runs.backOff (retried : ¬server.Conclusive log.sent.length) (more : 0 < rounds)
    (counted : next = attempts + 1) (later : server.Runs request (delay * 2) rounds next
      { sent := log.sent ++ [request], slept := log.slept ++ [delay] } ran) :
    server.Runs request delay (rounds + 1) attempts log ran := by
  obtain ⟨outcome, used, rfl, total, upper, lower, concluded⟩ := later
  refine ⟨outcome, used + 1, ?_, by omega, by omega, fun _ => by omega, ?_⟩
  · rw [backoffDelays_succ delay (lower more)]
    simp [List.replicate_succ]
  · simp only [List.length_append, List.length_singleton] at concluded
    exact concluded.retry retried

theorem Runs.giveUp (retried : ¬server.Conclusive log.sent.length)
    (counted : next = attempts + 1) (later : server.Runs request delay 0 next
      { log with sent := log.sent ++ [request] } ran) :
    server.Runs request delay 1 attempts log ran := by
  obtain ⟨outcome, used, rfl, total, upper, lower, concluded⟩ := later
  obtain rfl : used = 0 := by omega
  refine ⟨outcome, 1, ?_, by omega, by omega, fun _ => by omega, ?_⟩
  · simp [backoffDelays]
  · simp only [List.length_append, List.length_singleton] at concluded
    exact concluded.retry retried

end Attempts

variable (server)

theorem eval_sendLoop (order : OrderRequest ℚ) (request : SendRequest) (rounds : ℕ)
    (local' : MT5Executor.SendState) (log : ServerLog)
    (bound : local'.attempts + rounds = maxAttempts) :
    server.Runs request local'.delay rounds local'.attempts log
      (Prog.eval server.respond log (MT5Executor.sendLoop order request rounds local')) := by
  induction rounds generalizing local' log with
  | zero =>
      refine ⟨_, 0, Prod.ext rfl ?_, rfl, le_rfl, id, .inr ⟨rfl, ?_, rfl, rfl⟩⟩
      · simp [backoffDelays, MT5Executor.sendLoop]
      · intro earlier impossible
        omega
  | succ rounds ih =>
      have again : ∀ retry : MT5Executor.SendState, retry.attempts = local'.attempts + 1 →
          retry.delay = local'.delay → ¬server.Conclusive log.sent.length →
          server.Runs request local'.delay (rounds + 1) local'.attempts log
            (Prog.eval server.respond { log with sent := log.sent ++ [request] }
              (if local'.attempts + 1 < maxAttempts then do
                await (.sleep retry.delay)
                MT5Executor.sendLoop order request rounds { retry with delay := retry.delay * 2 }
              else MT5Executor.sendLoop order request rounds retry : Execution ExecOutcome)) := by
        intro retry counted delayed retried
        rw [← delayed]
        split
        · rename_i more
          rw [Prog.eval_perform_bind]
          have later := ih { retry with delay := retry.delay * 2 }
            { sent := log.sent ++ [request], slept := log.slept ++ [retry.delay] } (by
              dsimp only
              omega)
          simp only [respond]
          exact Runs.backOff retried (by omega) counted later
        · rename_i last
          obtain rfl : rounds = 0 := by omega
          have later := ih retry { log with sent := log.sent ++ [request] } (by omega)
          exact Runs.giveUp retried counted later
      unfold MT5Executor.sendLoop
      rw [Prog.eval_perform_bind]
      simp only [respond]
      cases answered : server.reply log.sent.length with
      | none =>
          have retried : ¬server.Conclusive log.sent.length := by
            rintro ⟨result, replied, _⟩
            simp [answered] at replied
          dsimp only
          rw [Prog.eval_perform_bind]
          exact again _ rfl rfl retried
      | some result =>
          dsimp only
          split
          · rename_i filled
            refine Runs.stop answered ?_ rfl ⟨?_, rfl, fun _ => rfl, fun _ => rfl, rfl⟩
            · rcases filled with full | part
              · simp [full, tradeRetcodeDone, retryableRetcodes]
              · simp [part, tradeRetcodeDonePartial, retryableRetcodes]
            · exact (decide_eq_true filled).symm
          · rename_i unfilled
            split
            · rename_i refused
              rw [Prog.eval_perform_bind]
              refine Runs.stop answered refused rfl ⟨?_, rfl, ?_, ?_, rfl⟩
              · exact (decide_eq_false unfilled).symm
              · exact fun filled => absurd filled unfilled
              · exact fun filled => absurd filled unfilled
            · rename_i retryable
              have retried : ¬server.Conclusive log.sent.length := by
                rintro ⟨other, replied, final⟩
                rw [answered, Option.some.injEq] at replied
                subst replied
                exact retryable final
              rw [Prog.eval_perform_bind]
              exact again _ rfl rfl retried

end TradeServer

section Conclusions

variable {server : TradeServer} {rounds used : ℕ} {outcome : ExecOutcome}

theorem Concludes.settles (concluded : Concludes server 0 rounds used outcome)
    (upper : used ≤ rounds) :
    (∃ call result, used = call + 1 ∧ server.settledAt = ((call + 1 : ℕ) : ℕ∞) ∧
      server.settledAt ≤ rounds ∧ server.reply call = some result ∧ Reports outcome result) ∨
    (used = rounds ∧ (rounds : ℕ∞) < server.settledAt ∧ outcome.result.accepted = false ∧
      outcome.retryableGaveUp = true) := by
  rcases concluded with ⟨call, result, rfl, replied, final, before, reported⟩ |
    ⟨rfl, before, unaccepted, gaveUp⟩
  · simp only [Nat.zero_add] at replied before
    have settled := TradeServer.settledAt_eq ⟨result, replied, final⟩ before
    refine .inl ⟨call, result, rfl, settled, ?_, replied, reported⟩
    rw [settled]
    exact_mod_cast upper
  · simp only [Nat.zero_add] at before
    exact .inr ⟨rfl, TradeServer.lt_settledAt before, unaccepted, gaveUp⟩

theorem TradeServer.reply_settled {call other : ℕ} {result : SendResult}
    (settled : server.settledAt = ((call + 1 : ℕ) : ℕ∞)) (replied : server.reply call = some result)
    (position : server.settledAt = ((other + 1 : ℕ) : ℕ∞)) : server.reply other = some result := by
  have same : call + 1 = other + 1 := by
    rw [settled] at position
    exact_mod_cast position
  obtain rfl : call = other := by omega
  exact replied

variable (concluded : Concludes server 0 rounds used outcome) (upper : used ≤ rounds)

include concluded upper

theorem Concludes.attempts : (used : ℕ∞) = min server.settledAt rounds := by
  rcases concluded.settles upper with ⟨call, result, rfl, settled, within, -⟩ | ⟨rfl, beyond, -⟩
  · rw [min_eq_left within, settled]
  · rw [min_eq_right beyond.le]

theorem Concludes.accepted_iff : outcome.result.accepted = true ↔ server.settledAt ≤ rounds ∧
    ∃ call result, server.settledAt = ((call + 1 : ℕ) : ℕ∞) ∧ server.reply call = some result ∧
      result.Filled := by
  rcases concluded.settles upper with ⟨call, result, -, settled, within, replied, reported⟩ |
    ⟨-, beyond, unaccepted, -⟩
  · rw [reported.accepted, decide_eq_true_iff]
    constructor
    · exact fun filled => ⟨within, call, result, settled, replied, filled⟩
    · rintro ⟨_, other, answer, position, answered, filled⟩
      rw [TradeServer.reply_settled settled replied position, Option.some_inj] at answered
      rwa [answered]
  · rw [unaccepted]
    exact iff_of_false Bool.false_ne_true fun within => not_lt.mpr within.1 beyond

theorem Concludes.reports (call : ℕ) (result : SendResult)
    (position : server.settledAt = ((call + 1 : ℕ) : ℕ∞)) (inside : call + 1 ≤ rounds)
    (answered : server.reply call = some result) :
    outcome.result.retcode = some result.retcode ∧
      (outcome.result.accepted = true → outcome.result.ticket = some result.order ∧
        outcome.result.price = some result.price) := by
  rcases concluded.settles upper with ⟨other, reply, -, settled, -, replied, reported⟩ |
    ⟨-, beyond, -, -⟩
  · rw [TradeServer.reply_settled settled replied position, Option.some_inj] at answered
    subst answered
    refine ⟨reported.retcode, fun accepted => ?_⟩
    rw [reported.accepted, decide_eq_true_iff] at accepted
    exact ⟨reported.ticket accepted, reported.price accepted⟩
  · rw [position] at beyond
    have outside : rounds < call + 1 := by exact_mod_cast beyond
    omega

theorem Concludes.gaveUp_iff :
    outcome.retryableGaveUp = true ↔ (rounds : ℕ∞) < server.settledAt := by
  rcases concluded.settles upper with ⟨_, _, _, _, within, _, reported⟩ | ⟨-, beyond, -, gaveUp⟩
  · rw [reported.ended]
    exact iff_of_false Bool.false_ne_true (not_lt.mpr within)
  · exact iff_of_true gaveUp beyond

end Conclusions

/-- One live call sends one request until the first conclusive reply or the last attempt, and
reports that reply. -/
theorem execute_retry_law (server : TradeServer) {executor : MT5Executor} {mt5 : Mt5Module}
    (live : executor.settings.dryRunMode = false) (loaded : executor.mt5 = some mt5)
    (order : OrderRequest ℚ) :
    ∃ request outcome log,
      Prog.eval server.respond {} (executor.buildRequest order none) = (.ok request, {}) ∧
      Prog.eval server.respond {} (executor.execute order) = (.ok outcome, log) ∧
      log.sent = List.replicate outcome.attempts request ∧
      (outcome.attempts : ℕ∞) = min server.settledAt maxAttempts ∧
      (outcome.result.accepted = true ↔ server.settledAt ≤ maxAttempts ∧
        ∃ call result, server.settledAt = ((call + 1 : ℕ) : ℕ∞) ∧
          server.reply call = some result ∧ result.Filled) ∧
      (∀ call result, server.settledAt = ((call + 1 : ℕ) : ℕ∞) → call + 1 ≤ maxAttempts →
        server.reply call = some result → outcome.result.retcode = some result.retcode ∧
          (outcome.result.accepted = true → outcome.result.ticket = some result.order ∧
            outcome.result.price = some result.price)) ∧
      (outcome.retryableGaveUp = true ↔ (maxAttempts : ℕ∞) < server.settledAt) ∧
      log.slept = (List.range (outcome.attempts - 1)).map fun j =>
        executor.backoffBaseS * 2 ^ j := by
  obtain ⟨request, built⟩ : ∃ request, Prog.eval server.respond {}
      (executor.buildRequest order none) = (.ok request, {}) := by
    obtain ⟨built, evaluated, ticked⟩ := MT5Executor.eval_buildRequest loaded order
      (rfl : server.respond {} (.symbolInfoTick order.symbol) = (.ok (some server.tick), {}))
    cases built with
    | error error => cases ticked
    | ok request => exact ⟨request, evaluated⟩
  have executed : Prog.eval server.respond {} (executor.execute order) =
      Prog.eval server.respond {}
        (MT5Executor.sendLoop order request maxAttempts { delay := executor.backoffBaseS }) := by
    have liveMode : ¬executor.settings.dryRunMode = true := by simp [live]
    rw [MT5Executor.execute, if_neg liveMode, Prog.eval_bind, built]
    unfold MT5Executor.module
    rw [loaded]
    rfl
  obtain ⟨outcome, used, ran, attempts, upper, lower, concluded⟩ :=
    server.eval_sendLoop order request maxAttempts { delay := executor.backoffBaseS } {}
      (Nat.zero_add _)
  have counted : outcome.attempts = used := by simpa using attempts
  refine ⟨request, outcome, _, built, executed.trans ran, ?_, ?_, concluded.accepted_iff upper,
    concluded.reports upper, concluded.gaveUp_iff upper, ?_⟩
  · simp [counted]
  · rw [counted, concluded.attempts upper]
  · rw [counted]
    rfl

def TradeServer.refusing : TradeServer where
  tick := ⟨1005, 1006⟩
  reply := fun call => if call < 2 then none else some { retcode := 10019, comment := "margin" }
  lastError := fun _ => "(-10005, 'IPC timeout')"

theorem execute_retry_law_refusing :
    ∃ request outcome log,
      Prog.eval TradeServer.refusing.respond {} (liveExecutor.buildRequest
        ⟨"k", "s", "V75", .buy, 1, 1000, 990, 1020, 30⟩ none) = (.ok request, {}) ∧
      Prog.eval TradeServer.refusing.respond {} (liveExecutor.execute
        ⟨"k", "s", "V75", .buy, 1, 1000, 990, 1020, 30⟩) = (.ok outcome, log) ∧
      log.sent = List.replicate outcome.attempts request ∧
      (outcome.attempts : ℕ∞) = min TradeServer.refusing.settledAt maxAttempts ∧
      (outcome.result.accepted = true ↔ TradeServer.refusing.settledAt ≤ maxAttempts ∧
        ∃ call result, TradeServer.refusing.settledAt = ((call + 1 : ℕ) : ℕ∞) ∧
          TradeServer.refusing.reply call = some result ∧ result.Filled) ∧
      (∀ call result, TradeServer.refusing.settledAt = ((call + 1 : ℕ) : ℕ∞) →
        call + 1 ≤ maxAttempts → TradeServer.refusing.reply call = some result →
          outcome.result.retcode = some result.retcode ∧
          (outcome.result.accepted = true → outcome.result.ticket = some result.order ∧
            outcome.result.price = some result.price)) ∧
      (outcome.retryableGaveUp = true ↔
        (maxAttempts : ℕ∞) < TradeServer.refusing.settledAt) ∧
      log.slept = (List.range (outcome.attempts - 1)).map fun j =>
        liveExecutor.backoffBaseS * 2 ^ j :=
  execute_retry_law TradeServer.refusing rfl rfl _

end Vix75
