import Vix75.ExecutionCore

/-! How many positions one call of `execute` opens in live mode, against a broker that may
have executed a request although its reply was lost or timed out. -/

namespace Vix75

open EffectProgram

theorem MT5Executor.eval_buildRequest {σ : Type}
    {respond : σ → (effect : Effect) → Except PyError effect.Reply × σ} {state : σ}
    {executor : MT5Executor} {mt5 : Mt5Module} {tick : Option Tick}
    (loaded : executor.mt5 = some mt5) (order : OrderRequest ℚ)
    (ticks : respond state (.symbolInfoTick order.symbol) = (.ok tick, state)) :
    ∃ built, Prog.eval respond state (executor.buildRequest order none) = (built, state) ∧
      built.isOk = tick.isSome := by
  unfold MT5Executor.buildRequest MT5Executor.tick MT5Executor.module
  rw [loaded, Prog.done_bind, Prog.done_bind, Prog.eval_bind, Prog.eval_perform_bind, ticks]
  cases tick with
  | none => exact ⟨_, rfl, rfl⟩
  | some tick => exact ⟨_, rfl, rfl⟩

/-- The broker's side of one call of `execute`: its reply to every `order_send`, by number,
and whether that request opened a position. -/
structure Broker where
  tick : Option Tick
  lastError : String
  reply : ℕ → Option SendResult
  executed : ℕ → Bool
  done_executed : ∀ call result, reply call = some result →
    result.retcode = tradeRetcodeDone ∨ result.retcode = tradeRetcodeDonePartial →
      executed call = true
  refused_unexecuted : ∀ call result, reply call = some result →
    result.retcode ≠ tradeRetcodeDone → result.retcode ≠ tradeRetcodeDonePartial →
      result.retcode ≠ tradeRetcodeTimeout → executed call = false

structure BrokerState where
  calls : ℕ := 0
  opened : ℕ := 0

namespace Broker

variable (broker : Broker)

def respond (state : BrokerState) : (effect : Effect) → Except PyError effect.Reply × BrokerState
  | .symbolInfoTick _ => (.ok broker.tick, state)
  | .orderSend _ => (.ok (broker.reply state.calls), {
      calls := state.calls + 1
      opened := state.opened + (broker.executed state.calls).toNat })
  | .lastError => (.ok broker.lastError, state)
  | .sleep _ => (.ok (), state)
  | _ => (.error .assertionError, state)

def opened (executor : MT5Executor) (order : OrderRequest ℚ) : ℕ :=
  (Prog.eval broker.respond {} (executor.execute order)).2.opened

def retried (call : ℕ) : Bool :=
  match broker.reply call with
  | none => true
  | some result => result.retcode ∈ retryableRetcodes

def openedFrom : ℕ → ℕ → ℕ
  | 0, _ => 0
  | rounds + 1, call => (broker.executed call).toNat +
      if broker.retried call then openedFrom rounds (call + 1) else 0

theorem openedFrom_eq_zero (rounds call : ℕ) : broker.openedFrom rounds call = 0 ↔
    ∀ later, call ≤ later → later < call + rounds →
      (∀ earlier, call ≤ earlier → earlier < later → broker.retried earlier) →
        broker.executed later = false := by
  induction rounds generalizing call with
  | zero =>
      simp only [openedFrom, true_iff]
      intro later lower upper
      omega
  | succ rounds ih =>
      constructor
      · intro none later lower upper reached
        simp only [openedFrom, Nat.add_eq_zero_iff, Bool.toNat_eq_zero] at none
        by_cases here : later = call
        · rw [here]
          exact none.1
        · have again : broker.retried call := reached call (Nat.le_refl _) (by omega)
          rw [if_pos again] at none
          exact (ih (call + 1)).mp none.2 later (by omega) (by omega)
            fun earlier from' before => reached earlier (by omega) before
      · intro silent
        have here := silent call (Nat.le_refl _) (by omega)
          fun earlier from' before => absurd before (by omega)
        simp only [openedFrom, here, Bool.toNat_false, Nat.zero_add]
        split
        · rename_i again
          refine (ih (call + 1)).mpr fun later lower upper reached =>
            silent later (by omega) (by omega) fun earlier from' before => ?_
          by_cases first : earlier = call
          · rw [first]
            exact again
          · exact reached earlier (by omega) before
        · rfl

theorem openedFrom_le_one (rounds call : ℕ) : broker.openedFrom rounds call ≤ 1 ↔
    ∀ first second, call ≤ first → first < second → second < call + rounds →
      (∀ earlier, call ≤ earlier → earlier < second → broker.retried earlier) →
        ¬(broker.executed first = true ∧ broker.executed second = true) := by
  induction rounds generalizing call with
  | zero =>
      simp only [openedFrom, Nat.zero_le, true_iff]
      intro first second lower ordered upper
      omega
  | succ rounds ih =>
      by_cases here : broker.executed call = true
      · have only : broker.openedFrom (rounds + 1) call ≤ 1 ↔
            (broker.retried call → broker.openedFrom rounds (call + 1) = 0) := by
          simp only [openedFrom, here, Bool.toNat_true]
          split
          · rename_i again
            simp [again]
          · rename_i final
            simp [final]
        rw [only]
        constructor
        · intro silent first second lower ordered upper reached executed
          have again : broker.retried call := reached call (Nat.le_refl _) (by omega)
          have quiet := (broker.openedFrom_eq_zero rounds (call + 1)).mp (silent again) second
            (by omega) (by omega) fun earlier from' before => reached earlier (by omega) before
          simp [quiet] at executed
        · intro unique again
          refine (broker.openedFrom_eq_zero rounds (call + 1)).mpr ?_
          intro later lower upper reached
          have apart := unique call later (Nat.le_refl _) (by omega) (by omega)
            fun earlier from' before => by
              by_cases start : earlier = call
              · rw [start]
                exact again
              · exact reached earlier (by omega) before
          simpa [here] using apart
      · have only : broker.openedFrom (rounds + 1) call ≤ 1 ↔
            (broker.retried call → broker.openedFrom rounds (call + 1) ≤ 1) := by
          simp only [openedFrom, here, Bool.toNat_false, Nat.zero_add]
          split
          · rename_i again
            simp [again]
          · rename_i final
            simp [final]
        rw [only]
        constructor
        · intro later first second lower ordered upper reached executed
          have again : broker.retried call := reached call (Nat.le_refl _) (by omega)
          have past : first ≠ call := by
            rintro rfl
            exact here executed.1
          exact (ih (call + 1)).mp (later again) first second (by omega) ordered (by omega)
            (fun earlier from' before => reached earlier (by omega) before) executed
        · intro unique again
          refine (ih (call + 1)).mpr fun first second lower ordered upper reached =>
            unique first second (by omega) ordered (by omega) fun earlier from' before => ?_
          by_cases start : earlier = call
          · rw [start]
            exact again
          · exact reached earlier (by omega) before

theorem eval_sendLoop (order : OrderRequest ℚ) (request : SendRequest) (rounds : ℕ)
    (local' : MT5Executor.SendState) (state : BrokerState) :
    (Prog.eval broker.respond state (MT5Executor.sendLoop order request rounds local')).2.opened =
      state.opened + broker.openedFrom rounds state.calls := by
  induction rounds generalizing local' state with
  | zero => rfl
  | succ rounds ih =>
      have backOff : ∀ (retry : MT5Executor.SendState) (after : BrokerState),
          (Prog.eval broker.respond after
            (if local'.attempts + 1 < maxAttempts then do
              await (.sleep retry.delay)
              MT5Executor.sendLoop order request rounds { retry with delay := retry.delay * 2 }
            else MT5Executor.sendLoop order request rounds retry :
              Execution ExecOutcome)).2.opened =
            after.opened + broker.openedFrom rounds after.calls := by
        intro retry after
        split
        · exact ih _ _
        · exact ih _ _
      unfold MT5Executor.sendLoop
      rw [Prog.eval_perform_bind]
      simp only [respond, openedFrom]
      cases answered : broker.reply state.calls with
      | none =>
          have again : broker.retried state.calls = true := by simp [retried, answered]
          dsimp only
          rw [Prog.eval_perform_bind]
          simp only [respond, again, ↓reduceIte]
          exact (backOff _ _).trans (Nat.add_assoc _ _ _)
      | some result =>
          dsimp only
          split
          · rename_i done
            have final : broker.retried state.calls = false := by
              rcases done with full | part
              · simp [retried, answered, full, tradeRetcodeDone, retryableRetcodes]
              · simp [retried, answered, part, tradeRetcodeDonePartial, retryableRetcodes]
            simp [final]
          · split
            · rename_i refused
              have final : broker.retried state.calls = false := by
                simp [retried, answered, refused]
              rw [Prog.eval_perform_bind]
              simp [respond, final]
            · rename_i retryable
              have again : broker.retried state.calls = true := by
                simpa [retried, answered] using retryable
              rw [Prog.eval_perform_bind]
              simp only [respond, again, ↓reduceIte]
              exact (backOff _ _).trans (Nat.add_assoc _ _ _)

theorem opened_eq {executor : MT5Executor} (live : executor.settings.dryRunMode = false)
    (order : OrderRequest ℚ) : broker.opened executor order =
      if executor.mt5.isSome ∧ broker.tick.isSome then broker.openedFrom maxAttempts 0 else 0 := by
  have liveMode : ¬executor.settings.dryRunMode = true := by simp [live]
  rw [opened, MT5Executor.execute, if_neg liveMode, Prog.eval_bind]
  cases terminal : executor.mt5 with
  | none =>
      unfold MT5Executor.buildRequest MT5Executor.module
      rw [terminal]
      rfl
  | some mt5 =>
      obtain ⟨built, evaluated, ticked⟩ := MT5Executor.eval_buildRequest terminal order
        (rfl : broker.respond {} (.symbolInfoTick order.symbol) = (.ok broker.tick, {}))
      rw [evaluated]
      cases built with
      | error error =>
          have unticked : broker.tick.isSome = false := ticked.symm
          simp [unticked]
      | ok request =>
          have present : broker.tick.isSome = true := ticked.symm
          unfold MT5Executor.module
          simp only [terminal, Prog.done_bind, present, Option.isSome_some, and_self, ↓reduceIte]
          rw [broker.eval_sendLoop]
          exact Nat.zero_add _

end Broker

/-- One call of `execute` opens at most one position exactly when it never retries past an
attempt that was executed into another one that is executed. -/
theorem execute_opens_one_iff (broker : Broker) {executor : MT5Executor}
    (live : executor.settings.dryRunMode = false) (order : OrderRequest ℚ) :
    broker.opened executor order ≤ 1 ↔
      ¬(executor.mt5.isSome ∧ broker.tick.isSome ∧ ∃ first second, first < second ∧
        second < maxAttempts ∧ (∀ earlier < second, broker.retried earlier) ∧
          broker.executed first = true ∧ broker.executed second = true) := by
  rw [broker.opened_eq live]
  split
  · rename_i reached
    rw [broker.openedFrom_le_one]
    constructor
    · rintro unique ⟨_, _, first, second, ordered, upper, retried, executed⟩
      exact unique first second (Nat.zero_le _) ordered (by omega)
        (fun earlier _ before => retried earlier before) executed
    · intro unique first second _ ordered upper retried executed
      exact unique ⟨reached.1, reached.2, first, second, ordered, by omega,
        fun earlier before => retried earlier (Nat.zero_le _) before, executed⟩
  · rename_i unreached
    simp only [Nat.zero_le, true_iff]
    rintro ⟨terminal, ticked, _⟩
    exact unreached ⟨terminal, ticked⟩

def Broker.lostReply : Broker where
  tick := some ⟨1005, 1006⟩
  lastError := "(-10005, 'IPC timeout')"
  reply := fun call => if call = 0 then none else some { retcode := 10009, order := 2 }
  executed := fun _ => true
  done_executed := fun _ _ _ _ => rfl
  refused_unexecuted := by
    intro call result answered done _ _
    split at answered
    · simp at answered
    · rw [Option.some.injEq] at answered
      exact absurd (by rw [← answered]; rfl) done

def liveExecutor : MT5Executor where
  settings := { dryRunMode := false }
  mt5 := some {}

theorem execute_opens_one_iff_lost :
    Broker.lostReply.opened liveExecutor ⟨"k", "s", "V75", .buy, 1, 1000, 990, 1020, 30⟩ ≤ 1 ↔
      ¬(liveExecutor.mt5.isSome ∧ Broker.lostReply.tick.isSome ∧ ∃ first second,
        first < second ∧ second < maxAttempts ∧
          (∀ earlier < second, Broker.lostReply.retried earlier) ∧
          Broker.lostReply.executed first = true ∧ Broker.lostReply.executed second = true) :=
  execute_opens_one_iff Broker.lostReply rfl _

/-- The reply to an executed request is lost, and the retry is executed as well. -/
theorem execute_opens_two :
    ¬ ∀ (broker : Broker) (executor : MT5Executor) (order : OrderRequest ℚ),
      executor.settings.dryRunMode = false → broker.opened executor order ≤ 1 := by
  intro single
  have two : Broker.lostReply.opened liveExecutor
      ⟨"k", "s", "V75", .buy, 1, 1000, 990, 1020, 30⟩ = 2 := by decide +kernel
  have bound := single Broker.lostReply liveExecutor
    ⟨"k", "s", "V75", .buy, 1, 1000, 990, 1020, 30⟩ rfl
  omega

end Vix75
