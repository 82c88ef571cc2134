import Mathlib.Algebra.Order.BigOperators.Group.List
import Vix75.RiskChecks
import Vix75.SizingChecks

/-! The total-risk cap of risk-service: the open risk after every registration of a single
worker, and the condition under which the cap is met. -/

namespace Vix75

open EffectProgram

namespace Risk

section Interleavings

variable {Pid : Type} [DecidableEq Pid] {consumer : RiskConsumer}
  {assumed : Review → (effect : RiskEffect) → Except PyError effect.Reply → Prop}
  {crashes : Review → Prop} {world after : RiskWorld} {reviews : Pid → Option Review} {pid : Pid}

/-- With the new trade the risk stays within the cap, for the balance of the approval. -/
def WithinTotalRisk (consumer : RiskConsumer) (approval : Approval) : Prop :=
  let risk := riskAmount approval.signal approval.constraints approval.lots
  0 ≤ risk ∧ totalOpenRisk (approval.positions.filter fun position =>
      position.idempotencyKey ≠ approval.signal.id) + risk ≤
    consumer.settings.maxTotalRiskPct / 100 * approval.account.balance

/-- Beside the open risk, the cap leaves room for the most that the signal may risk. -/
structure LeavesRoom (consumer : RiskConsumer) (positions : List (OpenPosition ℚ))
    (signal : Signal ℚ) (account : AccountSnapshot ℚ) (constraints : SymbolConstraints ℚ) :
    Prop where
  volumeMax : 0 ≤ constraints.volumeMax
  room :
    let args := sizingArgs consumer.settings signal account constraints
    totalOpenRisk (positions.filter fun position => position.idempotencyKey ≠ signal.id) +
        DecimalRounding.roundDigits 2 (args.lossPerLot * args.mostLots) ≤
      consumer.settings.maxTotalRiskPct / 100 * account.balance

theorem LeavesRoom.within {positions : List (OpenPosition ℚ)} {signal : Signal ℚ}
    {account : AccountSnapshot ℚ} {constraints : SymbolConstraints ℚ} {result : LotSizingResult ℚ}
    (leaves : LeavesRoom consumer positions signal account constraints)
    (sized : consumer.sizePosition signal account constraints = .returned result)
    (accepted : result.status.Accepted) :
    WithinTotalRisk consumer ⟨signal, positions, account, constraints, result.lots⟩ := by
  obtain ⟨lossPos, nonneg, most⟩ := computeLots_le_mostLots leaves.volumeMax sized accepted
  have risk : 0 ≤ riskAmount signal constraints result.lots :=
    (DecimalRounding.roundDigits_zero (α := ℚ) 2).symm.le.trans
      (DecimalRounding.roundDigits_mono 2 (mul_nonneg lossPos.le nonneg))
  have below : riskAmount signal constraints result.lots ≤ _ :=
    DecimalRounding.roundDigits_mono 2 (mul_le_mul_of_nonneg_left most lossPos.le)
  exact ⟨risk, (add_le_add_right below _).trans leaves.room⟩

def weighing (consumer : RiskConsumer) :
    Discipline RiskEffect RiskEffect.Reply PyError RiskRequest Review :=
  reviewing consumer
    (fun review effect _ => match effect, review with
      | .xaddApproved _ _,
        .facing message (.specified positions (some account) (some constraints)) _ =>
          ∀ signal, consumer.parseSignal message.fields = .ok (some signal) →
            LeavesRoom consumer positions signal account constraints
      | _, _ => True)
    (fun _ => True)

def single (worker : Pid) (_ : Pid → Option Review) : RiskLabel Pid → Prop
  | .start pid .drain => pid = worker
  | _ => True

structure RiskCapped (consumer : RiskConsumer) (worker : Pid) (world : RiskWorld)
    (reviews : Pid → Option Review) : Prop where
  windows : Windows world reviews
  others : ∀ pid review, pid ≠ worker → reviews pid = some review → review = .outside
  registered : ∀ position ∈ world.openPositions.rows, 0 ≤ position.riskAmount
  seen : ∀ pid positions, windowAt reviews pid = some positions →
    ∀ position ∈ positions, 0 ≤ position.riskAmount
  weighed : ∀ pid approval, approvalAt reviews pid = some approval →
    WithinTotalRisk consumer approval

variable {worker : Pid}

theorem RiskCapped.leave (held : RiskCapped consumer worker world reviews) (pid : Pid) :
    RiskCapped consumer worker world (Function.update reviews pid none) := by
  refine ⟨held.windows.frame (List.Sublist.refl _) (.inl rfl), fun other review elsewhere current =>
    ?_, held.registered, fun other positions opened => ?_, fun other approval approved => ?_⟩
  · by_cases same : other = pid
    · simp [same] at current
    · rw [Function.update_of_ne same] at current
      exact held.others other review elsewhere current
  · rw [windowAt_update] at opened
    split at opened
    · simp at opened
    · exact held.seen other positions opened
  · rw [approvalAt_update] at approved
    split at approved
    · simp at approved
    · exact held.weighed other approval approved

theorem RiskCapped.exclusive {review : Review} (held : RiskCapped consumer worker world reviews)
    (current : reviews pid = some review) (allowed : (weighing consumer).allowed review .hgetall) :
    ∀ other, other ≠ pid → windowAt reviews other = none := by
  intro other elsewhere
  have worked : pid = worker := by
    by_contra idle
    rw [held.others pid review idle current] at allowed
    exact allowed
  cases there : reviews other with
  | none => simp [windowAt, there]
  | some review =>
      have outside := held.others other review (by rwa [← worked]) there
      simp [windowAt, there, outside, Review.window]

section Step

variable {review : Review} {effect : RiskEffect} {reply : Except PyError effect.Reply}

omit [DecidableEq Pid] in
theorem RiskCapped.registers (held : RiskCapped consumer worker world reviews)
    (current : reviews pid = some review) (allowed : (weighing consumer).allowed review effect)
    (answered : world.answer effect reply = some after) :
    ∀ position ∈ after.openPositions.rows, 0 ≤ position.riskAmount := by
  rcases RiskWorld.answer_eq answered with same | applied
  · rw [same]
    exact held.registered
  · rw [applied]
    cases effect with
    | hset position =>
        cases review with
        | published approval rest =>
            intro other member
            rcases List.mem_append.mp member with earlier | now
            · exact held.registered other ((world.openPositions.erase_sublist _).subset earlier)
            · have approved : approvalAt reviews pid = some approval := by
                simp [approvalAt, current, Review.approval?]
              rw [List.mem_singleton.mp now, allowed]
              exact (held.weighed pid approval approved).1
        | _ => exact allowed.elim
    | hdel key =>
        intro other member
        exact held.registered other ((world.openPositions.erase_sublist _).subset member)
    | _ => exact held.registered

omit [DecidableEq Pid] in
theorem RiskCapped.sees {positions : List (OpenPosition ℚ)}
    (held : RiskCapped consumer worker world reviews) (current : reviews pid = some review)
    (allowed : (weighing consumer).allowed review effect)
    (answered : world.answer effect reply = some after)
    (opened : ((weighing consumer).advance review effect reply).window = some positions) :
    ∀ position ∈ positions, 0 ≤ position.riskAmount := by
  have here : windowAt reviews pid = review.window := by simp [windowAt, current]
  by_cases looks : effect = .hgetall
  · subst looks
    cases reply with
    | error error => exact held.seen pid positions (here.trans opened)
    | ok rows =>
        obtain ⟨same, _⟩ := RiskWorld.answer_ok answered
        simp only [RiskWorld.replies, decide_eq_true_eq] at same
        subst same
        cases review with
        | facing message look rest =>
            simp only [weighing, reviewing] at opened
            split at opened
            · simp [Review.window, Look.positions] at opened
            · simp only [Review.window, Look.positions, Option.some.injEq] at opened
              rw [← opened]
              exact held.registered
        | _ => exact allowed.elim
  · have closes : ((weighing consumer).advance review effect reply).window = none ∨
        ((weighing consumer).advance review effect reply).window = review.window :=
      window_advance looks
    rcases closes with closed | kept
    · exact absurd (closed.symm.trans opened) (by simp)
    · exact held.seen pid positions (here.trans (kept.symm.trans opened))

omit [DecidableEq Pid] in
theorem RiskCapped.weighs {approval : Approval} (held : RiskCapped consumer worker world reviews)
    (current : reviews pid = some review) (allowed : (weighing consumer).allowed review effect)
    (given : (weighing consumer).assumed review effect reply)
    (approved : ((weighing consumer).advance review effect reply).approval? = some approval) :
    WithinTotalRisk consumer approval := by
  by_cases publishes : ∃ order correlationId, effect = .xaddApproved order correlationId
  · obtain ⟨order, correlationId, rfl⟩ := publishes
    rcases review with _ | _ | ⟨message, look, rest⟩ | _ | _ <;> try exact allowed.elim
    rcases look with _ | _ | _ | ⟨positions, _ | account, _ | constraints⟩ <;>
      try exact allowed.elim
    obtain ⟨signal, result, parsed, sized, accepted, rfl⟩ := allowed
    cases reply with
    | error error => simp [weighing, reviewing, Review.approval?] at approved
    | ok value =>
        simp only [weighing, reviewing, parsed, Review.approval?, Option.some.injEq] at approved
        rw [← approved]
        exact (given signal parsed).within sized accepted
  · by_cases registers : ∃ position, effect = .hset position
    · obtain ⟨position, rfl⟩ := registers
      cases review with
      | published basis rest => simp [weighing, reviewing, Review.approval?] at approved
      | _ => exact allowed.elim
    · have same : ((weighing consumer).advance review effect reply).approval? =
          review.approval? := approval_advance allowed
        (fun order correlationId is => publishes ⟨order, correlationId, is⟩)
        fun position is => registers ⟨position, is⟩
      have mine : approvalAt reviews pid = review.approval? := by simp [approvalAt, current]
      exact held.weighed pid approval (mine.trans (same.symm.trans approved))

theorem RiskCapped.step (held : RiskCapped consumer worker world reviews)
    (current : reviews pid = some review) (allowed : (weighing consumer).allowed review effect)
    (given : (weighing consumer).assumed review effect reply)
    (answered : world.answer effect reply = some after) :
    RiskCapped consumer worker after (Function.update reviews pid
      (some ((weighing consumer).advance review effect reply))) := by
  have exclusive : effect = .hgetall → ∀ other, other ≠ pid → windowAt reviews other = none := by
    rintro rfl
    exact held.exclusive current allowed
  refine ⟨held.windows.step current allowed exclusive answered,
    fun other there elsewhere moved => ?_, held.registers current allowed answered,
    fun other positions opened => ?_, fun other approval approved => ?_⟩
  · by_cases same : other = pid
    · subst same
      have outside := held.others other review elsewhere current
      subst outside
      simp only [Function.update_self, Option.some.injEq] at moved
      rw [← moved]
      cases effect <;> first | rfl | exact allowed.elim
    · rw [Function.update_of_ne same] at moved
      exact held.others other there elsewhere moved
  · rw [windowAt_update] at opened
    split at opened
    · exact held.sees current allowed answered opened
    · exact held.seen other positions opened
  · rw [approvalAt_update] at approved
    split at approved
    · exact held.weighs current allowed given approved
    · exact held.weighed other approval approved

end Step

theorem weighing_maintains (consumer : RiskConsumer) (worker : Pid) :
    (weighing consumer).Maintains consumer.system (RiskCapped consumer worker)
      (single worker) where
  follows := entry_reviews
  start world reviews pid request held _ begun := by
    have opened : ((weighing consumer).initial request).window = none := by
      cases request <;> rfl
    have approval : ((weighing consumer).initial request).approval? = none := by
      cases request <;> rfl
    refine ⟨held.windows.frame (List.Sublist.refl _) (.inl opened),
      fun other review elsewhere current => ?_, held.registered, fun other positions isOpen => ?_,
      fun other basis approved => ?_⟩
    · by_cases same : other = pid
      · subst same
        rw [Function.update_self, Option.some.injEq] at current
        cases request with
        | drain => exact absurd begun elsewhere
        | ensureGroup => exact current.symm
        | release key => exact current.symm
      · rw [Function.update_of_ne same] at current
        exact held.others other review elsewhere current
    · rw [windowAt_update] at isOpen
      split at isOpen
      · simp [opened] at isOpen
      · exact held.seen other positions isOpen
    · rw [approvalAt_update] at approved
      split at approved
      · simp [approval] at approved
      · exact held.weighed other basis approved
  finish world reviews pid review held _ _ := held.leave pid
  fail world reviews pid review error held _ _ := held.leave pid
  crash world reviews pid review held _ _ := held.leave pid
  environment world reviews event after held happened := by
    cases event with
    | publish message =>
        obtain rfl := Option.some.inj happened
        exact ⟨⟨held.windows.alone, held.windows.seen⟩, held.others, held.registered, held.seen,
          held.weighed⟩
  answer world reviews pid review effect reply after held current allowed given _ answered :=
    held.step current allowed given answered

omit [DecidableEq Pid] in
theorem RiskCapped.total {approval : Approval} (held : RiskCapped consumer worker world reviews)
    (approved : approvalAt reviews pid = some approval)
    (opened : windowAt reviews pid = some approval.positions) {position : OpenPosition ℚ}
    (key : position.idempotencyKey = approval.signal.id)
    (risk : position.riskAmount =
      riskAmount approval.signal approval.constraints approval.lots) :
    totalOpenRisk (world.openPositions.put position).rows ≤
      consumer.settings.maxTotalRiskPct / 100 * approval.account.balance := by
  obtain ⟨_, within⟩ := held.weighed pid approval approved
  have kept : ((world.openPositions.rows.filter fun other =>
      other.idempotencyKey ≠ approval.signal.id).map OpenPosition.riskAmount).Sublist
        ((approval.positions.filter fun other =>
          other.idempotencyKey ≠ approval.signal.id).map OpenPosition.riskAmount) :=
    ((held.windows.seen pid _ opened).filter _).map _
  have bounded := kept.sum_le_sum (by
    intro amount member
    obtain ⟨other, kept, rfl⟩ := List.mem_map.mp member
    exact held.seen pid _ opened other (List.mem_of_mem_filter kept))
  calc totalOpenRisk (world.openPositions.put position).rows
      = totalOpenRisk (world.openPositions.rows.filter fun other =>
          other.idempotencyKey ≠ approval.signal.id) + position.riskAmount := by
        simp [totalOpenRisk, PyMath.sum, KeyedTable.put, KeyedTable.erase, key]
    _ ≤ totalOpenRisk (approval.positions.filter fun other =>
          other.idempotencyKey ≠ approval.signal.id) +
          riskAmount approval.signal approval.constraints approval.lots := by
        rw [risk]
        exact add_le_add_left bounded _
    _ ≤ consumer.settings.maxTotalRiskPct / 100 * approval.account.balance := within

/-- Immediately after every registration the open risk is within the cap, for the balance
of the approval, when every approval finds room for the most that its signal may risk. -/
theorem totalRisk_within_cap (consumer : RiskConsumer) {worker pid : Pid} {world : RiskWorld}
    {trace : List (RiskLabel Pid)} {position : OpenPosition ℚ} {after : RiskConfig Pid}
    (registered : ∀ row ∈ world.openPositions.rows, 0 ≤ row.riskAmount)
    (alone : ∀ pid, .start pid .drain ∈ trace → pid = worker)
    (assumed : (weighing consumer).Assumes (fun _ => none) trace)
    (ran : consumer.system.run (RiskConfig.idle world)
      (trace ++ [.answer pid (.hset position) (.ok ())]) = some after) :
    ∃ approval, approvalAt ((weighing consumer).trackAll (fun _ => none) trace) pid =
        some approval ∧ position.idempotencyKey = approval.signal.id ∧
      totalOpenRisk after.world.openPositions.rows ≤
        consumer.settings.maxTotalRiskPct / 100 * approval.account.balance := by
  obtain ⟨middle, ranBefore, last⟩ := (System.run_append _).mp ran
  have initial : RiskCapped consumer worker world (fun _ : Pid => none) := by
    refine ⟨⟨?_, ?_⟩, ?_, registered, ?_, ?_⟩ <;> simp [windowAt, approvalAt]
  have relied : (weighing consumer).Relies (single worker) (fun _ => none) trace := by
    refine Discipline.relies_of_forall fun label member reviews => ?_
    cases label with
    | start starter request =>
        cases request with
        | drain => exact alone starter member
        | _ => trivial
    | _ => trivial
  obtain ⟨matched, held⟩ := (weighing_maintains consumer worker).runUnder
    (Discipline.matches_initial world) initial assumed relied ranBefore
  simp only [System.run, Option.bind_eq_some_iff, Option.some.injEq] at last
  obtain ⟨final, stepped, rfl⟩ := last
  obtain ⟨review, current, allowed, answered, _⟩ := Discipline.matches_answer matched stepped
  cases review with
  | published approval rest =>
      have approved : approvalAt ((weighing consumer).trackAll (fun _ => none) trace) pid =
          some approval := by simp [approvalAt, current, Review.approval?]
      have opened : windowAt ((weighing consumer).trackAll (fun _ => none) trace) pid =
          some approval.positions := by simp [windowAt, current, Review.window]
      have basis : position = positionOf approval.signal
          (orderOf approval.signal approval.lots)
          (riskAmount approval.signal approval.constraints approval.lots) := allowed
      have given : middle.world.answer (.hset position) (.ok ()) = some final.world := answered
      refine ⟨approval, approved, by rw [basis]; rfl, ?_⟩
      rw [(RiskWorld.answer_ok given).2]
      exact held.total approved opened (by rw [basis]; rfl) (by rw [basis]; rfl)
  | _ => exact allowed.elim

end Interleavings

theorem totalRisk_within_cap_first :
    ∃ after, (Sample.consumer 3).system.run (RiskConfig.idle {})
        (Sample.delivering () "1-0" "a" ++ Sample.approving () "a" [] ++
          [.answer () (.hset (Sample.position "a")) (.ok ())]) = some after ∧
      ∃ approval, approvalAt ((weighing (Sample.consumer 3)).trackAll (fun _ => none)
          (Sample.delivering () "1-0" "a" ++ Sample.approving () "a" [])) () = some approval ∧
        (Sample.position "a").idempotencyKey = approval.signal.id ∧
        totalOpenRisk after.world.openPositions.rows ≤
          (Sample.consumer 3).settings.maxTotalRiskPct / 100 * approval.account.balance := by
  have ran : ((Sample.consumer 3).system.run (RiskConfig.idle {})
      (Sample.delivering () "1-0" "a" ++ Sample.approving () "a" [] ++
        [.answer () (.hset (Sample.position "a")) (.ok ())])).isSome := by
    decide +kernel
  obtain ⟨after, reached⟩ := Option.isSome_iff_exists.mp ran
  refine ⟨after, reached, totalRisk_within_cap _ (by simp [KeyedTable.empty])
    (fun _ _ => Subsingleton.elim _ ()) ?_ reached⟩
  refine ⟨trivial, trivial, ?_⟩
  iterate 5 refine ⟨fun _ _ => trivial, ?_⟩
  refine ⟨fun review current => ?_, trivial⟩
  have known : (weighing (Sample.consumer 3)).trackAll (fun _ => none)
      (Sample.delivering () "1-0" "a" ++ (Sample.approving () "a" []).take 4) () =
        some (.facing (Sample.message "1-0" "a")
          (.specified [] (some Sample.account) (some Sample.spec)) []) := by decide +kernel
  obtain rfl := Option.some.inj (known.symm.trans current)
  intro signal parsed
  have parsedSample : (Sample.consumer 3).parseSignal (Sample.message "1-0" "a").fields =
      .ok (some (Sample.signal "a")) := by decide +kernel
  obtain rfl := Option.some.inj (Except.ok.inj (parsedSample.symm.trans parsed))
  exact ⟨by decide +kernel, by decide +kernel⟩

/-- The first trade takes 2% of the balance, so the gate lets the second one through. -/
theorem totalRisk_beyond_cap :
    ¬ ∀ (consumer : RiskConsumer) (trace : List (RiskLabel Unit)) (world : RiskWorld)
        (position : OpenPosition ℚ) (after : RiskConfig Unit) (approval : Approval),
        world.openPositions.rows = [] →
        approvalAt ((weighing consumer).trackAll (fun _ => none) trace) () = some approval →
        0 < approval.account.balance →
        consumer.system.run (RiskConfig.idle world)
          (trace ++ [.answer () (.hset position) (.ok ())]) = some after →
        totalOpenRisk after.world.openPositions.rows ≤
          consumer.settings.maxTotalRiskPct / 100 * approval.account.balance := by
  intro capped
  let trace : List (RiskLabel Unit) :=
    Sample.delivering () "1-0" "a" ++ Sample.approving () "a" [] ++
      [.answer () (.hset (Sample.position "a")) (.ok ()), .answer () (.xack "1-0") (.ok ()),
       .finish ()] ++
      Sample.delivering () "2-0" "b" ++ Sample.approving () "b" [Sample.position "a"]
  have ran : ((Sample.consumer 3).system.run (RiskConfig.idle {})
      (trace ++ [.answer () (.hset (Sample.position "b")) (.ok ())])).map
        (fun after => totalOpenRisk after.world.openPositions.rows) = some 400 := by
    decide +kernel
  have approved : approvalAt ((weighing (Sample.consumer 3)).trackAll (fun _ => none) trace) () =
      some ⟨Sample.signal "b", [Sample.position "a"], Sample.account, Sample.spec, 2 / 5⟩ := by
    decide +kernel
  obtain ⟨after, reached, total⟩ := Option.map_eq_some_iff.mp ran
  have bound := capped (Sample.consumer 3) trace {} (Sample.position "b") after _ rfl approved
    (by decide +kernel) reached
  rw [total] at bound
  exact absurd bound (by decide +kernel)

end Risk

end Vix75
