import Vix75.RiskChecks

/-! The open-trade cap of risk-service: how many orders are outstanding after any run of any
number of replicas, and the condition under which the cap is met. -/

namespace Vix75

open EffectProgram

namespace Risk

section Interleavings

variable {Pid : Type} [DecidableEq Pid] {consumer : RiskConsumer}
  {assumed : Review → (effect : RiskEffect) → Except PyError effect.Reply → Prop}
  {crashes : Review → Prop} {world after : RiskWorld} {reviews : Pid → Option Review} {pid : Pid}

omit [DecidableEq Pid] in
structure Capped (consumer : RiskConsumer) (world : RiskWorld) (reviews : Pid → Option Review) :
    Prop where
  covered : ∀ key ∈ world.outstanding,
    key ∈ world.openPositions.rows.map OpenPosition.idempotencyKey ∨
      ∃ pid approval, approvalAt reviews pid = some approval ∧ approval.signal.id = key
  room : ∀ pid positions, windowAt reviews pid = some positions →
    (positions.length : ℤ) < consumer.settings.maxOpenPositions
  cap : world.outstanding.length ≤ consumer.settings.maxOpenPositions.toNat

omit [DecidableEq Pid] in
theorem outstanding_grows {effect : RiskEffect} {reply : Except PyError effect.Reply}
    (answered : world.answer effect reply = some after) :
    after.outstanding.Sublist world.outstanding ∨ ∃ order correlationId,
      effect = .xaddApproved order correlationId ∧
        after.outstanding = world.outstanding ++ [order.idempotencyKey] := by
  rcases RiskWorld.answer_eq answered with same | applied
  · exact .inl (by rw [same])
  · rw [applied]
    cases effect with
    | xaddApproved order correlationId => exact .inr ⟨order, correlationId, rfl, rfl⟩
    | hdel key => exact .inl List.filter_sublist
    | _ => exact .inl (List.Sublist.refl _)

theorem Capped.frame {review : Option Review} (held : Capped consumer world reviews)
    (outstanding : after.outstanding = world.outstanding)
    (positions : after.openPositions = world.openPositions)
    (closes : review.bind Review.window = none ∨
      review.bind Review.window = windowAt reviews pid)
    (approval : review.bind Review.approval? = approvalAt reviews pid) :
    Capped consumer after (Function.update reviews pid review) := by
  have approvals : ∀ other, approvalAt (Function.update reviews pid review) other =
      approvalAt reviews other := by
    intro other
    rw [approvalAt_update]
    split
    · rename_i same
      rw [approval, same]
    · rfl
  refine ⟨fun key published => ?_, fun other seen opened => ?_, ?_⟩
  · rw [outstanding] at published
    rw [positions]
    rcases held.covered key published with member | ⟨other, basis, approved, same⟩
    · exact .inl member
    · exact .inr ⟨other, basis, (approvals other).trans approved, same⟩
  · rw [windowAt_update] at opened
    split at opened
    · rename_i same
      rcases closes with closed | kept
      · simp [closed] at opened
      · exact held.room pid seen (by rw [← kept, opened])
    · exact held.room other seen opened
  · rw [outstanding]
    exact held.cap

theorem Capped.publish {positions : List (OpenPosition ℚ)} {approval : Approval}
    {rest : List Message} {review : Review} (held : Capped consumer world reviews)
    (windows : Windows world reviews) (once : world.outstanding.Nodup)
    (current : reviews pid = some review) (opened : review.window = some positions)
    (unpublished : review.approval? = none) (seen : approval.positions = positions)
    (outstanding : after.outstanding = world.outstanding ++ [approval.signal.id])
    (registered : after.openPositions = world.openPositions) :
    Capped consumer after (Function.update reviews pid (some (.published approval rest))) := by
  have here : windowAt reviews pid = some positions := by simp [windowAt, current, opened]
  have unapproved : ∀ other basis, approvalAt reviews other ≠ some basis := by
    intro other basis approved
    cases at' : reviews other with
    | none => simp [approvalAt, at'] at approved
    | some there =>
        cases there with
        | published own others =>
            have open' : windowAt reviews other = some own.positions := by
              simp [windowAt, at', Review.window]
            have same := windows.alone other pid _ _ open' here
            subst same
            rw [current, Option.some.injEq] at at'
            subst at'
            simp [Review.approval?] at unpublished
        | _ => simp [approvalAt, at', Review.approval?] at approved
  have all : world.outstanding ⊆
      world.openPositions.rows.map OpenPosition.idempotencyKey := by
    intro key published
    rcases held.covered key published with member | ⟨other, basis, approved, _⟩
    · exact member
    · exact absurd approved (unapproved other basis)
  have count : world.outstanding.length ≤ world.openPositions.rows.length := by
    simpa using (List.subperm_of_subset once all).length_le
  have shrunk := (windows.seen pid positions here).length_le
  have room := held.room pid positions here
  refine ⟨fun key published => ?_, fun other others isOpen => ?_, ?_⟩
  · rw [outstanding] at published
    rw [registered]
    rcases List.mem_append.mp published with earlier | now
    · exact .inl (all earlier)
    · refine .inr ⟨pid, approval, ?_, (List.mem_singleton.mp now).symm⟩
      rw [approvalAt_update, if_pos rfl]
      rfl
  · rw [windowAt_update] at isOpen
    split at isOpen
    · simp only [Option.bind_some, Review.window, Option.some.injEq] at isOpen
      rw [← isOpen, seen]
      exact room
    · exact held.room other others isOpen
  · rw [outstanding, List.length_append, List.length_singleton]
    omega

theorem Capped.register {approval : Approval} {rest : List Message}
    (held : Capped consumer world reviews)
    (current : reviews pid = some (.published approval rest))
    (outstanding : after.outstanding = world.outstanding)
    (keys : ∀ key, key ∈ world.openPositions.rows.map OpenPosition.idempotencyKey ∨
      key = approval.signal.id →
        key ∈ after.openPositions.rows.map OpenPosition.idempotencyKey) :
    Capped consumer after (Function.update reviews pid (some (.settled rest))) := by
  refine ⟨fun key published => ?_, fun other positions opened => ?_, ?_⟩
  · rw [outstanding] at published
    rcases held.covered key published with member | ⟨other, basis, approved, same⟩
    · exact .inl (keys key (.inl member))
    · by_cases here : other = pid
      · subst here
        simp only [approvalAt, current, Option.bind_some, Review.approval?,
          Option.some.injEq] at approved
        subst approved
        exact .inl (keys key (.inr same.symm))
      · exact .inr ⟨other, basis, by rw [approvalAt_update, if_neg here, approved], same⟩
  · rw [windowAt_update] at opened
    split at opened
    · simp [Review.window] at opened
    · exact held.room other positions opened
  · rw [outstanding]
    exact held.cap

omit [DecidableEq Pid] in
theorem Capped.release {key : String} (held : Capped consumer world reviews) :
    Capped consumer (world.apply (.hdel key)) reviews := by
  refine ⟨fun other published => ?_, held.room, ?_⟩
  · have kept := List.mem_filter.mp published
    rcases held.covered other kept.1 with member | approved
    · exact .inl (KeyedTable.mem_keys_erase.mpr ⟨member, by simpa using kept.2⟩)
    · exact .inr approved
  · exact (List.length_filter_le _ _).trans held.cap

theorem Capped.look {positions : List (OpenPosition ℚ)} {message : Message} {rest : List Message}
    {look : Look} (held : Capped consumer world reviews)
    (current : reviews pid = some (.facing message look rest)) :
    Capped consumer world (Function.update reviews pid (some
      ((reviewing consumer assumed crashes).advance (.facing message look rest) .hgetall
        (.ok positions)))) := by
  have approval : ∀ next : Look, (some (Review.facing message next rest)).bind Review.approval? =
      approvalAt reviews pid := by
    intro next
    simp [approvalAt, current, Review.approval?]
  simp only [reviewing]
  split
  · exact held.frame rfl rfl (.inl rfl) (approval _)
  · rename_i room
    have kept : Capped consumer world
        (Function.update reviews pid (some (.facing message .fresh rest))) :=
      held.frame rfl rfl (.inl rfl) (approval _)
    refine ⟨fun key published => ?_, fun other seen opened => ?_, held.cap⟩
    · rcases kept.covered key published with member | ⟨other, basis, approved, same⟩
      · exact .inl member
      · refine .inr ⟨other, basis, ?_, same⟩
        rw [approvalAt_update] at approved ⊢
        by_cases here : other = pid
        · simp [here, Review.approval?] at approved
        · rw [if_neg here] at approved ⊢
          exact approved
    · rw [windowAt_update] at opened
      split at opened
      · simp only [Option.bind_some, Review.window, Look.positions, Option.some.injEq] at opened
        rw [← opened]
        omega
      · exact held.room other seen opened

/-- No command between publishing and registering is lost. -/
def registering (consumer : RiskConsumer) :
    Discipline RiskEffect RiskEffect.Reply PyError RiskRequest Review :=
  reviewing consumer
    (fun _ effect reply => match effect, reply with
      | .xaddApproved _ _, .error error => error.applied = false
      | .hset _, .error error => error.applied = true
      | _, _ => True)
    (fun review => review.approval? = none)

/-- A handler looks at the registry only while no other one is in the window. -/
def exclusive (reviews : Pid → Option Review) : RiskLabel Pid → Prop
  | .answer pid .hgetall _ => ∀ other, other ≠ pid → windowAt reviews other = none
  | _ => True

theorem Capped.aside {review : Review} {effect : RiskEffect}
    {reply : Except PyError effect.Reply} (held : Capped consumer world reviews)
    (current : reviews pid = some review)
    (allowed : (registering consumer).allowed review effect)
    (unpublished : ∀ order correlationId, effect ≠ .xaddApproved order correlationId)
    (unregistered : ∀ position, effect ≠ .hset position) (unreleased : ∀ key, effect ≠ .hdel key)
    (blind : effect ≠ .hgetall) (answered : world.answer effect reply = some after) :
    Capped consumer after (Function.update reviews pid
      (some ((registering consumer).advance review effect reply))) := by
  have same : after.outstanding = world.outstanding ∧
      after.openPositions = world.openPositions := by
    rcases RiskWorld.answer_eq answered with same | applied
    · rw [same]
      exact ⟨rfl, rfl⟩
    · rw [applied]
      cases effect with
      | xaddApproved order correlationId => exact absurd rfl (unpublished _ _)
      | hset position => exact absurd rfl (unregistered _)
      | hdel key => exact absurd rfl (unreleased _)
      | _ => exact ⟨rfl, rfl⟩
  refine held.frame same.1 same.2 ?_ ?_
  · rw [Option.bind_some, windowAt, current, Option.bind_some]
    exact window_advance blind
  · rw [Option.bind_some, approvalAt, current, Option.bind_some]
    exact approval_advance allowed unpublished unregistered

theorem Capped.approve {review : Review} {order : OrderRequest ℚ} {correlationId : String}
    {reply : Except PyError Unit} (held : Capped consumer world reviews)
    (windows : Windows world reviews) (once : world.outstanding.Nodup)
    (current : reviews pid = some review)
    (allowed : (registering consumer).allowed review (.xaddApproved order correlationId))
    (given : (registering consumer).assumed review (.xaddApproved order correlationId) reply)
    (answered : world.answer (.xaddApproved order correlationId) reply = some after) :
    Capped consumer after (Function.update reviews pid
      (some ((registering consumer).advance review (.xaddApproved order correlationId)
        reply))) := by
  cases reply with
  | error error =>
      have lost : error.applied = false := given
      simp only [RiskWorld.answer, reduceCtorEq, ↓reduceIte, lost, Bool.false_eq_true,
        Option.some.injEq] at answered
      subst answered
      cases review with
      | facing message look rest =>
          refine held.frame rfl rfl (.inl rfl) ?_
          simp [approvalAt, current, registering, reviewing, Review.approval?]
      | _ => exact allowed.elim
  | ok value =>
      obtain ⟨_, applied⟩ := RiskWorld.answer_ok answered
      rcases review with _ | _ | ⟨message, look, rest⟩ | _ | _ <;> try exact allowed.elim
      rcases look with _ | _ | _ | ⟨positions, _ | account, _ | constraints⟩ <;>
        try exact allowed.elim
      obtain ⟨signal, result, parsed, sized, _, rfl⟩ := allowed
      simp only [registering, reviewing, parsed]
      exact held.publish windows once current rfl rfl rfl (by rw [applied]; rfl)
        (by rw [applied]; rfl)

theorem Capped.record {review : Review} {position : OpenPosition ℚ} {reply : Except PyError Unit}
    (held : Capped consumer world reviews) (current : reviews pid = some review)
    (allowed : (registering consumer).allowed review (.hset position))
    (given : (registering consumer).assumed review (.hset position) reply)
    (answered : world.answer (.hset position) reply = some after) :
    Capped consumer after (Function.update reviews pid
      (some ((registering consumer).advance review (.hset position) reply))) := by
  cases review with
  | published approval rest =>
      have registered : after = world.apply (.hset position) := by
        cases reply with
        | ok value => exact (RiskWorld.answer_ok answered).2
        | error error =>
            have kept : error.applied = true := given
            simpa [RiskWorld.answer, kept] using answered.symm
      have key : position.idempotencyKey = approval.signal.id := by
        rw [allowed]
        rfl
      refine held.register current (by rw [registered]; rfl) fun other member => ?_
      rw [registered]
      refine KeyedTable.mem_keys_put.mpr ?_
      rw [key]
      exact member
  | _ => exact allowed.elim

theorem Capped.step {review : Review} {effect : RiskEffect} {reply : Except PyError effect.Reply}
    (held : Capped consumer world reviews) (windows : Windows world reviews)
    (once : world.outstanding.Nodup) (current : reviews pid = some review)
    (allowed : (registering consumer).allowed review effect)
    (given : (registering consumer).assumed review effect reply)
    (answered : world.answer effect reply = some after) :
    Capped consumer after (Function.update reviews pid
      (some ((registering consumer).advance review effect reply))) := by
  by_cases plain : (∀ order correlationId, effect ≠ .xaddApproved order correlationId) ∧
      (∀ position, effect ≠ .hset position) ∧ (∀ key, effect ≠ .hdel key) ∧ effect ≠ .hgetall
  · obtain ⟨unpublished, unregistered, unreleased, blind⟩ := plain
    exact held.aside current allowed unpublished unregistered unreleased blind answered
  have unchanged : after = world → (registering consumer).advance review effect reply = review →
      Capped consumer after (Function.update reviews pid
        (some ((registering consumer).advance review effect reply))) := by
    intro same still
    rw [still, ← current, Function.update_eq_self, same]
    exact held
  cases effect with
  | xaddApproved order correlationId =>
      exact held.approve windows once current allowed given answered
  | hset position => exact held.record current allowed given answered
  | hdel key =>
      have still : (registering consumer).advance review (.hdel key) reply = review := rfl
      rcases RiskWorld.answer_eq answered with same | applied
      · exact unchanged same still
      · rw [still, ← current, Function.update_eq_self, applied]
        exact held.release
  | hgetall =>
      have same : after = world := by
        rcases RiskWorld.answer_eq answered with same | same <;> exact same
      subst same
      cases reply with
      | error error => exact unchanged rfl rfl
      | ok positions =>
          cases review with
          | facing message look rest => exact held.look current
          | _ => exact allowed.elim
  | _ => simp at plain

structure TradesCapped (consumer : RiskConsumer) (world : RiskWorld)
    (reviews : Pid → Option Review) : Prop where
  windows : Windows world reviews
  dealt : (consumer.signalIds world.signals).Nodup →
    Dealt consumer world reviews world.outstanding
  capped : (consumer.signalIds world.signals).Nodup → Capped consumer world reviews

theorem TradesCapped.leave {review : Review} (held : TradesCapped consumer world reviews)
    (current : reviews pid = some review) (unpublished : review.approval? = none) :
    TradesCapped consumer world (Function.update reviews pid none) := by
  refine ⟨held.windows.frame (List.Sublist.refl _) (.inl rfl), fun distinct => ?_,
    fun distinct => ?_⟩
  · exact (held.dealt distinct).idle rfl
  · refine (held.capped distinct).frame rfl rfl (.inl rfl) ?_
    rw [approvalAt, current]
    exact unpublished.symm

theorem registering_maintains (consumer : RiskConsumer) :
    (registering consumer).Maintains consumer.system
      (fun world (reviews : Pid → Option Review) => TradesCapped consumer world reviews)
      exclusive where
  follows := entry_reviews
  start world reviews pid request held free _ := by
    have opened : ((registering consumer).initial request).window = none := by
      cases request <;> rfl
    have approval : ((registering consumer).initial request).approval? = none := by
      cases request <;> rfl
    refine ⟨held.windows.frame (List.Sublist.refl _) (.inl opened), fun distinct => ?_,
      fun distinct => ?_⟩
    · exact (held.dealt distinct).idle (pendingIds_initial request)
    · refine (held.capped distinct).frame rfl rfl (.inl opened) ?_
      rw [Option.bind_some, approval, approvalAt, free]
      rfl
  finish world reviews pid review held current free := held.leave current free
  fail world reviews pid review error held current free := held.leave current free
  crash world reviews pid review held current free := held.leave current free
  environment world reviews event after held happened := by
    cases event with
    | publish message =>
        obtain rfl := Option.some.inj happened
        have earlier : (consumer.signalIds (world.signals ++ [message])).Nodup →
            (consumer.signalIds world.signals).Nodup := fun distinct =>
          distinct.sublist ((List.sublist_append_left _ _).filterMap _)
        refine ⟨⟨held.windows.alone, held.windows.seen⟩, fun distinct => ?_, fun distinct => ?_⟩
        · refine (held.dealt (earlier distinct)).frame ?_ (List.Sublist.refl _)
            fun _ => List.Sublist.refl _
          rw [List.take_append]
          exact ((List.sublist_append_left _ _).filterMap _).subset
        · obtain ⟨covered, room, cap⟩ := held.capped (earlier distinct)
          exact ⟨covered, room, cap⟩
  answer world reviews pid review effect reply after held current allowed given relied
      answered := by
    have signals : after.signals = world.signals := by
      rcases RiskWorld.answer_eq answered with same | applied
      · rw [same]
      · rw [applied]
        cases effect <;> rfl
    refine ⟨held.windows.step current allowed ?_ answered, fun distinct => ?_, fun distinct => ?_⟩
    · rintro rfl
      exact relied
    · rw [signals] at distinct
      exact (held.dealt distinct).step distinct current allowed (outstanding_grows answered)
        answered
    · rw [signals] at distinct
      exact (held.capped distinct).step held.windows (held.dealt distinct).once current allowed
        given answered

/-- However many replicas share the registry, the orders that are published and not
released stay within the cap as long as no handler looks at the registry while another
one decides, and none is lost between publishing and registering. -/
theorem outstanding_within_cap (consumer : RiskConsumer) {trace : List (RiskLabel Pid)}
    {world : RiskWorld} {after : RiskConfig Pid} (fresh : world.outstanding = [])
    (distinct : (consumer.signalIds after.world.signals).Nodup)
    (assumed : (registering consumer).Assumes (fun _ => none) trace)
    (relied : (registering consumer).Relies exclusive (fun _ => none) trace)
    (ran : consumer.system.run (RiskConfig.idle world) trace = some after) :
    after.world.outstanding.length ≤ consumer.settings.maxOpenPositions.toNat := by
  have initial : TradesCapped consumer world (fun _ : Pid => none) := by
    refine ⟨⟨?_, ?_⟩, fun _ => by rw [fresh]; exact Custody.empty, fun _ => ⟨?_, ?_, ?_⟩⟩ <;>
      simp [fresh, windowAt]
  exact (((registering_maintains consumer).runUnder (Discipline.matches_initial world) initial
    assumed relied ran).2.capped distinct).cap

end Interleavings

theorem outstanding_within_cap_one :
    ∃ after, (Sample.consumer 1).system.run (RiskConfig.idle {})
        (Sample.delivering () "1-0" "a" ++ Sample.approving () "a" [] ++
          [.answer () (.hset (Sample.position "a")) (.ok ())]) = some after ∧
      after.world.outstanding = ["a"] ∧
      after.world.outstanding.length ≤ (Sample.consumer 1).settings.maxOpenPositions.toNat := by
  have ran : ((Sample.consumer 1).system.run (RiskConfig.idle {})
      (Sample.delivering () "1-0" "a" ++ Sample.approving () "a" [] ++
        [.answer () (.hset (Sample.position "a")) (.ok ())])).map
      (fun after => (after.world.outstanding,
        (Sample.consumer 1).signalIds after.world.signals)) = some (["a"], ["a"]) := by
    decide +kernel
  obtain ⟨after, reached, seen⟩ := Option.map_eq_some_iff.mp ran
  simp only [Prod.mk.injEq] at seen
  refine ⟨after, reached, seen.1, outstanding_within_cap _ rfl ?_ ?_ ?_ reached⟩
  · rw [seen.2]
    decide
  · refine ⟨trivial, trivial, ?_⟩
    iterate 7 refine ⟨fun _ _ => trivial, ?_⟩
    trivial
  · refine Discipline.relies_of_forall fun label _ reviews => ?_
    unfold exclusive
    split
    · exact fun other elsewhere => absurd rfl elsewhere
    · trivial

/-- Two replicas look at the empty registry before either one registers. -/
theorem outstanding_beyond_cap :
    ¬ ∀ (consumer : RiskConsumer) (trace : List (RiskLabel ℕ)) (world : RiskWorld)
        (after : RiskConfig ℕ), world.outstanding = [] →
        (consumer.signalIds after.world.signals).Nodup →
        consumer.system.run (RiskConfig.idle world) trace = some after →
        after.world.outstanding.length ≤ consumer.settings.maxOpenPositions.toNat := by
  intro capped
  let trace : List (RiskLabel ℕ) :=
    Sample.delivering 0 "1-0" "a" ++ Sample.delivering 1 "2-0" "b" ++
      Sample.approving 0 "a" [] ++ Sample.approving 1 "b" []
  have ran : ((Sample.consumer 1).system.run (RiskConfig.idle {}) trace).map
      (fun after => (after.world.outstanding,
        (Sample.consumer 1).signalIds after.world.signals)) = some (["a", "b"], ["a", "b"]) := by
    decide +kernel
  obtain ⟨after, reached, seen⟩ := Option.map_eq_some_iff.mp ran
  simp only [Prod.mk.injEq] at seen
  have bound := capped (Sample.consumer 1) trace {} after rfl (by rw [seen.2]; decide) reached
  rw [seen.1] at bound
  exact absurd bound (by decide)

end Risk

end Vix75
