import Vix75.Custody
import Vix75.RiskSystem

/-! What every handler of risk-service does in every run: the order of its commands, who is
between a look at the registry and the registration, and in whose hand a signal is. -/

namespace Vix75

open EffectProgram

namespace Risk

section Follows

variable {consumer : RiskConsumer}
  {assumed : Review → (effect : RiskEffect) → Except PyError effect.Reply → Prop}
  {crashes : Review → Prop} {message : Message} {rest : List Message}

theorem correlation_reviews (decoded : Fields) (review : Review)
    (unpublished : review.approval? = none) :
    (reviewing consumer assumed crashes).wp review (getOrCreateCorrelationId decoded)
      (fun after _ => after = review) (fun after _ => after.approval? = none) := by
  unfold getOrCreateCorrelationId
  split
  · rfl
  · rw [Discipline.wp_perform]
    exact ⟨trivial, fun _ _ => rfl, fun _ _ => unpublished⟩

theorem preflight_reviews (balance : Option ℚ) :
    (reviewing consumer assumed crashes).wp (.facing message .fresh rest)
      (preflight consumer.settings balance)
      (fun after reason => (∃ look, after = .facing message look rest) ∧
        (reason = none → ∃ positions, after = .facing message (.seen positions) rest))
      (fun after _ => after.approval? = none) := by
  refine Discipline.wp_perform_bind trivial (fun _ _ => rfl) fun positions _ => ?_
  simp only [Discipline.wp_done, reviewing, preflightReason, exposureReason]
  by_cases full : consumer.settings.maxOpenPositions ≤ (positions.length : ℤ)
  · simp [full]
  · simp [full]

theorem load_reviews {α : Type} (look : Look) (next : α → Look) {key : String}
    {reader : Option String → Except PyError α}
    (reads : ∀ raw value, reader raw = .ok value → look.read consumer.codec raw = next value) :
    (reviewing consumer assumed crashes).wp (.facing message look rest)
      ((await (.get key)).bind fun raw => Prog.ofExcept (reader raw))
      (fun after value => after = .facing message (next value) rest)
      (fun after _ => after.approval? = none) := by
  refine Discipline.wp_perform_bind trivial (fun _ _ => rfl) fun raw _ => ?_
  refine Discipline.wp_ofExcept (fun value read => ?_) fun _ _ => rfl
  simp only [reviewing, reads raw value read]

theorem decide_reviews {signal : Signal ℚ} :
    (reviewing consumer assumed crashes).wp (.facing message .fresh rest) (consumer.decide signal)
      (fun after decision => ∃ look, after = .facing message look rest ∧
        (decision.approved = true → ∃ positions account constraints result,
          look = .specified positions (some account) (some constraints) ∧
          consumer.sizePosition signal account constraints = .returned result ∧
          result.status.Accepted ∧ decision.lots = result.lots ∧
          decision.riskAmount = riskAmount signal constraints result.lots))
      (fun after _ => after.approval? = none) := by
  unfold RiskConsumer.decide RiskConsumer.loadAccount RiskConsumer.loadSymbolConstraints
  refine Discipline.wp_seq _ (load_reviews .fresh (fun _ => .fresh) fun _ _ _ => rfl) ?_
  rintro current hint rfl
  refine Discipline.wp_seq _ (preflight_reviews _) ?_
  rintro current reason ⟨⟨look, looked⟩, clear⟩
  cases reason with
  | some reason => exact ⟨look, looked, by simp⟩
  | none =>
      obtain ⟨positions, rfl⟩ := clear rfl
      refine Discipline.wp_seq _ (load_reviews (.seen positions) (.funded positions)
        fun _ _ read => by simp [Look.read, read]) ?_
      rintro current account rfl
      refine Discipline.wp_seq _ (load_reviews (.funded positions account)
        (.specified positions account) fun _ _ read => by simp [Look.read, read]) ?_
      rintro current constraints rfl
      cases account with
      | none => exact ⟨_, rfl, by simp⟩
      | some account =>
          cases constraints with
          | none => exact ⟨_, rfl, by simp⟩
          | some constraints =>
              dsimp only
              split
              · exact ⟨_, rfl, by simp⟩
              · split
                · rename_i result sized
                  refine ⟨_, rfl, fun approved => ?_⟩
                  simp only [decideSized] at approved ⊢
                  split at approved
                  · rename_i accepted
                    exact ⟨positions, account, constraints, result, rfl, sized, accepted,
                      by simp [accepted]⟩
                  · simp at approved
                · rfl
                · exact Discipline.wp_perform_bind trivial (fun _ _ => rfl) fun never => never.elim

theorem handleSignal_reviews {signal : Signal ℚ}
    (parsed : consumer.parseSignal message.fields = .ok (some signal)) (correlationId : String) :
    (reviewing consumer assumed crashes).wp (.facing message .fresh rest)
      (consumer.handleSignal signal correlationId) (fun after _ => after = .settled rest)
      (fun after _ => after.approval? = none) := by
  refine Discipline.wp_seq _ decide_reviews ?_
  rintro current decision ⟨look, rfl, basis⟩
  split
  · rename_i approved
    obtain ⟨positions, account, constraints, result, rfl, sized, accepted, lots, risk⟩ :=
      basis approved
    refine Discipline.wp_perform_bind ⟨signal, result, parsed, sized, accepted, by rw [lots]⟩
      (fun _ _ => rfl) fun _ _ => ?_
    simp only [reviewing, parsed]
    rw [Discipline.wp_perform]
    refine ⟨?_, fun _ _ => rfl, fun _ _ => rfl⟩
    simp [orderOf, risk, lots]
  · split
    · rfl
    · rw [Discipline.wp_perform]
      exact ⟨trivial, fun _ _ => rfl, fun _ _ => rfl⟩

theorem handleMessage_reviews :
    (reviewing consumer assumed crashes).wp (.facing message .fresh rest)
      (consumer.handleMessage message) (fun after _ => after = .next rest)
      (fun after _ => after.approval? = none) := by
  unfold RiskConsumer.handleMessage RiskConsumer.handle
  rw [Discipline.wp_bind]
  refine Discipline.wp_seq _ (correlation_reviews _ _ rfl) ?_
  rintro current correlationId rfl
  cases parsed : consumer.parseSignal message.fields with
  | error error => rfl
  | ok found =>
      rw [Prog.ofExcept_ok, Prog.done_bind]
      cases found with
      | none =>
          rw [Discipline.wp_done, Discipline.wp_perform]
          exact ⟨⟨rfl, parsed⟩, fun _ _ => rfl, fun _ _ => rfl⟩
      | some signal =>
          refine Discipline.wp_mono (handleSignal_reviews parsed correlationId) ?_
            (fun _ _ held => held)
          rintro after _ rfl
          rw [Discipline.wp_perform]
          exact ⟨trivial, fun _ _ => rfl, fun _ _ => rfl⟩

theorem ensureGroup_reviews (review : Review) (unpublished : review.approval? = none) :
    (reviewing consumer assumed crashes).wp review ensureGroup (fun after _ => after = review)
      (fun after _ => after.approval? = none) := by
  unfold ensureGroup
  rw [Discipline.wp_rescue, Discipline.wp_perform]
  refine ⟨trivial, fun _ _ => rfl, fun error _ => ?_⟩
  cases error with
  | busyGroup => rfl
  | _ => exact unpublished

theorem readBatch_reviews :
    (reviewing consumer assumed crashes).wp .between readBatch
      (fun after messages => after = .next messages) (fun after _ => after.approval? = none) := by
  unfold readBatch
  rw [Discipline.wp_rescue, Discipline.wp_perform]
  refine ⟨trivial, fun _ _ => rfl, fun error _ => ?_⟩
  change (reviewing consumer assumed crashes).wp .between _ _ _
  cases error with
  | noGroup =>
      refine Discipline.wp_seq _ (ensureGroup_reviews _ rfl) ?_
      rintro current _ rfl
      rfl
  | _ => exact Discipline.wp_perform_bind trivial (fun _ _ => rfl) fun _ _ => rfl

theorem entry_reviews (request : RiskRequest) :
    (reviewing consumer assumed crashes).wp
      ((reviewing consumer assumed crashes).initial request) (consumer.entry request)
      (fun after _ => after.approval? = none) (fun after _ => after.approval? = none) := by
  cases request with
  | ensureGroup =>
      refine Discipline.wp_mono (ensureGroup_reviews .outside rfl) ?_ (fun _ _ held => held)
      rintro after _ rfl
      rfl
  | release key =>
      change (reviewing consumer assumed crashes).wp .outside (await (.hdel key)) _ _
      rw [Discipline.wp_perform]
      exact ⟨trivial, fun _ _ => rfl, fun _ _ => rfl⟩
  | drain =>
      refine Discipline.wp_seq _ readBatch_reviews ?_
      rintro current messages rfl
      have looped : (reviewing consumer assumed crashes).wp (.next messages)
          (Prog.forEach messages consumer.handleMessage) (fun after _ => after = .next [])
          (fun after _ => after.approval? = none) := by
        refine Discipline.wp_forEach (fun (rest : List Message) review =>
          review = Review.next rest) rfl ?_
        rintro message rest current rfl
        exact handleMessage_reviews
      refine Discipline.wp_mono looped ?_ (fun _ _ held => held)
      rintro after _ rfl
      rfl

end Follows

/-! The window between a look at the registry and the registration -/

section Interleavings

variable {Pid : Type}

def windowAt (reviews : Pid → Option Review) (pid : Pid) : Option (List (OpenPosition ℚ)) :=
  (reviews pid).bind Review.window

def approvalAt (reviews : Pid → Option Review) (pid : Pid) : Option Approval :=
  (reviews pid).bind Review.approval?

/-- At most one handler is in the window, and nothing was registered since its look. -/
structure Windows (world : RiskWorld) (reviews : Pid → Option Review) : Prop where
  alone : ∀ pid other positions others, windowAt reviews pid = some positions →
    windowAt reviews other = some others → pid = other
  seen : ∀ pid positions, windowAt reviews pid = some positions →
    world.openPositions.rows.Sublist positions

variable [DecidableEq Pid]

theorem windowAt_update (reviews : Pid → Option Review) (pid other : Pid)
    (review : Option Review) : windowAt (Function.update reviews pid review) other =
      if other = pid then review.bind Review.window else windowAt reviews other := by
  by_cases same : other = pid
  · subst same
    simp [windowAt]
  · simp [windowAt, same]

theorem approvalAt_update (reviews : Pid → Option Review) (pid other : Pid)
    (review : Option Review) : approvalAt (Function.update reviews pid review) other =
      if other = pid then review.bind Review.approval? else approvalAt reviews other := by
  by_cases same : other = pid
  · subst same
    simp [approvalAt]
  · simp [approvalAt, same]

variable {consumer : RiskConsumer}
  {assumed : Review → (effect : RiskEffect) → Except PyError effect.Reply → Prop}
  {crashes : Review → Prop} {world after : RiskWorld} {reviews : Pid → Option Review} {pid : Pid}

theorem Windows.frame {review : Option Review} (held : Windows world reviews)
    (rows : after.openPositions.rows.Sublist world.openPositions.rows)
    (closes : review.bind Review.window = none ∨
      review.bind Review.window = windowAt reviews pid) :
    Windows after (Function.update reviews pid review) := by
  have before : ∀ other positions,
      windowAt (Function.update reviews pid review) other = some positions →
        windowAt reviews other = some positions := by
    intro other positions opened
    rw [windowAt_update] at opened
    split at opened
    · rename_i same
      rcases closes with closed | kept
      · simp [closed] at opened
      · rw [same, ← kept, opened]
    · exact opened
  refine ⟨fun first second positions others openFirst openSecond => ?_,
    fun other positions opened => ?_⟩
  · exact held.alone first second positions others (before _ _ openFirst) (before _ _ openSecond)
  · exact rows.trans (held.seen other positions (before _ _ opened))

omit [DecidableEq Pid] in
theorem window_advance {review : Review} {effect : RiskEffect}
    {reply : Except PyError effect.Reply} (blind : effect ≠ .hgetall) :
    ((reviewing consumer assumed crashes).advance review effect reply).window = none ∨
      ((reviewing consumer assumed crashes).advance review effect reply).window =
        review.window := by
  cases effect with
  | hgetall => exact absurd rfl blind
  | xreadgroup count =>
      cases reply with
      | error error => exact .inr rfl
      | ok messages => exact .inl (by simp [reviewing])
  | xack id =>
      rcases reply with error | value
      · exact .inr rfl
      · cases review with
        | facing message look rest => exact .inl (by simp [reviewing])
        | settled rest => exact .inl (by simp [reviewing])
        | _ => exact .inr rfl
  | get key =>
      rcases reply with error | raw
      · exact .inr rfl
      · cases review with
        | facing message look rest => exact .inr (look.positions_read consumer.codec raw)
        | _ => exact .inr rfl
  | xaddApproved order correlationId =>
      rcases reply with error | value
      · cases review with
        | facing message look rest => exact .inl rfl
        | _ => exact .inr rfl
      · rcases review with _ | _ | ⟨message, look, rest⟩ | _ | _ <;> try exact .inr rfl
        rcases look with _ | _ | _ | ⟨positions, _ | account, _ | constraints⟩ <;>
          try exact .inr rfl
        simp only [reviewing]
        split
        · exact .inr rfl
        · exact .inl rfl
  | xaddRejected entry =>
      cases review with
      | facing message look rest => exact .inl rfl
      | _ => exact .inr rfl
  | hset position =>
      cases review with
      | published approval rest => exact .inl rfl
      | _ => exact .inr rfl
  | _ => exact .inr rfl

theorem Windows.step {review : Review} {effect : RiskEffect} {reply : Except PyError effect.Reply}
    (held : Windows world reviews) (current : reviews pid = some review)
    (allowed : (reviewing consumer assumed crashes).allowed review effect)
    (exclusive : effect = .hgetall → ∀ other, other ≠ pid → windowAt reviews other = none)
    (answered : world.answer effect reply = some after) :
    Windows after (Function.update reviews pid
      (some ((reviewing consumer assumed crashes).advance review effect reply))) := by
  have here : windowAt reviews pid = review.window := by simp [windowAt, current]
  by_cases looks : effect = .hgetall
  · subst looks
    have same : after = world := by
      rcases RiskWorld.answer_eq answered with same | same <;> exact same
    subst same
    have others := exclusive rfl
    cases reply with
    | error error => exact held.frame (List.Sublist.refl _) (.inr here.symm)
    | ok positions =>
        obtain ⟨given, _⟩ := RiskWorld.answer_ok answered
        simp only [RiskWorld.replies, decide_eq_true_eq] at given
        subst given
        have only : ∀ other opened, windowAt (Function.update reviews pid
            (some ((reviewing consumer assumed crashes).advance review .hgetall
              (.ok after.openPositions.rows)))) other = some opened → other = pid := by
          intro other opened isOpen
          by_contra elsewhere
          rw [windowAt_update, if_neg elsewhere, others other elsewhere] at isOpen
          simp at isOpen
        refine ⟨fun first second positions more openFirst openSecond => ?_,
          fun other positions opened => ?_⟩
        · rw [only first positions openFirst, only second more openSecond]
        · have same := only other positions opened
          subst same
          rw [windowAt_update, if_pos rfl, Option.bind_some] at opened
          cases review with
          | facing message look rest =>
              cases look with
              | fresh =>
                  simp only [reviewing] at opened
                  split at opened
                  · simp [Review.window, Look.positions] at opened
                  · simp only [Review.window, Look.positions, Option.some.injEq] at opened
                    rw [opened]
              | _ => exact allowed.elim
          | _ => exact allowed.elim
  · have closes : ((reviewing consumer assumed crashes).advance review effect reply).window = none ∨
        ((reviewing consumer assumed crashes).advance review effect reply).window =
          review.window := window_advance looks
    by_cases registers : ∃ position, effect = .hset position
    · obtain ⟨position, rfl⟩ := registers
      cases review with
      | published approval rest =>
          -- The only window closes with the registration.
          have closed : ∀ other, windowAt (Function.update reviews pid (some
              ((reviewing consumer assumed crashes).advance (.published approval rest)
                (.hset position) reply))) other = none := by
            intro other
            rw [windowAt_update]
            split
            · rfl
            · rename_i elsewhere
              cases opened : windowAt reviews other with
              | none => rfl
              | some positions =>
                  exact absurd (held.alone other pid positions _ opened here) elsewhere
          exact ⟨fun first _ _ _ opened => by simp [closed first] at opened,
            fun other _ opened => by simp [closed other] at opened⟩
      | _ => exact allowed.elim
    · have rows : after.openPositions.rows.Sublist world.openPositions.rows := by
        rcases RiskWorld.answer_eq answered with same | applied
        · rw [same]
        · rw [applied]
          cases effect with
          | hset position => exact absurd ⟨position, rfl⟩ registers
          | hdel key => exact world.openPositions.erase_sublist key
          | _ => exact List.Sublist.refl _
      refine held.frame rows ?_
      rw [Option.bind_some, here]
      exact closes

omit [DecidableEq Pid] in
theorem approval_advance {review : Review} {effect : RiskEffect}
    {reply : Except PyError effect.Reply}
    (allowed : (reviewing consumer assumed crashes).allowed review effect)
    (unpublished : ∀ order correlationId, effect ≠ .xaddApproved order correlationId)
    (unregistered : ∀ position, effect ≠ .hset position) :
    ((reviewing consumer assumed crashes).advance review effect reply).approval? =
      review.approval? := by
  cases effect with
  | xaddApproved order correlationId => exact absurd rfl (unpublished order correlationId)
  | hset position => exact absurd rfl (unregistered position)
  | xreadgroup count =>
      cases review with
      | between =>
          cases reply with
          | error error => rfl
          | ok messages => exact Review.approval_next messages
      | _ => exact allowed.elim
  | xack id =>
      rcases reply with error | value
      · rfl
      · cases review with
        | facing message look rest => exact Review.approval_next rest
        | settled rest => exact Review.approval_next rest
        | _ => rfl
  | hgetall =>
      rcases reply with error | positions
      · rfl
      · cases review with
        | facing message look rest =>
            simp only [reviewing]
            split <;> rfl
        | _ => rfl
  | get key =>
      rcases reply with error | raw
      · rfl
      · cases review <;> rfl
  | xaddRejected entry => cases review <;> rfl
  | _ => rfl

def pendingIds (consumer : RiskConsumer) (review : Review) : List String :=
  consumer.signalIds review.pending

abbrev Dealt (consumer : RiskConsumer) (world : RiskWorld) (reviews : Pid → Option Review)
    (published : List String) : Prop :=
  Custody (consumer.signalIds (world.signals.take world.cursor))
    (Custody.carried (pendingIds consumer) reviews) published

omit [DecidableEq Pid] in
theorem pending_advance {review : Review} {effect : RiskEffect}
    {reply : Except PyError effect.Reply}
    (unread : ∀ count, effect ≠ .xreadgroup count) :
    ((reviewing consumer assumed crashes).advance review effect reply).pending.Sublist
      review.pending := by
  cases effect with
  | xreadgroup count => exact absurd rfl (unread count)
  | xack id =>
      rcases reply with error | value
      · exact List.Sublist.refl _
      · cases review with
        | facing message look rest =>
            change (Review.next rest).pending.Sublist (message :: rest)
            rw [Review.pending_next]
            exact List.sublist_cons_self _ _
        | settled rest =>
            change (Review.next rest).pending.Sublist rest
            rw [Review.pending_next]
        | _ => exact List.Sublist.refl _
  | hgetall =>
      rcases reply with error | positions
      · exact List.Sublist.refl _
      · cases review with
        | facing message look rest =>
            simp only [reviewing]
            split <;> exact List.Sublist.refl _
        | _ => exact List.Sublist.refl _
  | get key =>
      rcases reply with error | raw
      · exact List.Sublist.refl _
      · cases review <;> exact List.Sublist.refl _
  | xaddApproved order correlationId =>
      rcases reply with error | value
      · cases review with
        | facing message look rest => exact List.sublist_cons_self _ _
        | _ => exact List.Sublist.refl _
      · rcases review with _ | _ | ⟨message, look, rest⟩ | _ | _ <;>
          try exact List.Sublist.refl _
        rcases look with _ | _ | _ | ⟨positions, _ | account, _ | constraints⟩ <;>
          try exact List.Sublist.refl _
        simp only [reviewing]
        split <;> exact List.sublist_cons_self _ _
  | xaddRejected entry =>
      cases review with
      | facing message look rest => exact List.sublist_cons_self _ _
      | _ => exact List.Sublist.refl _
  | hset position =>
      cases review with
      | published approval rest => exact List.Sublist.refl _
      | _ => exact List.Sublist.refl _
  | _ => exact List.Sublist.refl _

omit [DecidableEq Pid] in
theorem pending_publish {review : Review} {order : OrderRequest ℚ} {correlationId : String}
    {reply : Except PyError Unit}
    (allowed : (reviewing consumer assumed crashes).allowed review
      (.xaddApproved order correlationId)) :
    pendingIds consumer review = order.idempotencyKey :: pendingIds consumer
      ((reviewing consumer assumed crashes).advance review (.xaddApproved order correlationId)
        reply) := by
  rcases review with _ | _ | ⟨message, look, rest⟩ | _ | _ <;> try exact allowed.elim
  rcases look with _ | _ | _ | ⟨positions, _ | account, _ | constraints⟩ <;>
    try exact allowed.elim
  obtain ⟨signal, result, parsed, _, _, rfl⟩ := allowed
  have hand : pendingIds consumer (.facing message
      (.specified positions (some account) (some constraints)) rest) =
        signal.id :: consumer.signalIds rest := by
    simp [pendingIds, Review.pending, RiskConsumer.signalIds, RiskConsumer.idOf, parsed]
  cases reply with
  | error error => exact hand
  | ok value =>
      simp only [reviewing, parsed]
      exact hand

omit [DecidableEq Pid] in
theorem pendingIds_initial (request : RiskRequest) :
    pendingIds consumer ((reviewing consumer assumed crashes).initial request) = [] := by
  cases request <;> rfl

theorem Dealt.idle {published : List String} {review : Option Review}
    (held : Dealt consumer world reviews published)
    (empty : (review.map (pendingIds consumer)).getD [] = []) :
    Dealt consumer world (Function.update reviews pid review) published := by
  rw [Dealt, Custody.carried_update, empty]
  exact held.put_down (List.Subset.refl _) (List.Sublist.refl _) (List.nil_sublist _)

theorem Dealt.deliver {published : List String} {count : ℕ} {messages : List Message}
    (held : Dealt consumer world reviews published)
    (distinct : (consumer.signalIds world.signals).Nodup)
    (answered : world.answer (.xreadgroup count) (.ok messages) = some after) :
    Dealt consumer after (Function.update reviews pid (some (.next messages))) published := by
  obtain ⟨given, rfl⟩ := RiskWorld.answer_ok answered
  simp only [RiskWorld.replies, decide_eq_true_eq] at given
  have stream : consumer.signalIds ((world.apply (.xreadgroup count)).signals.take
      (world.apply (.xreadgroup count)).cursor) =
        consumer.signalIds (world.signals.take world.cursor) ++ consumer.signalIds messages := by
    have batch : (world.signals.drop world.cursor).take
        ((world.signals.drop world.cursor).take count).length =
          (world.signals.drop world.cursor).take count := by simp
    simp only [RiskWorld.apply, RiskWorld.undelivered, List.take_add, batch, given,
      RiskConsumer.signalIds, List.filterMap_append]
  have nodup : (consumer.signalIds (world.signals.take world.cursor) ++
      consumer.signalIds messages).Nodup := by
    rw [← stream]
    exact distinct.sublist ((List.take_sublist _ _).filterMap _)
  obtain ⟨_, batchNodup, disjoint⟩ := List.nodup_append.mp nodup
  rw [Dealt, stream, Custody.carried_update]
  simpa [pendingIds] using held.deal pid batchNodup fun key inBatch dealt =>
    disjoint key dealt key inBatch rfl

theorem Dealt.step {published later : List String} {review : Review} {effect : RiskEffect}
    {reply : Except PyError effect.Reply} (held : Dealt consumer world reviews published)
    (distinct : (consumer.signalIds world.signals).Nodup) (current : reviews pid = some review)
    (allowed : (reviewing consumer assumed crashes).allowed review effect)
    (grows : later.Sublist published ∨ ∃ order correlationId,
      effect = .xaddApproved order correlationId ∧ later = published ++ [order.idempotencyKey])
    (answered : world.answer effect reply = some after) :
    Dealt consumer after (Function.update reviews pid
      (some ((reviewing consumer assumed crashes).advance review effect reply))) later := by
  have inHand : Custody.carried (pendingIds consumer) reviews pid = pendingIds consumer review :=
    Custody.carried_some current
  by_cases reads : ∃ count, effect = .xreadgroup count
  · obtain ⟨count, rfl⟩ := reads
    have shrinks : later.Sublist published := by
      rcases grows with shrinks | ⟨order, correlationId, same, _⟩
      · exact shrinks
      · simp at same
    cases reply with
    | error error =>
        have later : world.cursor ≤ after.cursor ∧ after.signals = world.signals := by
          rcases RiskWorld.answer_eq answered with same | applied
          · rw [same]
            exact ⟨le_refl _, rfl⟩
          · rw [applied]
            exact ⟨Nat.le_add_right _ _, rfl⟩
        rw [Dealt, Custody.carried_update]
        refine held.put_down ?_ shrinks ?_
        · rw [later.2]
          exact ((List.take_sublist_take_left later.1).filterMap _).subset
        · rw [inHand]
          exact List.Sublist.refl _
    | ok messages =>
        cases review with
        | between =>
            have dealt : Dealt consumer after
                (Function.update reviews pid (some (.next messages))) published :=
              held.deliver distinct answered
            exact dealt.frame (List.Subset.refl _) shrinks fun _ => List.Sublist.refl _
        | _ => exact allowed.elim
  · have unread : ∀ count, effect ≠ .xreadgroup count := fun count same => reads ⟨count, same⟩
    have stream : after.signals = world.signals ∧ after.cursor = world.cursor := by
      rcases RiskWorld.answer_eq answered with same | applied
      · rw [same]
        exact ⟨rfl, rfl⟩
      · rw [applied]
        cases effect with
        | xreadgroup count => exact absurd rfl (unread count)
        | _ => exact ⟨rfl, rfl⟩
    rw [Dealt, stream.1, stream.2, Custody.carried_update]
    rcases grows with shrinks | ⟨order, correlationId, rfl, rfl⟩
    · refine held.put_down (List.Subset.refl _) shrinks ?_
      rw [inHand]
      exact (pending_advance unread).filterMap _
    · exact held.spend (inHand.trans (pending_publish allowed))

end Interleavings

namespace Sample

def signal (id : String) : Signal ℚ where
  id := id
  createdTs := 1735689600000000
  symbol := "Volatility 75 Index"
  ltfTimeframe := "M15"
  direction := .buy
  entry := 100
  sl := 95
  tp1 := 110
  tp2 := 115
  score := 6
  maxScore := 7
  components := {
    zoneTouch := true, htfTrendAligned := true, bbmaConfirm := true, regimeOk := true,
    metaLabelOk := true }

def accountText : String :=
  "\x7b\"balance\": 10000.0, \"equity\": 10000.0, \"margin_free\": 9000.0\x7d"

def specText : String :=
  "\x7b\"volume_min\": 0.01, \"volume_max\": 100.0, \"volume_step\": 0.01, " ++
  "\"tick_size\": 0.01, \"tick_value\": 1.0, \"point\": 0.01, " ++
  "\"stops_level_points\": 50, \"margin_per_lot\": 100.0\x7d"

def account : AccountSnapshot ℚ := ⟨10000, 10000, 9000⟩

def spec : SymbolConstraints ℚ :=
  { volumeMin := 1 / 100, volumeMax := 100, volumeStep := 1 / 100, tickSize := 1 / 100,
    tickValue := 1, point := 1 / 100, stopsLevelPoints := 50, marginPerLot := 100 }

def signalTail : String :=
  "\", \"created_ts\": \"2025-01-01T00:00:00Z\", " ++
  "\"symbol\": \"Volatility 75 Index\", \"ltf_timeframe\": \"M15\", " ++
  "\"direction\": \"BUY\", \"entry\": 100.0, \"sl\": 95.0, \"tp1\": 110.0, " ++
  "\"tp2\": 115.0, \"score\": 6, \"max_score\": 7, \"components\": " ++
  "\x7b\"htf_trend_aligned\": true, \"zone_touch\": true, \"bbma_confirm\": true, " ++
  "\"rsi_divergence\": false, \"regime_ok\": true, \"meta_label_ok\": true\x7d, " ++
  "\"p_win\": null, \"status\": \"proposed\"\x7d"

def signalText (id : String) : String := "\x7b\"id\": \"" ++ id ++ signalTail

theorem signalText_injective {id other : String} (same : signalText id = signalText other) :
    id = other :=
  (String.append_right_inj _).mp ((String.append_left_inj _).mp same)

def signalJson (id : String) : Json :=
  .dict [("id", .str id), ("created_ts", .str "2025-01-01T00:00:00Z"),
    ("symbol", .str "Volatility 75 Index"), ("ltf_timeframe", .str "M15"),
    ("direction", .str "BUY"), ("entry", .float (.finite 100)), ("sl", .float (.finite 95)),
    ("tp1", .float (.finite 110)), ("tp2", .float (.finite 115)), ("score", .int 6),
    ("max_score", .int 7), ("components", .dict [("htf_trend_aligned", .bool true),
      ("zone_touch", .bool true), ("bbma_confirm", .bool true), ("rsi_divergence", .bool false),
      ("regime_ok", .bool true), ("meta_label_ok", .bool true)]),
    ("p_win", .null), ("status", .str "proposed")]

def decoders : Decoders where
  loads := fun raw =>
    if raw = accountText then .ok (.dict [("balance", .float (.finite 10000)),
      ("equity", .float (.finite 10000)), ("margin_free", .float (.finite 9000))])
    else if raw = specText then .ok (.dict [("volume_min", .float (.finite (1 / 100))),
      ("volume_max", .float (.finite 100)), ("volume_step", .float (.finite (1 / 100))),
      ("tick_size", .float (.finite (1 / 100))), ("tick_value", .float (.finite 1)),
      ("point", .float (.finite (1 / 100))), ("stops_level_points", .int 50),
      ("margin_per_lot", .float (.finite 100))])
    else if raw = signalText "a" then .ok (signalJson "a")
    else if raw = signalText "b" then .ok (signalJson "b")
    else .error (.jsonDecodeError "Expecting value")
  intOf := fun _ => none
  validate := fun data => match data.item? "id" with
    | some (.str id) => some (signal id)
    | _ => none
  floatOf := fun data => match data with
    | .float (.finite value) => some value
    | .int value => some value
    | _ => none
  intOfJson := fun data => match data with
    | .int value => some value
    | _ => none

def consumer (maxOpenPositions : ℤ) : RiskConsumer where
  settings := { riskPctPerTrade := 2, maxOpenPositions := maxOpenPositions }
  codec := decoders
  sizingRounds := 100

def message (messageId id : String) : Message :=
  ⟨messageId, [("signal", signalText id), ("correlation_id", "c-1")]⟩

def position (id : String) : OpenPosition ℚ where
  idempotencyKey := id
  signalId := id
  symbol := "Volatility 75 Index"
  direction := .buy
  lots := 2 / 5
  entry := 100
  sl := 95
  riskAmount := 200

def approving {Pid : Type} (pid : Pid) (id : String) (seen : List (OpenPosition ℚ)) :
    List (RiskLabel Pid) :=
  [.answer pid (.get accountKey) (.ok (some accountText)),
   .answer pid .hgetall (.ok seen),
   .answer pid (.get accountKey) (.ok (some accountText)),
   .answer pid (.get (symbolKey "Volatility 75 Index")) (.ok (some specText)),
   .answer pid (.xaddApproved (orderOf (signal id) (2 / 5)) "c-1") (.ok ())]

def delivering {Pid : Type} (pid : Pid) (messageId id : String) : List (RiskLabel Pid) :=
  [.environment (.publish (message messageId id)),
   .start pid .drain,
   .answer pid (.xreadgroup 16) (.ok [message messageId id])]

end Sample

end Risk

end Vix75
