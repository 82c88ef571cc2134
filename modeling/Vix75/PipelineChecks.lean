import Vix75.PipelineSystem
import Vix75.RiskChecks
import Vix75.SignalChecks

/-! One trade intent for each feature row: what the pipeline publishes in any run of any
number of replicas, and the condition under which no row is traded twice. -/

namespace Vix75

open EffectProgram

namespace Pipeline

inductive Hand where
  | feature
  | signal (held : Option (Signal ℚ))
  | risk (review : Risk.Review)

namespace Hand

def fired : Hand → List String
  | .signal (some held) => [held.id]
  | _ => []

def review? : Hand → Option Risk.Review
  | .risk review => some review
  | _ => none

end Hand

abbrev reviewing (services : Services) :
    Discipline RiskEffect RiskEffect.Reply PyError Risk.RiskRequest Risk.Review :=
  Risk.reviewing services.risk (fun _ _ _ => True) (fun _ => True)

def handing (services : Services) :
    Discipline PipelineEffect PipelineEffect.Reply PyError PipelineRequest Hand where
  initial := fun request => match request with
    | .ensureFeatureGroup => .feature
    | .pollBars => .feature
    | .ensureSignalGroup => .signal none
    | .drainRows => .signal none
    | .risk request => .risk ((reviewing services).initial request)
  allowed := fun hand effect => match hand, effect with
    | .feature, .feature _ => True
    | .signal held, .signal effect => Signalling.holding.allowed held effect
    | .risk review, .risk effect => (reviewing services).allowed review effect
    | _, _ => False
  advance := fun hand effect reply => match hand, effect, reply with
    | .signal held, .signal effect, reply => .signal (Signalling.holding.advance held effect reply)
    | .risk review, .risk effect, reply => .risk ((reviewing services).advance review effect reply)
    | hand, _, _ => hand

section Intents

variable {services : Services}

theorem feature_follows (program : Feature.Program ℚ Unit) :
    (handing services).wp .feature (Services.liftFeature program) (fun _ _ => True)
      (fun _ _ => True) := by
  have used : (Services.liftFeature program).Uses fun effect => ∃ inner, effect = .feature inner :=
    Prog.uses_lift (fun effect => ⟨effect, rfl⟩) program
  refine Discipline.wp_mono (Discipline.wp_of_uses used ?_) (fun _ _ _ => trivial)
    (fun _ _ _ => trivial)
  rintro effect ⟨inner, rfl⟩
  exact ⟨trivial, fun _ _ => rfl⟩

theorem signal_follows {program : Signalling.Program ℚ Unit}
    {returned : Option (Signal ℚ) → Unit → Prop} {raised : Option (Signal ℚ) → PyError → Prop}
    (holds : Signalling.holding.wp none program returned raised) :
    (handing services).wp (.signal none) (Services.liftSignal program) (fun _ _ => True)
      (fun _ _ => True) :=
  Discipline.wp_mono (Discipline.wp_lift (handing services) Hand.signal
    (fun _ _ allowed => allowed) (fun _ _ _ _ => trivial) (fun _ _ _ => rfl) holds)
    (fun _ _ _ => trivial) (fun _ _ _ => trivial)

theorem risk_follows (request : Risk.RiskRequest) :
    (handing services).wp (.risk ((reviewing services).initial request))
      (Services.liftRisk (services.risk.entry request)) (fun _ _ => True) (fun _ _ => True) :=
  Discipline.wp_mono (Discipline.wp_lift (handing services) Hand.risk
    (fun _ _ allowed => allowed) (fun _ _ _ _ => trivial) (fun _ _ _ => rfl)
    (Risk.entry_reviews request)) (fun _ _ _ => trivial) (fun _ _ _ => trivial)

theorem entry_follows (request : PipelineRequest) :
    (handing services).wp ((handing services).initial request) (services.entry request)
      (fun _ _ => True) (fun _ _ => True) := by
  cases request with
  | ensureFeatureGroup => exact feature_follows _
  | pollBars => exact feature_follows _
  | ensureSignalGroup =>
      exact signal_follows (Signalling.wp_reading none Signalling.ensureGroup_reading)
  | drainRows => exact signal_follows (Signalling.drain_holds services.signal)
  | risk request => exact risk_follows request

section Answers

variable {world after : PipelineWorld}

def PipelineWorld.SameIntents (world after : PipelineWorld) : Prop :=
  after.minted = world.minted ∧ after.risk = world.risk ∧ after.orders = world.orders

theorem answer_feature {effect : FeatureEffect ℚ} {reply : Except PyError effect.Reply}
    (answered : world.answer services (.feature effect) reply = some after) :
    world.SameIntents after := by
  have applied : world.SameIntents (world.applyFeature effect) := by
    cases effect <;> exact ⟨rfl, rfl, rfl⟩
  cases reply with
  | ok value =>
      simp only [PipelineWorld.answer] at answered
      split at answered
      · rw [← Option.some.inj answered]
        exact applied
      · simp at answered
  | error error =>
      simp only [PipelineWorld.answer, Option.some.injEq] at answered
      rw [← answered]
      split
      · exact applied
      · exact ⟨rfl, rfl, rfl⟩

theorem answer_evaluate {ltf : LtfSnapshot ℚ} {market : MarketContext ℚ}
    {evaluation : EvaluationResult ℚ}
    (answered : world.answer services (.signal (.evaluate ltf market)) (.ok evaluation) =
      some after) :
    world.evaluates services ltf market evaluation = true ∧ after = world.mint ltf evaluation := by
  simp only [PipelineWorld.answer] at answered
  split at answered
  · rename_i valid
    exact ⟨valid, (Option.some.inj answered).symm⟩
  · simp at answered

theorem answer_signal {effect : SignalEffect ℚ} {reply : Except PyError effect.Reply}
    (answered : world.answer services (.signal effect) reply = some after)
    (unfired : ∀ ltf market, effect = .evaluate ltf market → ∃ error, reply = .error error) :
    world.SameIntents after ∨ ∃ signal correlationId, effect = .xaddGenerated signal correlationId ∧
      after = world.applySignal services effect := by
  have either : after = world ∨ after = world.applySignal services effect := by
    cases reply with
    | ok value =>
        right
        cases effect with
        | evaluate ltf market =>
            obtain ⟨error, raised⟩ := unfired ltf market rfl
            simp at raised
        | _ =>
            simp only [PipelineWorld.answer] at answered
            split at answered
            · exact (Option.some.inj answered).symm
            · simp at answered
    | error error =>
        simp only [PipelineWorld.answer, Option.some.injEq] at answered
        rw [← answered]
        split
        · exact .inr rfl
        · exact .inl rfl
  rcases either with same | applied
  · exact .inl (by rw [same]; exact ⟨rfl, rfl, rfl⟩)
  · cases effect with
    | xaddGenerated signal correlationId => exact .inr ⟨signal, correlationId, rfl, applied⟩
    | _ => exact .inl (by rw [applied]; exact ⟨rfl, rfl, rfl⟩)

theorem answer_risk {effect : RiskEffect} {reply : Except PyError effect.Reply}
    (answered : world.answer services (.risk effect) reply = some after) :
    world.risk.answer effect reply = some after.risk ∧ after.minted = world.minted ∧
      after.risk.signals = world.risk.signals ∧
      (after.orders.Sublist world.orders ∨ ∃ order correlationId,
        effect = .xaddApproved order correlationId ∧ after.orders = world.orders ++ [order]) := by
  have signals : (world.risk.apply effect).signals = world.risk.signals := by
    cases effect <;> rfl
  have applied : (world.applyRisk effect).orders.Sublist world.orders ∨ ∃ order correlationId,
      effect = .xaddApproved order correlationId ∧
        (world.applyRisk effect).orders = world.orders ++ [order] := by
    cases effect with
    | xaddApproved order correlationId => exact .inr ⟨order, correlationId, rfl, rfl⟩
    | _ => exact .inl (List.Sublist.refl _)
  cases reply with
  | ok value =>
      cases effect with
      | hang => exact value.elim
      | _ =>
          simp only [PipelineWorld.answer] at answered
          split at answered
          · rename_i given
            obtain rfl := Option.some.inj answered
            refine ⟨?_, rfl, signals, applied⟩
            simp only [Risk.RiskWorld.answer]
            exact if_pos given
          · simp at answered
  | error error =>
      cases effect with
      | hang => simp [PipelineWorld.answer] at answered
      | _ =>
          simp only [PipelineWorld.answer, Option.some.injEq] at answered
          rw [← answered]
          split
          · rename_i took
            refine ⟨?_, rfl, signals, applied⟩
            simp [Risk.RiskWorld.answer, took, PipelineWorld.apply, PipelineWorld.applyRisk]
          · rename_i lost
            refine ⟨?_, rfl, rfl, .inl (List.Sublist.refl _)⟩
            simp [Risk.RiskWorld.answer, lost]

end Answers

/-! Every intent is in one hand -/

def Services.KeepsIds (services : Services) : Prop :=
  ∀ signal correlationId parsed,
    services.risk.parseSignal (services.signalFields signal correlationId) = .ok (some parsed) →
      parsed.id = signal.id

section Runs

variable {Pid : Type} {hands : Pid → Option Hand} {pid : Pid} {world after : PipelineWorld}

def reviewsOf (hands : Pid → Option Hand) (pid : Pid) : Option Risk.Review :=
  (hands pid).bind Hand.review?

/-- A fired signal is in one hand or on its stream, and a signal on the stream is in one
hand or ordered. -/
structure Kept (services : Services) (world : PipelineWorld) (hands : Pid → Option Hand) :
    Prop where
  distinct : (world.minted.map Prod.fst).Nodup
  fired : Custody (world.minted.map Prod.fst) (Custody.carried Hand.fired hands)
    (services.risk.signalIds world.risk.signals)
  dealt : Risk.Dealt services.risk world.risk (reviewsOf hands)
    (world.orders.map OrderRequest.idempotencyKey)

variable [DecidableEq Pid]

theorem reviewsOf_update (hands : Pid → Option Hand) (pid : Pid) (hand : Option Hand) :
    reviewsOf (Function.update hands pid hand) =
      Function.update (reviewsOf hands) pid (hand.bind Hand.review?) := by
  funext other
  by_cases same : other = pid
  · subst same
    simp [reviewsOf]
  · simp [reviewsOf, same]

theorem Kept.idle {hand : Option Hand} (held : Kept services world hands)
    (unfired : (hand.map Hand.fired).getD [] = [])
    (unread : ((hand.bind Hand.review?).map (Risk.pendingIds services.risk)).getD [] = []) :
    Kept services world (Function.update hands pid hand) where
  distinct := held.distinct
  fired := by
    rw [Custody.carried_update, unfired]
    exact held.fired.put_down (List.Subset.refl _) (List.Sublist.refl _) (List.nil_sublist _)
  dealt := by
    rw [reviewsOf_update]
    exact held.dealt.idle unread

omit [DecidableEq Pid] in
theorem Kept.congr (held : Kept services world hands) (same : world.SameIntents after) :
    Kept services after hands := by
  obtain ⟨minted, risk, orders⟩ := same
  refine ⟨?_, ?_, ?_⟩
  · rw [minted]
    exact held.distinct
  · rw [minted, risk]
    exact held.fired
  · rw [risk, orders]
    exact held.dealt

theorem Kept.dealt_signal (held : Kept services world hands) (pid : Pid)
    (next : Option (Signal ℚ)) :
    Risk.Dealt services.risk world.risk
      (reviewsOf (Function.update hands pid (some (.signal next))))
      (world.orders.map OrderRequest.idempotencyKey) := by
  rw [reviewsOf_update]
  exact held.dealt.idle rfl

theorem Kept.fire {ltf : LtfSnapshot ℚ} {market : MarketContext ℚ}
    {evaluation : EvaluationResult ℚ} (held : Kept services world hands)
    (current : hands pid = some (.signal none))
    (valid : world.evaluates services ltf market evaluation = true) :
    Kept services (world.mint ltf evaluation)
      (Function.update hands pid (some (.signal evaluation.signal))) := by
  cases fired : evaluation.signal with
  | none =>
      have same : world.mint ltf evaluation = world := by
        simp [PipelineWorld.mint, fired]
      rw [same, ← current, Function.update_eq_self]
      exact held
  | some signal =>
      simp only [PipelineWorld.evaluates, fired, decide_eq_true_eq] at valid
      have ids : (world.mint ltf evaluation).minted.map Prod.fst =
          world.minted.map Prod.fst ++ [signal.id] := by
        simp [PipelineWorld.mint, fired]
      refine ⟨?_, ?_, held.dealt_signal _ _⟩
      · rw [ids, ← List.concat_eq_append, List.nodup_concat]
        exact ⟨valid.1, held.distinct⟩
      · rw [ids, Custody.carried_update]
        refine held.fired.deal _ (List.nodup_singleton _) ?_
        simpa using valid.1

theorem signalIds_append (signals : List Message) (id : String) (signal : Signal ℚ)
    (correlationId : String) (keeps : services.KeepsIds) :
    services.risk.signalIds (signals ++ [⟨id, services.signalFields signal correlationId⟩]) =
        services.risk.signalIds signals ∨
      services.risk.signalIds (signals ++ [⟨id, services.signalFields signal correlationId⟩]) =
        services.risk.signalIds signals ++ [signal.id] := by
  cases parsed : services.risk.parseSignal (services.signalFields signal correlationId) with
  | error error =>
      exact .inl (by simp [Risk.RiskConsumer.signalIds, Risk.RiskConsumer.idOf, parsed])
  | ok found =>
      cases found with
      | none => exact .inl (by simp [Risk.RiskConsumer.signalIds, Risk.RiskConsumer.idOf, parsed])
      | some read =>
          right
          simp [Risk.RiskConsumer.signalIds, Risk.RiskConsumer.idOf, parsed,
            keeps signal correlationId read parsed]

theorem Kept.publish {signal : Signal ℚ} {correlationId : String} (keeps : services.KeepsIds)
    (held : Kept services world hands) (current : hands pid = some (.signal (some signal))) :
    Kept services (world.applySignal services (.xaddGenerated signal correlationId))
      (Function.update hands pid (some (.signal none))) := by
  have inHand : Custody.carried Hand.fired hands pid = [signal.id] := Custody.carried_some current
  refine ⟨held.distinct, ?_, ?_⟩
  · rw [Custody.carried_update]
    rcases signalIds_append world.risk.signals (entryId world.risk.signals.length) signal
        correlationId keeps with dropped | read
    · have same : services.risk.signalIds (world.applySignal services
          (.xaddGenerated signal correlationId)).risk.signals =
            services.risk.signalIds world.risk.signals := dropped
      rw [same]
      exact held.fired.put_down (List.Subset.refl _) (List.Sublist.refl _) (List.nil_sublist _)
    · have more : services.risk.signalIds (world.applySignal services
          (.xaddGenerated signal correlationId)).risk.signals =
            services.risk.signalIds world.risk.signals ++ [signal.id] := read
      rw [more]
      exact held.fired.spend inHand
  · refine (held.dealt_signal pid none).frame ?_ (List.Sublist.refl _)
      fun _ => List.Sublist.refl _
    simp only [PipelineWorld.applySignal]
    rw [List.take_append]
    exact ((List.sublist_append_left _ _).filterMap _).subset

theorem Kept.step {hand : Hand} {effect : PipelineEffect} {reply : Except PyError effect.Reply}
    (keeps : services.KeepsIds) (held : Kept services world hands)
    (current : hands pid = some hand) (allowed : (handing services).allowed hand effect)
    (answered : world.answer services effect reply = some after) :
    Kept services after (Function.update hands pid
      (some ((handing services).advance hand effect reply))) := by
  cases effect with
  | feature effect =>
      cases hand with
      | feature =>
          change Kept services after (Function.update hands pid (some .feature))
          rw [← current, Function.update_eq_self]
          exact held.congr (answer_feature answered)
      | _ => exact allowed.elim
  | signal effect =>
      cases hand with
      | signal inHand =>
          by_cases fires : ∃ ltf market, effect = .evaluate ltf market ∧ ∃ value, reply = .ok value
          · obtain ⟨ltf, market, rfl, evaluation, rfl⟩ := fires
            obtain ⟨valid, rfl⟩ := answer_evaluate answered
            have empty : inHand = none := allowed
            subst empty
            exact held.fire current valid
          · have unfired : ∀ ltf market, effect = .evaluate ltf market →
                ∃ error, reply = .error error := by
              intro ltf market same
              cases reply with
              | error error => exact ⟨error, rfl⟩
              | ok value => exact absurd ⟨ltf, market, same, value, rfl⟩ fires
            rcases answer_signal answered unfired with same | ⟨signal, correlationId, rfl, rfl⟩
            · by_cases published : ∃ signal correlationId,
                  effect = .xaddGenerated signal correlationId
              · obtain ⟨signal, correlationId, rfl⟩ := published
                exact (held.congr same).idle rfl rfl
              · have still : (handing services).advance (.signal inHand) (.signal effect) reply =
                    .signal inHand := by
                  cases effect with
                  | xaddGenerated signal correlationId => exact absurd ⟨_, _, rfl⟩ published
                  | evaluate ltf market =>
                      obtain ⟨error, rfl⟩ := unfired ltf market rfl
                      rfl
                  | _ => rfl
                rw [still, ← current, Function.update_eq_self]
                exact held.congr same
            · have holds : inHand = some signal := allowed
              subst holds
              exact held.publish keeps current
      | _ => exact allowed.elim
  | risk effect =>
      cases hand with
      | risk review =>
          obtain ⟨responded, minted, signals, grows⟩ := answer_risk answered
          refine ⟨?_, ?_, ?_⟩
          · rw [minted]
            exact held.distinct
          · rw [minted, signals, Custody.carried_update]
            exact held.fired.put_down (List.Subset.refl _) (List.Sublist.refl _)
              (List.nil_sublist _)
          · rw [reviewsOf_update]
            refine held.dealt.step held.fired.once (by simp [reviewsOf, current, Hand.review?])
              allowed ?_ responded
            rcases grows with shrinks | ⟨order, correlationId, same, more⟩
            · exact .inl (shrinks.map _)
            · exact .inr ⟨order, correlationId, same, by simp [more]⟩
      | _ => exact allowed.elim

theorem handing_maintains (keeps : services.KeepsIds) :
    (handing services).Maintains services.system (fun world (hands : Pid → Option Hand) =>
      Kept services world hands) where
  follows := entry_follows
  start world hands pid request held _ _ := by
    refine held.idle ?_ ?_
    · cases request <;> rfl
    · cases request with
      | risk request => exact Risk.pendingIds_initial request
      | _ => rfl
  answer world hands pid hand effect reply after held current allowed _ _ answered :=
    held.step keeps current allowed answered
  finish world hands pid hand held _ _ := held.idle rfl rfl
  fail world hands pid hand error held _ _ := held.idle rfl rfl
  crash world hands pid hand held _ _ := held.idle rfl rfl
  environment world hands event after held happened := by
    refine held.congr ?_
    cases event <;> obtain rfl := Option.some.inj happened <;> exact ⟨rfl, rfl, rfl⟩

theorem orders_once (keeps : services.KeepsIds) {trace : List (PipelineLabel Pid)}
    {final : PipelineConfig Pid} (ran : services.system.run (PipelineConfig.idle {}) trace =
      some final) :
    (final.world.orders.map OrderRequest.idempotencyKey).Nodup ∧
      (final.world.minted.map Prod.fst).Nodup ∧
      ∀ order ∈ final.world.orders, order.idempotencyKey ∈ final.world.minted.map Prod.fst := by
  have initial : Kept services {} (fun _ : Pid => none) :=
    ⟨List.nodup_nil, Custody.empty, Custody.empty⟩
  have assumed : (handing services).Assumes (fun _ => none) trace :=
    Discipline.assumes_of_forall (fun _ _ _ _ _ => trivial) fun _ _ _ => trivial
  obtain ⟨_, kept⟩ := (handing_maintains keeps).run (Discipline.matches_initial _) initial
    assumed ran
  refine ⟨kept.dealt.once, kept.distinct, fun order member => ?_⟩
  refine kept.fired.known _ ?_
  have taken := kept.dealt.known _ (List.mem_map_of_mem member)
  exact ((List.take_sublist _ _).filterMap _).subset taken

def PipelineWorld.ordersFor (world : PipelineWorld) (row : RowKey) : List (OrderRequest ℚ) :=
  world.orders.filter fun order => (order.idempotencyKey, row) ∈ world.minted

def firedRow (services : Services) : PipelineLabel Pid → Option RowKey
  | .answer _ (.signal (.evaluate ltf market)) (.ok _) =>
      if services.fires ltf market then some ltf.rowKey else none
  | _ => none

def firedRows (services : Services) (trace : List (PipelineLabel Pid)) : List RowKey :=
  trace.filterMap (firedRow services)

theorem fires_eq {ltf : LtfSnapshot ℚ} {market : MarketContext ℚ} (id : String) :
    (services.signal.engine.evaluate id ltf market).signal.isSome =
      services.fires ltf market := by
  simp only [Services.fires, SignalEngine.evaluate]
  repeat' split
  all_goals rfl

theorem minted_step {config next : PipelineConfig Pid} {label : PipelineLabel Pid}
    (stepped : services.system.step config label = some next) :
    next.world.minted.map Prod.snd =
      config.world.minted.map Prod.snd ++ (firedRow services label).toList := by
  have moved := System.changes_of_step _ stepped
  have unfired : config.world.SameIntents next.world ∨ next.world.minted = config.world.minted →
      firedRow services label = none → next.world.minted.map Prod.snd =
        config.world.minted.map Prod.snd ++ (firedRow services label).toList := by
    rintro (same | same) nothing
    · simp [same.1, nothing]
    · simp [same, nothing]
  cases label with
  | answer pid effect reply =>
      cases effect with
      | feature effect => exact unfired (.inl (answer_feature moved)) rfl
      | risk effect => exact unfired (.inr (answer_risk moved).2.1) rfl
      | signal effect =>
          by_cases fires : ∃ ltf market, effect = .evaluate ltf market ∧ ∃ value, reply = .ok value
          · obtain ⟨ltf, market, rfl, evaluation, rfl⟩ := fires
            obtain ⟨valid, minted⟩ := answer_evaluate moved
            have same : services.fires ltf market = evaluation.signal.isSome := by
              unfold PipelineWorld.evaluates at valid
              cases fired : evaluation.signal with
              | none =>
                  simp only [fired, decide_eq_true_eq] at valid
                  rw [Services.fires, ← valid, fired]
              | some signal =>
                  simp only [fired, decide_eq_true_eq] at valid
                  rw [← fires_eq signal.id, ← valid.2, fired]
            simp only [firedRow, minted, same, PipelineWorld.mint]
            cases evaluation.signal <;> simp
          · have unanswered : ∀ ltf market, effect = .evaluate ltf market →
                ∃ error, reply = .error error := by
              intro ltf market same
              cases reply with
              | error error => exact ⟨error, rfl⟩
              | ok value => exact absurd ⟨ltf, market, same, value, rfl⟩ fires
            have nothing : firedRow services
                (.answer pid (.signal effect) reply : PipelineLabel Pid) = none := by
              cases effect with
              | evaluate ltf market =>
                  obtain ⟨error, rfl⟩ := unanswered ltf market rfl
                  rfl
              | _ => rfl
            rcases answer_signal moved unanswered with same | ⟨signal, correlationId, rfl, after⟩
            · exact unfired (.inl same) nothing
            · exact unfired (.inr (by rw [after]; rfl)) nothing
  | environment event =>
      refine unfired (.inr ?_) rfl
      cases event <;> rw [← Option.some.inj moved]
  | _ => exact unfired (.inr (congrArg PipelineWorld.minted moved)) rfl

theorem minted_run {config final : PipelineConfig Pid} {trace : List (PipelineLabel Pid)}
    (ran : services.system.run config trace = some final) :
    final.world.minted.map Prod.snd =
      config.world.minted.map Prod.snd ++ firedRows services trace := by
  induction trace generalizing config with
  | nil =>
      simp only [System.run, Option.some.injEq] at ran
      simp [ran, firedRows]
  | cons label rest ih =>
      obtain ⟨next, stepped, ran⟩ := Option.bind_eq_some_iff.mp ran
      rw [ih ran, minted_step stepped, List.append_assoc]
      cases here : firedRow services label <;> simp [firedRows, here]

theorem length_le_one {α β : Type} (key : α → β) {items : List α} (distinct : (items.map key).Nodup)
    (same : ∀ first ∈ items, ∀ second ∈ items, key first = key second) : items.length ≤ 1 := by
  match items with
  | [] => simp
  | [_] => simp
  | first :: second :: rest =>
      have equal := same first (by simp) second (by simp)
      simp [equal] at distinct

/-- In every run in which signal-service fires at most once on each feature row, every order
is for a row on which a signal fired, and no row has two. -/
theorem order_per_row (keeps : services.KeepsIds) {trace : List (PipelineLabel Pid)}
    {final : PipelineConfig Pid} (once : (firedRows services trace).Nodup)
    (ran : services.system.run (PipelineConfig.idle {}) trace = some final) :
    (∀ order ∈ final.world.orders, ∃ row, order ∈ final.world.ordersFor row) ∧
      ∀ row, (final.world.ordersFor row).length ≤ 1 := by
  obtain ⟨distinct, _, known⟩ := orders_once keeps ran
  have rows : (final.world.minted.map Prod.snd).Nodup := by
    rw [minted_run ran]
    simpa [PipelineConfig.idle] using once
  refine ⟨fun order member => ?_, fun row => ?_⟩
  · obtain ⟨⟨key, row⟩, minted, same⟩ := List.mem_map.mp (known order member)
    refine ⟨row, List.mem_filter.mpr ⟨member, ?_⟩⟩
    rw [← same]
    simpa using minted
  · refine length_le_one OrderRequest.idempotencyKey
      (distinct.sublist (List.filter_sublist.map _)) fun first inFirst second inSecond => ?_
    have firedFirst : (first.idempotencyKey, row) ∈ final.world.minted := by
      simpa using (List.mem_filter.mp inFirst).2
    have firedSecond : (second.idempotencyKey, row) ∈ final.world.minted := by
      simpa using (List.mem_filter.mp inSecond).2
    exact congrArg Prod.fst (List.inj_on_of_nodup_map rows firedFirst firedSecond rfl)

end Runs

end Intents

namespace Sample

def idA : String := "0123456789abcdef0123456789abcdef"

def idB : String := "fedcba9876543210fedcba9876543210"

def decoders : Risk.Decoders :=
  { Risk.Sample.decoders with
    loads := fun raw =>
      if raw = Risk.Sample.signalText idA then .ok (Risk.Sample.signalJson idA)
      else if raw = Risk.Sample.signalText idB then .ok (Risk.Sample.signalJson idB)
      else Risk.Sample.decoders.loads raw }

def regimeText : String := "\x7b\"regime\": \"S1_trend_up\", \"state\": 1\x7d"

def metaText : String := "\x7b\"p_up\": 0.8, \"p_down\": 0.05\x7d"

def signalDecoders : SignalDecoders ℚ where
  loads := fun raw =>
    if raw = regimeText then .ok (.dict [("regime", .str "S1_trend_up"), ("state", .int 1)])
    else if raw = metaText then .ok (.dict [("p_up", .float (.finite (8 / 10))),
      ("p_down", .float (.finite (5 / 100)))])
    else .error (.jsonDecodeError "Expecting value")
  floatOf := fun data => match data with
    | .float (.finite value) => .ok value
    | _ => .error (.typeError "float() argument")

def services : Services where
  feature := { numerics := Vix75.Sample.approximate }
  signal := Signalling.consumerOf {} signalDecoders
  risk := { Risk.Sample.consumer 3 with codec := decoders }
  dumps := fun signal => Risk.Sample.signalText signal.id

def symbol : String := "Volatility 75 Index"

def row (timeframe : String) (ema50 ema200 : ℚ) (zones : List (Zone ℚ)) : Snapshot ℚ where
  symbol := symbol
  timeframe := timeframe
  ts := 1735689600000000
  close := 100
  atr := some 1
  atrNorm := some (1 / 100)
  rsi := some 55
  ema50 := some ema50
  ema200 := some ema200
  bbUpper := some 102
  bbMid := some 100
  bbLower := some 98
  stochK := some 50
  stochD := some 50
  logReturn := some 0
  realizedVol := some 0
  swingHigh := none
  swingLow := none
  zones := zones

def demandZone : Zone ℚ where
  id := "0123456789ab"
  kind := .demand
  top := 201 / 2
  bottom := 191 / 2
  createdTs := 1735680000000000

def trendRow : Snapshot ℚ := row "H4" 103 96 []

def entryRow : Snapshot ℚ := row "M15" (199 / 2) 98 [demandZone]

def ltf : LtfSnapshot ℚ where
  symbol := symbol
  timeframe := "M15"
  ts := 1735689600000000
  close := 100
  atr := 1
  rsi := 55
  ema50 := 199 / 2
  ema200 := 98
  zones := [demandZone]

def market : MarketContext ℚ where
  htfTrend := "up"
  regime := "S1_trend_up"
  pWin := some (16 / 17)

def announcement (id : String) : Message := ⟨id, computedFields symbol "M15" "c-1"⟩

def published (position : ℕ) (id : String) : Message :=
  ⟨entryId position, services.signalFields (Risk.Sample.signal id) "c-1"⟩

def storing : List (PipelineLabel Bool) :=
  [.environment (.storeRow trendRow), .environment (.storeRow entryRow)]

def firing (messageId id dashed : String) : List (PipelineLabel Bool) :=
  [.answer true (.signal (.get Signalling.regimeKey)) (.ok (some regimeText)),
   .answer true (.signal (.get Signalling.metaKey)) (.ok (some metaText)),
   .answer true (.signal (.fetchFeatureRow symbol "H4")) (.ok (some trendRow)),
   .answer true (.signal (.fetchFeatureRow symbol "D1")) (.ok none),
   .answer true (.signal (.fetchFeatureRow symbol "M15")) (.ok (some entryRow)),
   .answer true (.signal (.evaluate ltf market))
     (.ok ⟨some (Risk.Sample.signal id), 6, 7, []⟩),
   .answer true (.signal (.insertSignal dashed (Risk.Sample.signal id))) (.ok true),
   .answer true (.signal (.xaddGenerated (Risk.Sample.signal id) "c-1")) (.ok ()),
   .answer true (.signal (.xack messageId)) (.ok ())]

def approving (position : ℕ) (id : String) (seen : List (OpenPosition ℚ)) :
    List (PipelineLabel Bool) :=
  [.answer false (.risk (.get Risk.accountKey)) (.ok (some Risk.Sample.accountText)),
   .answer false (.risk .hgetall) (.ok seen),
   .answer false (.risk (.get Risk.accountKey)) (.ok (some Risk.Sample.accountText)),
   .answer false (.risk (.get (Risk.symbolKey symbol))) (.ok (some Risk.Sample.specText)),
   .answer false (.risk (.xaddApproved (Risk.orderOf (Risk.Sample.signal id) (2 / 5))
     "c-1")) (.ok ()),
   .answer false (.risk (.hset (Risk.Sample.position id))) (.ok ()),
   .answer false (.risk (.xack (entryId position))) (.ok ())]

def dashedA : String := "01234567-89ab-cdef-0123-456789abcdef"

def dashedB : String := "fedcba98-7654-3210-fedc-ba9876543210"

def announcedOnce : List (PipelineLabel Bool) :=
  storing ++ [.environment (.announceRow (announcement "1-0")), .start true .drainRows,
    .answer true (.signal (.xreadgroup 16)) (.ok [announcement "1-0"])] ++
  firing "1-0" idA dashedA ++
  [.start false (.risk .drain),
    .answer false (.risk (.xreadgroup 16)) (.ok [published 0 idA])] ++ approving 0 idA []

def announcedTwice : List (PipelineLabel Bool) :=
  storing ++ [.environment (.announceRow (announcement "1-0")),
    .environment (.announceRow (announcement "1-1")), .start true .drainRows,
    .answer true (.signal (.xreadgroup 16)) (.ok [announcement "1-0", announcement "1-1"])] ++
  firing "1-0" idA dashedA ++ firing "1-1" idB dashedB ++
  [.start false (.risk .drain),
    .answer false (.risk (.xreadgroup 16)) (.ok [published 0 idA, published 1 idB])] ++
  approving 0 idA [] ++ approving 1 idB [Risk.Sample.position idA]

def keysOf (final : PipelineConfig Bool) : List String :=
  (final.world.ordersFor entryRow.rowKey).map OrderRequest.idempotencyKey

theorem validate_signalJson {id : String} {parsed : Signal ℚ}
    (read : decoders.validate (Risk.Sample.signalJson id) = some parsed) : parsed.id = id := by
  have given : decoders.validate (Risk.Sample.signalJson id) = some (Risk.Sample.signal id) := by
    simp [decoders, Risk.Sample.decoders, Risk.Sample.signalJson, Json.item?]
  rw [given, Option.some.injEq] at read
  rw [← read]
  rfl

theorem validate_loads {id : String} {data : Json} {parsed : Signal ℚ}
    (loaded : decoders.loads (Risk.Sample.signalText id) = .ok data)
    (read : decoders.validate data = some parsed) : parsed.id = id := by
  have named : ∀ {other}, Risk.Sample.signalText id = Risk.Sample.signalText other →
      (.ok (Risk.Sample.signalJson other) : Except PyError Json) = .ok data → parsed.id = id := by
    rintro other same ⟨⟩
    rw [validate_signalJson read, Risk.Sample.signalText_injective same]
  simp only [decoders, Risk.Sample.decoders] at loaded
  split at loaded
  · rename_i same
    exact named same loaded
  · split at loaded
    · rename_i same
      exact named same loaded
    · split at loaded
      · obtain rfl := Except.ok.inj loaded
        simp [decoders, Risk.Sample.decoders, Json.item?, List.lookup_cons] at read
      · split at loaded
        · obtain rfl := Except.ok.inj loaded
          simp [decoders, Risk.Sample.decoders, Json.item?, List.lookup_cons] at read
        · split at loaded
          · rename_i same
            exact named same loaded
          · split at loaded
            · rename_i same
              exact named same loaded
            · simp at loaded

theorem keepsIds : services.KeepsIds := by
  intro signal correlationId parsed read
  have fields : (services.signalFields signal correlationId).get? "signal" =
      some (Risk.Sample.signalText signal.id) := rfl
  obtain ⟨data, loaded, read⟩ := Risk.signalOf_eq_some fields read
  exact validate_loads loaded read

end Sample

theorem order_per_row_once : ∃ final,
    Sample.services.system.run (PipelineConfig.idle {}) Sample.announcedOnce = some final ∧
      Sample.keysOf final = [Sample.idA] ∧
      ∀ row, (final.world.ordersFor row).length ≤ 1 := by
  have ran : (Sample.services.system.run (PipelineConfig.idle {}) Sample.announcedOnce).map
      Sample.keysOf = some [Sample.idA] := by
    decide +kernel
  obtain ⟨final, reached, keys⟩ := Option.map_eq_some_iff.mp ran
  have once : (firedRows Sample.services Sample.announcedOnce).Nodup := by
    decide +kernel
  exact ⟨final, reached, keys, (order_per_row Sample.keepsIds once reached).2⟩

/-- The row is announced twice: two orders with different keys. -/
theorem order_per_row_twice : ∃ final,
    Sample.services.system.run (PipelineConfig.idle {}) Sample.announcedTwice = some final ∧
      Sample.keysOf final = [Sample.idA, Sample.idB] ∧
      ¬(final.world.ordersFor Sample.entryRow.rowKey).length ≤ 1 := by
  have ran : (Sample.services.system.run (PipelineConfig.idle {}) Sample.announcedTwice).map
      Sample.keysOf = some [Sample.idA, Sample.idB] := by
    decide +kernel
  obtain ⟨final, reached, keys⟩ := Option.map_eq_some_iff.mp ran
  refine ⟨final, reached, keys, fun single => ?_⟩
  have count := congrArg List.length keys
  simp only [Sample.keysOf, List.length_map, List.length_cons, List.length_nil] at count
  omega

end Pipeline

end Vix75
