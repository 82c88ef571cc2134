import Vix75.ProgramResults
import Vix75.RiskChecks

/-! What the risk gate says about the signals of its stream over a whole run of any number of
replicas: one verdict for a signal at most, and one before its entry is acknowledged; and
what becomes of the gate once the registry of open positions is full. -/

namespace Vix75

open EffectProgram

namespace Risk

/-- What one handler has found out about the entry it works on. -/
inductive Docket where
  | outside
  | releasing
  | between
  | facing (message : Message) (rest : List Message)
  | full (message : Message) (rest : List Message)
  | room (message : Message) (rest : List Message)
  | judged (message : Message) (rest : List Message)
  | lost

namespace Docket

def pending : Docket → List Message
  | .facing message rest | .full message rest | .room message rest => message :: rest
  | .judged _ rest => rest
  | _ => []

def closed : Docket → Option Message
  | .judged message _ => some message
  | _ => none

def held (docket : Docket) : List Message :=
  docket.closed.toList ++ docket.pending

def next : List Message → Docket
  | [] => .between
  | message :: rest => .facing message rest

@[simp] theorem pending_next (messages : List Message) :
    (next messages).pending = messages := by
  cases messages <;> rfl

@[simp] theorem closed_next (messages : List Message) : (next messages).closed = none := by
  cases messages <;> rfl

@[simp] theorem held_next (messages : List Message) : (next messages).held = messages := by
  simp [held]

end Docket

def Sized (consumer : RiskConsumer) (signal : Signal ℚ) (lots : ℚ) : Prop :=
  ∃ account constraints result,
    validateStopDistances signal.entry signal.sl signal.tp1 constraints = none ∧
    consumer.sizePosition signal account constraints = .returned result ∧
    (result.status = .ok ∨ result.status = .cappedByVolumeMax) ∧ result.lots = lots

inductive Verdict where
  | approved (order : OrderRequest ℚ) (correlationId : String)
  | rejected (entry : SignalRejection)

namespace Verdict

def signalId : Verdict → String
  | .approved order _ => order.signalId
  | .rejected entry => entry.signalId

def symbol : Verdict → String
  | .approved order _ => order.symbol
  | .rejected entry => entry.symbol

def correlationId : Verdict → String
  | .approved _ id => id
  | .rejected entry => entry.correlationId

structure Names (verdict : Verdict) (signal : Signal ℚ) : Prop where
  signalId : verdict.signalId = signal.id
  symbol : verdict.symbol = signal.symbol

/-- The order is the signal's own, with sized lots, or the rejection names the signal. -/
def About (consumer : RiskConsumer) (signal : Signal ℚ) : Verdict → Prop
  | .approved order _ => ∃ lots, Sized consumer signal lots ∧ order = orderOf signal lots
  | .rejected entry => entry.signalId = signal.id ∧ entry.symbol = signal.symbol ∧
      entry.direction = signal.direction

theorem About.names {consumer : RiskConsumer} {signal : Signal ℚ} {verdict : Verdict}
    (about : verdict.About consumer signal) : verdict.Names signal := by
  cases verdict with
  | approved order correlationId =>
      obtain ⟨lots, _, rfl⟩ := about
      exact ⟨rfl, rfl⟩
  | rejected entry => exact ⟨about.1, about.2.1⟩

end Verdict

def verdictOf : RiskEffect → Option Verdict
  | .xaddApproved order correlationId => some (.approved order correlationId)
  | .xaddRejected entry => some (.rejected entry)
  | _ => none

def took {effect : RiskEffect} : Except PyError effect.Reply → Bool
  | .ok _ => true
  | .error error => error.applied

section Labels

variable {Pid : Type}

def verdict? : RiskLabel Pid → Option Verdict
  | .answer _ effect reply => if took reply then verdictOf effect else none
  | _ => none

def acked? : RiskLabel Pid → Option String
  | .answer _ (.xack id) reply => if took reply then some id else none
  | _ => none

def verdicts (trace : List (RiskLabel Pid)) : List Verdict := trace.filterMap verdict?

def acked (trace : List (RiskLabel Pid)) : List String := trace.filterMap acked?

end Labels

def openTradesReached : String := RejectionReason.maxOpenTradesReached.value

/-- A verdict is given once for the entry at hand, and only after a look at the registry. -/
def judging (consumer : RiskConsumer) :
    Discipline RiskEffect RiskEffect.Reply PyError RiskRequest Docket where
  initial := fun request => match request with
    | .drain => .between
    | .ensureGroup => .outside
    | .release _ => .releasing
  allowed := fun docket effect => match effect with
    | .xreadgroup _ => docket = .between
    | .xack id => (∃ message rest, docket = .judged message rest ∧ message.id = id) ∨
        ∃ message rest, docket = .facing message rest ∧ message.id = id ∧
          consumer.parseSignal message.fields = .ok none
    | .hgetall => ∃ message rest, docket = .facing message rest
    | .hset _ => ∃ message rest, docket = .judged message rest
    | .hdel _ => docket = .releasing
    | .xaddApproved order correlationId => ∃ message rest signal, docket = .room message rest ∧
        consumer.parseSignal message.fields = .ok (some signal) ∧
        (Verdict.approved order correlationId).About consumer signal
    | .xaddRejected entry => ∃ message rest signal,
        (docket = .room message rest ∨ docket = .full message rest ∧
          entry.rejectedReason = openTradesReached) ∧
        consumer.parseSignal message.fields = .ok (some signal) ∧
        (Verdict.rejected entry).About consumer signal
    | _ => True
  assumed := fun _ _ _ => True
  advance := fun docket effect reply => match effect, reply, docket with
    | .xreadgroup _, .ok messages, _ => .next messages
    | .xack _, .ok _, .facing _ rest => .next rest
    | .xack _, .ok _, .judged _ rest => .next rest
    | .hgetall, .ok positions, .facing message rest =>
        if consumer.settings.maxOpenPositions ≤ (positions.length : ℤ) then .full message rest
        else .room message rest
    | .xaddApproved _ _, .ok _, .room message rest => .judged message rest
    | .xaddRejected _, .ok _, .room message rest => .judged message rest
    | .xaddRejected _, .ok _, .full message rest => .judged message rest
    | .xaddApproved _ _, .error _, _ => .lost
    | .xaddRejected _, .error _, _ => .lost
    | _, _, _ => docket
  finished := fun _ => True
  failed := fun _ _ => True
  crashes := fun _ => True

section Follows

variable {consumer : RiskConsumer} {message : Message} {rest : List Message}

theorem preflight_judges (balance : Option ℚ) :
    (judging consumer).wp (.facing message rest) (preflight consumer.settings balance)
      (fun after reason => after = .full message rest ∧ reason = some .maxOpenTradesReached ∨
        after = .room message rest) (fun _ _ => True) := by
  refine Discipline.wp_perform_bind ⟨_, _, rfl⟩ (fun _ _ => trivial) fun positions _ => ?_
  simp only [Discipline.wp_done, judging, preflightReason, exposureReason]
  by_cases full : consumer.settings.maxOpenPositions ≤ (positions.length : ℤ)
  · simp [full]
  · simp [full]

theorem load_judges {α : Type} (docket : Docket) (key : String)
    (reader : Option String → Except PyError α) :
    (judging consumer).wp docket ((await (.get key)).bind fun raw => Prog.ofExcept (reader raw))
      (fun after _ => after = docket) (fun _ _ => True) :=
  Discipline.wp_perform_bind trivial (fun _ _ => trivial) fun _ _ =>
    Discipline.wp_ofExcept (fun _ _ => rfl) fun _ _ => trivial

theorem decide_judges {signal : Signal ℚ} :
    (judging consumer).wp (.facing message rest) (consumer.decide signal)
      (fun after decision =>
        after = .full message rest ∧ decision.approved = false ∧
          decision.reason = some .maxOpenTradesReached ∨
        after = .room message rest ∧
          (decision.approved = true → Sized consumer signal decision.lots))
      (fun _ _ => True) := by
  unfold RiskConsumer.decide RiskConsumer.loadAccount RiskConsumer.loadSymbolConstraints
  refine Discipline.wp_seq _ (load_judges (.facing message rest) _ _) ?_
  rintro current hint rfl
  refine Discipline.wp_seq _ (preflight_judges _) ?_
  rintro current reason (⟨rfl, rfl⟩ | rfl)
  · exact .inl ⟨rfl, rfl, rfl⟩
  cases reason with
  | some reason => exact .inr ⟨rfl, by simp⟩
  | none =>
      refine Discipline.wp_seq _ (load_judges (.room message rest) _ _) ?_
      rintro current account rfl
      refine Discipline.wp_seq _ (load_judges (.room message rest) _ _) ?_
      rintro current constraints rfl
      cases account with
      | none => exact .inr ⟨rfl, by simp⟩
      | some account =>
          cases constraints with
          | none => exact .inr ⟨rfl, by simp⟩
          | some constraints =>
              dsimp only
              split
              · exact .inr ⟨rfl, by simp⟩
              · rename_i distant
                split
                · rename_i result sized
                  refine .inr ⟨rfl, fun approved => ?_⟩
                  refine ⟨account, constraints, result, distant, sized, ?_⟩
                  simp only [decideSized] at approved ⊢
                  split at approved
                  · rename_i accepted
                    simp [accepted]
                  · simp at approved
                · trivial
                · exact Discipline.wp_perform_bind trivial (fun _ _ => trivial)
                    fun impossible => impossible.elim

theorem handleSignal_judges {signal : Signal ℚ}
    (parsed : consumer.parseSignal message.fields = .ok (some signal)) (correlationId : String) :
    (judging consumer).wp (.facing message rest) (consumer.handleSignal signal correlationId)
      (fun after _ => after = .judged message rest) (fun _ _ => True) := by
  refine Discipline.wp_seq _ decide_judges ?_
  rintro current decision (⟨rfl, refused, reason⟩ | ⟨rfl, basis⟩)
  · rw [if_neg (by simp [refused]), reason]
    refine (Discipline.wp_perform).mpr ⟨?_, fun _ _ => rfl, fun _ _ => trivial⟩
    exact ⟨message, rest, signal, .inr ⟨rfl, rfl⟩, parsed, rfl, rfl, rfl⟩
  · split
    · rename_i approved
      refine Discipline.wp_perform_bind
        ⟨message, rest, signal, rfl, parsed, _, basis approved, rfl⟩
        (fun _ _ => trivial) fun _ _ => ?_
      exact (Discipline.wp_perform).mpr ⟨⟨_, _, rfl⟩, fun _ _ => rfl, fun _ _ => trivial⟩
    · split
      · trivial
      · refine (Discipline.wp_perform).mpr ⟨?_, fun _ _ => rfl, fun _ _ => trivial⟩
        exact ⟨message, rest, signal, .inl rfl, parsed, rfl, rfl, rfl⟩

theorem handleMessage_judges :
    (judging consumer).wp (.facing message rest) (consumer.handleMessage message)
      (fun after _ => after = .next rest) (fun _ _ => True) := by
  unfold RiskConsumer.handleMessage RiskConsumer.handle
  rw [Discipline.wp_bind]
  refine Discipline.wp_seq (fun after _ => after = .facing message rest) ?_ ?_
  · unfold getOrCreateCorrelationId
    split
    · rfl
    · exact (Discipline.wp_perform).mpr ⟨trivial, fun _ _ => rfl, fun _ _ => trivial⟩
  rintro current correlationId rfl
  cases parsed : consumer.parseSignal message.fields with
  | error error => trivial
  | ok found =>
      rw [Prog.ofExcept_ok, Prog.done_bind]
      cases found with
      | none =>
          rw [Discipline.wp_done, Discipline.wp_perform]
          exact ⟨.inr ⟨_, _, rfl, rfl, parsed⟩, fun _ _ => rfl, fun _ _ => trivial⟩
      | some signal =>
          refine Discipline.wp_mono (handleSignal_judges parsed correlationId) ?_
            (fun _ _ _ => trivial)
          rintro after _ rfl
          rw [Discipline.wp_perform]
          exact ⟨.inl ⟨_, _, rfl, rfl⟩, fun _ _ => rfl, fun _ _ => trivial⟩

theorem ensureGroup_judges (docket : Docket) :
    (judging consumer).wp docket ensureGroup (fun after _ => after = docket)
      (fun _ _ => True) := by
  unfold ensureGroup
  rw [Discipline.wp_rescue, Discipline.wp_perform]
  refine ⟨trivial, fun _ _ => rfl, fun error _ => ?_⟩
  cases error with
  | busyGroup => rfl
  | _ => trivial

theorem readBatch_judges :
    (judging consumer).wp .between readBatch (fun after messages => after = .next messages)
      (fun _ _ => True) := by
  unfold readBatch
  rw [Discipline.wp_rescue, Discipline.wp_perform]
  refine ⟨rfl, fun _ _ => rfl, fun error _ => ?_⟩
  change (judging consumer).wp .between _ _ _
  cases error with
  | noGroup =>
      refine Discipline.wp_seq _ (ensureGroup_judges _) ?_
      rintro current _ rfl
      rfl
  | _ => exact Discipline.wp_perform_bind trivial (fun _ _ => trivial) fun _ _ => rfl

theorem entry_judges (request : RiskRequest) :
    (judging consumer).wp ((judging consumer).initial request) (consumer.entry request)
      (fun _ _ => True) (fun _ _ => True) := by
  cases request with
  | ensureGroup =>
      exact Discipline.wp_mono (ensureGroup_judges .outside) (fun _ _ _ => trivial)
        fun _ _ _ => trivial
  | release key =>
      exact (Discipline.wp_perform).mpr ⟨rfl, fun _ _ => trivial, fun _ _ => trivial⟩
  | drain =>
      refine Discipline.wp_seq _ readBatch_judges ?_
      rintro current messages rfl
      have looped : (judging consumer).wp (.next messages)
          (Prog.forEach messages consumer.handleMessage) (fun after _ => after = .next [])
          (fun _ _ => True) := by
        refine Discipline.wp_forEach (fun (rest : List Message) docket =>
          docket = Docket.next rest) rfl ?_
        rintro message rest current rfl
        exact handleMessage_judges
      exact Discipline.wp_mono looped (fun _ _ _ => trivial) fun _ _ _ => trivial

end Follows

structure Said where
  verdicts : List Verdict := []
  acked : List String := []

def Said.ids (said : Said) : List String := said.verdicts.map Verdict.signalId

def delivered (world : RiskWorld) : List Message := world.signals.take world.cursor

def docketIds (consumer : RiskConsumer) (docket : Docket) : List String :=
  consumer.signalIds docket.pending

def Answered (consumer : RiskConsumer) (ids : List String) (message : Message) : Prop :=
  ∀ signal, consumer.parseSignal message.fields = .ok (some signal) → signal.id ∈ ids

section Interleavings

variable {Pid : Type} {consumer : RiskConsumer}

def Said.record (said : Said) (label : RiskLabel Pid) : Said where
  verdicts := said.verdicts ++ (verdict? label).toList
  acked := said.acked ++ (acked? label).toList

structure Judged (consumer : RiskConsumer) (said : Said) (world : RiskWorld)
    (dockets : Pid → Option Docket) : Prop where
  custody : (consumer.signalIds world.signals).Nodup →
    Custody (consumer.signalIds (delivered world))
      (Custody.carried (docketIds consumer) dockets) said.ids
  about : ∀ verdict ∈ said.verdicts, ∃ message ∈ delivered world, ∃ signal,
    consumer.parseSignal message.fields = .ok (some signal) ∧ verdict.About consumer signal
  handed : ∀ pid docket, dockets pid = some docket → docket.held ⊆ delivered world
  spoken : ∀ pid docket message, dockets pid = some docket → docket.closed = some message →
    Answered consumer said.ids message
  acknowledged : ∀ id ∈ said.acked, ∃ message ∈ delivered world, message.id = id ∧
    Answered consumer said.ids message

theorem Judged.idle (world : RiskWorld) :
    Judged consumer {} world (fun _ : Pid => none) := by
  refine ⟨fun _ => Custody.empty, ?_, ?_, ?_, ?_⟩ <;> simp

variable {said : Said} {world after : RiskWorld} {dockets : Pid → Option Docket} {pid : Pid}

theorem signalIds_subset {fewer more : List Message} (within : fewer ⊆ more) :
    consumer.signalIds fewer ⊆ consumer.signalIds more := by
  intro id member
  obtain ⟨message, inFewer, found⟩ := List.mem_filterMap.mp member
  exact List.mem_filterMap.mpr ⟨message, within inFewer, found⟩

theorem Judged.grow (held : Judged consumer said world dockets)
    (more : delivered world ⊆ delivered after)
    (earlier : (consumer.signalIds after.signals).Nodup →
      (consumer.signalIds world.signals).Nodup) : Judged consumer said after dockets where
  custody distinct := (held.custody (earlier distinct)).frame (signalIds_subset more)
    (List.Sublist.refl _) fun _ => List.Sublist.refl _
  about verdict member := by
    obtain ⟨message, inStream, basis⟩ := held.about verdict member
    exact ⟨message, more inStream, basis⟩
  handed pid docket current := List.Subset.trans (held.handed pid docket current) more
  spoken := held.spoken
  acknowledged id member := by
    obtain ⟨message, inStream, basis⟩ := held.acknowledged id member
    exact ⟨message, more inStream, basis⟩

theorem docketIds_cons {message : Message} {rest : List Message} {signal : Signal ℚ}
    (parsed : consumer.parseSignal message.fields = .ok (some signal)) :
    consumer.signalIds (message :: rest) = signal.id :: consumer.signalIds rest := by
  simp [RiskConsumer.signalIds, RiskConsumer.idOf, parsed]

variable [DecidableEq Pid]

theorem Judged.carry {docket : Option Docket} (held : Judged consumer said world dockets)
    (pending : ((docket.map Docket.pending).getD []).Sublist
      (((dockets pid).map Docket.pending).getD []))
    (within : ∀ later, docket = some later → later.held ⊆ delivered world)
    (closed : ∀ later message, docket = some later → later.closed = some message →
      Answered consumer said.ids message) :
    Judged consumer said world (Function.update dockets pid docket) := by
  refine ⟨fun distinct => ?_, held.about, fun other later current => ?_,
    fun other later message current => ?_, held.acknowledged⟩
  · rw [Custody.carried_update]
    refine (held.custody distinct).put_down (List.Subset.refl _) (List.Sublist.refl _) ?_
    have ids := pending.filterMap consumer.idOf
    unfold Custody.carried docketIds RiskConsumer.signalIds
    cases docket with
    | none => exact List.nil_sublist _
    | some later => cases there : dockets pid <;> simpa [there] using ids
  · by_cases same : other = pid
    · subst same
      exact within later (by simpa using current)
    · exact held.handed other later (by simpa [same] using current)
  · by_cases same : other = pid
    · subst same
      exact closed later message (by simpa using current)
    · exact held.spoken other later message (by simpa [same] using current)

theorem Judged.leave (held : Judged consumer said world dockets) (pid : Pid) :
    Judged consumer said world (Function.update dockets pid none) :=
  held.carry (List.nil_sublist _) nofun nofun

theorem Judged.deliver {count : ℕ} {messages : List Message}
    (held : Judged consumer said world dockets)
    (answered : world.answer (.xreadgroup count) (.ok messages) = some after) :
    Judged consumer said after (Function.update dockets pid (some (.next messages))) := by
  obtain ⟨given, rfl⟩ := RiskWorld.answer_ok answered
  simp only [RiskWorld.replies, decide_eq_true_eq] at given
  have stream : delivered (world.apply (.xreadgroup count)) = delivered world ++ messages := by
    have batch : (world.signals.drop world.cursor).take
        ((world.signals.drop world.cursor).take count).length =
          (world.signals.drop world.cursor).take count := by simp
    simp only [delivered, RiskWorld.apply, RiskWorld.undelivered, List.take_add, batch, given]
  have grown : Judged consumer said (world.apply (.xreadgroup count)) dockets :=
    held.grow (by rw [stream]; exact List.subset_append_left _ _) id
  refine ⟨fun distinct => ?_, grown.about, fun other later current => ?_,
    fun other later message current closed => ?_, grown.acknowledged⟩
  · have ids : consumer.signalIds (delivered world ++ messages) =
        consumer.signalIds (delivered world) ++ consumer.signalIds messages :=
      List.filterMap_append
    have nodup : (consumer.signalIds (delivered world) ++
        consumer.signalIds messages).Nodup := by
      rw [← ids, ← stream]
      exact List.Nodup.sublist ((List.take_sublist _ _).filterMap _) distinct
    obtain ⟨_, batchNodup, disjoint⟩ := List.nodup_append.mp nodup
    rw [stream, ids, Custody.carried_update]
    simpa [docketIds] using (held.custody distinct).deal pid batchNodup fun id inBatch dealt =>
      disjoint id dealt id inBatch rfl
  · by_cases same : other = pid
    · subst same
      obtain rfl : Docket.next messages = later := by simpa using current
      rw [stream, Docket.held_next]
      exact List.subset_append_right _ _
    · exact grown.handed other later (by simpa [same] using current)
  · by_cases same : other = pid
    · subst same
      obtain rfl : Docket.next messages = later := by simpa using current
      simp at closed
    · exact grown.spoken other later message (by simpa [same] using current) closed

theorem Judged.judge {message : Message} {rest : List Message} {docket later : Docket}
    {signal : Signal ℚ} {verdict : Verdict} (held : Judged consumer said world dockets)
    (current : dockets pid = some docket) (pending : docket.pending = message :: rest)
    (parsed : consumer.parseSignal message.fields = .ok (some signal))
    (about : verdict.About consumer signal)
    (goes : later = .judged message rest ∨ later = .lost) :
    Judged consumer ⟨said.verdicts ++ [verdict], said.acked⟩ world
      (Function.update dockets pid (some later)) := by
  have ids : (Said.mk (said.verdicts ++ [verdict]) said.acked).ids = said.ids ++ [signal.id] := by
    simp [Said.ids, about.names.signalId]
  have more : ∀ {other : Message}, Answered consumer said.ids other →
      Answered consumer (said.ids ++ [signal.id]) other :=
    fun answered found parsed => List.mem_append_left _ (answered found parsed)
  have inHand : docket.held ⊆ delivered world := held.handed pid docket current
  have here : message ∈ delivered world := inHand (by simp [Docket.held, pending])
  have others : rest ⊆ delivered world := fun other member =>
    inHand (by simp [Docket.held, pending, member])
  refine ⟨fun distinct => ?_, fun other member => ?_, fun other found at' => ?_,
    fun other found entry at' closed => ?_, fun id member => ?_⟩
  · have hands : Custody.carried (docketIds consumer) dockets pid =
        signal.id :: consumer.signalIds rest := by
      rw [Custody.carried_some current, docketIds, pending, docketIds_cons parsed]
    have spent := (held.custody distinct).spend hands
    rw [ids, Custody.carried_update]
    rcases goes with rfl | rfl
    · exact spent
    · refine spent.frame (List.Subset.refl _) (List.Sublist.refl _) fun other => ?_
      by_cases same : other = pid
      · subst same
        simp [docketIds, Docket.pending, RiskConsumer.signalIds]
      · simp [same]
  · rcases List.mem_append.mp member with earlier | now
    · exact held.about other earlier
    · obtain rfl := List.mem_singleton.mp now
      exact ⟨message, here, signal, parsed, about⟩
  · by_cases same : other = pid
    · subst same
      obtain rfl : later = found := by simpa using at'
      rcases goes with rfl | rfl
      · simpa [Docket.held, Docket.closed, Docket.pending] using ⟨here, others⟩
      · simp [Docket.held, Docket.closed, Docket.pending]
    · exact held.handed other found (by simpa [same] using at')
  · rw [ids]
    by_cases same : other = pid
    · subst same
      obtain rfl : later = found := by simpa using at'
      rcases goes with rfl | rfl
      · obtain rfl : message = entry := by simpa [Docket.closed] using closed
        intro other same
        obtain rfl := Option.some.inj (Except.ok.inj (same.symm.trans parsed))
        simp
      · simp [Docket.closed] at closed
    · exact more (held.spoken other found entry (by simpa [same] using at') closed)
  · obtain ⟨entry, inStream, named, answered⟩ := held.acknowledged id member
    refine ⟨entry, inStream, named, ?_⟩
    rw [ids]
    exact more answered

omit [DecidableEq Pid] in
theorem Judged.acknowledge {message : Message} {id : String}
    (held : Judged consumer said world dockets) (here : message ∈ delivered world)
    (named : message.id = id) (answered : Answered consumer said.ids message) :
    Judged consumer ⟨said.verdicts, said.acked ++ [id]⟩ world dockets := by
  refine ⟨held.custody, held.about, held.handed, held.spoken, fun other member => ?_⟩
  rcases List.mem_append.mp member with earlier | now
  · exact held.acknowledged other earlier
  · obtain rfl := List.mem_singleton.mp now
    exact ⟨message, here, named, answered⟩

omit [DecidableEq Pid] in
theorem record_silent {label : RiskLabel Pid} (speechless : verdict? label = none)
    (unacked : acked? label = none) : said.record label = said := by
  simp [Said.record, speechless, unacked]

theorem delivered_mono {effect : RiskEffect} {reply : Except PyError effect.Reply}
    (answered : world.answer effect reply = some after) :
    delivered world ⊆ delivered after ∧ after.signals = world.signals := by
  rcases RiskWorld.answer_eq answered with same | applied
  · rw [same]
    exact ⟨List.Subset.refl _, rfl⟩
  · rw [applied]
    cases effect with
    | xreadgroup count =>
        exact ⟨(List.take_sublist_take_left (Nat.le_add_right _ _)).subset, rfl⟩
    | _ => exact ⟨List.Subset.refl _, rfl⟩

theorem verdict_step {docket : Docket} {effect : RiskEffect} {verdict : Verdict}
    (reply : Except PyError effect.Reply) (speaks : verdictOf effect = some verdict)
    (allowed : (judging consumer).allowed docket effect) :
    ∃ message rest signal, docket.pending = message :: rest ∧ docket.closed = none ∧
      consumer.parseSignal message.fields = .ok (some signal) ∧ verdict.About consumer signal ∧
      ((judging consumer).advance docket effect reply = .judged message rest ∧ took reply = true ∨
        (judging consumer).advance docket effect reply = .lost) := by
  cases effect with
  | xaddApproved order correlationId =>
      obtain rfl := Option.some.inj speaks
      obtain ⟨message, rest, signal, rfl, parsed, about⟩ := allowed
      refine ⟨message, rest, signal, rfl, rfl, parsed, about, ?_⟩
      cases reply with
      | ok value => exact .inl ⟨rfl, rfl⟩
      | error error => exact .inr rfl
  | xaddRejected entry =>
      obtain rfl := Option.some.inj speaks
      obtain ⟨message, rest, signal, rfl | ⟨rfl, _⟩, parsed, about⟩ := allowed
      all_goals
        refine ⟨message, rest, signal, rfl, rfl, parsed, about, ?_⟩
        cases reply with
        | ok value => exact .inl ⟨rfl, rfl⟩
        | error error => exact .inr rfl
  | _ => simp [verdictOf] at speaks

theorem advance_keeps {docket : Docket} {effect : RiskEffect}
    (reply : Except PyError effect.Reply) (speechless : verdictOf effect = none)
    (unread : ∀ count, effect ≠ .xreadgroup count)
    (allowed : (judging consumer).allowed docket effect) :
    ((judging consumer).advance docket effect reply).pending.Sublist docket.pending ∧
    ((judging consumer).advance docket effect reply).held ⊆ docket.held ∧
    ∀ message, ((judging consumer).advance docket effect reply).closed = some message →
      docket.closed = some message := by
  have unchanged : (judging consumer).advance docket effect reply = docket →
      ((judging consumer).advance docket effect reply).pending.Sublist docket.pending ∧
      ((judging consumer).advance docket effect reply).held ⊆ docket.held ∧
      ∀ message, ((judging consumer).advance docket effect reply).closed = some message →
        docket.closed = some message := by
    intro same
    rw [same]
    exact ⟨List.Sublist.refl _, List.Subset.refl _, fun _ held => held⟩
  rcases reply with error | value
  · refine unchanged ?_
    cases effect with
    | xaddApproved order correlationId => simp [verdictOf] at speechless
    | xaddRejected entry => simp [verdictOf] at speechless
    | _ => rfl
  · cases effect with
    | xreadgroup count => exact absurd rfl (unread count)
    | xaddApproved order correlationId => simp [verdictOf] at speechless
    | xaddRejected entry => simp [verdictOf] at speechless
    | xack id =>
        rcases allowed with ⟨message, rest, rfl, _⟩ | ⟨message, rest, rfl, _, _⟩
        · change (Docket.next rest).pending.Sublist rest ∧
            (Docket.next rest).held ⊆ message :: rest ∧
            ∀ other, (Docket.next rest).closed = some other → some message = some other
          simp
        · change (Docket.next rest).pending.Sublist (message :: rest) ∧
            (Docket.next rest).held ⊆ message :: rest ∧
            ∀ other, (Docket.next rest).closed = some other → none = some other
          simp
    | hgetall =>
        obtain ⟨message, rest, rfl⟩ := allowed
        simp only [judging]
        split <;> simp [Docket.held, Docket.pending, Docket.closed]
    | _ => exact unchanged rfl

omit [DecidableEq Pid] in
theorem Judged.settled {docket : Docket} {id : String} (held : Judged consumer said world dockets)
    (current : dockets pid = some docket)
    (allowed : (judging consumer).allowed docket (.xack id)) :
    ∃ message ∈ delivered world, message.id = id ∧ Answered consumer said.ids message := by
  rcases allowed with ⟨message, rest, rfl, named⟩ | ⟨message, rest, rfl, named, dropped⟩
  · refine ⟨message, held.handed pid _ current ?_, named, held.spoken pid _ message current rfl⟩
    simp [Docket.held, Docket.closed]
  · refine ⟨message, held.handed pid _ current ?_, named, fun signal parsed => ?_⟩
    · simp [Docket.held, Docket.pending]
    · simp [dropped] at parsed

theorem Judged.answer {docket : Docket} {effect : RiskEffect}
    {reply : Except PyError effect.Reply} (held : Judged consumer said world dockets)
    (current : dockets pid = some docket) (allowed : (judging consumer).allowed docket effect)
    (answered : world.answer effect reply = some after) :
    Judged consumer (said.record (.answer pid effect reply : RiskLabel Pid)) after
      (Function.update dockets pid (some ((judging consumer).advance docket effect reply))) := by
  obtain ⟨more, signals⟩ := delivered_mono answered
  have earlier : (consumer.signalIds after.signals).Nodup →
      (consumer.signalIds world.signals).Nodup := by
    rw [signals]
    exact id
  cases speaks : verdictOf effect with
  | some verdict =>
      have unacked : acked? (.answer pid effect reply : RiskLabel Pid) = none := by
        cases effect <;> first | rfl | simp [verdictOf] at speaks
      obtain ⟨message, rest, signal, pending, closed, parsed, about, goes⟩ :=
        verdict_step reply speaks allowed
      by_cases taken : took reply = true
      · have said' : said.record (.answer pid effect reply : RiskLabel Pid) =
            ⟨said.verdicts ++ [verdict], said.acked⟩ := by
          simp [Said.record, verdict?, taken, speaks, unacked]
        rw [said']
        exact (held.judge current pending parsed about (goes.imp And.left id)).grow more earlier
      · have lost : (judging consumer).advance docket effect reply = .lost := by
          rcases goes with ⟨_, took⟩ | lost
          · exact absurd took taken
          · exact lost
        rw [record_silent (by simp [verdict?, taken]) unacked, lost]
        have carried : Judged consumer said world (Function.update dockets pid (some .lost)) := by
          refine held.carry (by simp [Docket.pending]) ?_ ?_
          · rintro later ⟨rfl⟩
            simp [Docket.held, Docket.closed, Docket.pending]
          · rintro later message ⟨rfl⟩ closed
            simp [Docket.closed] at closed
        exact carried.grow more earlier
  | none =>
      have speechless : verdict? (.answer pid effect reply : RiskLabel Pid) = none := by
        simp [verdict?, speaks]
      by_cases reads : ∃ count, effect = .xreadgroup count
      · obtain ⟨count, rfl⟩ := reads
        rw [record_silent speechless rfl]
        obtain rfl : docket = .between := allowed
        cases reply with
        | ok messages => exact held.deliver answered
        | error error =>
            have still : (judging consumer).advance Docket.between (.xreadgroup count)
                (.error error) = .between := rfl
            rw [still, ← current, Function.update_eq_self]
            exact held.grow more earlier
      · have unread : ∀ count, effect ≠ .xreadgroup count := fun count same =>
          reads ⟨count, same⟩
        obtain ⟨pending, within, closed⟩ := advance_keeps reply speaks unread allowed
        have carried : Judged consumer said world
            (Function.update dockets pid
              (some ((judging consumer).advance docket effect reply))) := by
          refine held.carry (by simpa [current] using pending) ?_ ?_
          · rintro later ⟨rfl⟩
            exact List.Subset.trans within (held.handed pid docket current)
          · rintro later message ⟨rfl⟩ finished
            exact held.spoken pid docket message current (closed message finished)
        cases acks : acked? (.answer pid effect reply : RiskLabel Pid) with
        | none =>
            rw [record_silent speechless acks]
            exact carried.grow more earlier
        | some id =>
            have said' : said.record (.answer pid effect reply : RiskLabel Pid) =
                ⟨said.verdicts, said.acked ++ [id]⟩ := by
              simp [Said.record, speechless, acks]
            have named : effect = .xack id := by
              cases effect with
              | xack messageId =>
                  simp only [acked?, Option.ite_none_right_eq_some, Option.some.injEq] at acks
                  rw [acks.2]
              | _ => simp [acked?] at acks
            subst named
            obtain ⟨message, here, named, answered⟩ := held.settled current allowed
            rw [said']
            exact (carried.acknowledge here named answered).grow more earlier

theorem Judged.step {label : RiskLabel Pid} (held : Judged consumer said world dockets)
    (moved : (judging consumer).Moves consumer.system world dockets label after) :
    Judged consumer (said.record label) after ((judging consumer).track dockets label) := by
  cases moved with
  | start pid request idle =>
      rw [record_silent rfl rfl]
      have empty : ((judging consumer).initial request).held = [] := by cases request <;> rfl
      have pending : ((judging consumer).initial request).pending = [] := by
        cases request <;> rfl
      have closed : ((judging consumer).initial request).closed = none := by
        cases request <;> rfl
      refine held.carry ?_ ?_ ?_
      · simp [pending]
      · rintro later ⟨rfl⟩
        simp [empty]
      · rintro later message ⟨rfl⟩ finished
        simp [closed] at finished
  | answer pid docket effect reply after current allowed answered =>
      simp only [Discipline.track, current, Option.map_some]
      exact held.answer current allowed answered
  | finish pid docket current finished =>
      rw [record_silent rfl rfl]
      exact held.leave pid
  | fail pid docket error current failed =>
      rw [record_silent rfl rfl]
      exact held.leave pid
  | crash pid docket current =>
      rw [record_silent rfl rfl]
      exact held.leave pid
  | environment event after happened =>
      rw [record_silent rfl rfl]
      cases event with
      | publish message =>
          obtain rfl := Option.some.inj happened
          refine held.grow ?_ fun distinct =>
            distinct.sublist ((List.sublist_append_left _ _).filterMap _)
          simp only [delivered]
          rw [List.take_append]
          exact List.subset_append_left _ _

end Interleavings

/-! A full registry -/

section Full

variable {Pid : Type} {consumer : RiskConsumer} {world after : RiskWorld}
  {dockets : Pid → Option Docket} {pid : Pid}

def Unreleased : RiskLabel Pid → Prop
  | .answer _ (.hdel _) _ => False
  | _ => True

def Docket.Barred : Docket → Prop
  | .room _ _ => False
  | _ => True

def Verdict.Refused : Verdict → Prop
  | .approved _ _ => False
  | .rejected entry => entry.rejectedReason = openTradesReached

/-- A replica looks at the registry or gives a verdict. -/
def Decides (pid : Pid) : RiskLabel Pid → Prop
  | .answer other effect _ => other = pid ∧ (effect = .hgetall ∨ (verdictOf effect).isSome)
  | _ => False

def Undecided (pid : Pid) (trace : List (RiskLabel Pid)) : Prop :=
  ∀ label ∈ trace, ¬Decides pid label

/-- A replica has looked at the registry and seen room in it. -/
def SawRoom (consumer : RiskConsumer) (pid : Pid) (trace : List (RiskLabel Pid)) : Prop :=
  ∃ positions : List (OpenPosition ℚ), .answer pid .hgetall (.ok positions) ∈ trace ∧
    (positions.length : ℤ) < consumer.settings.maxOpenPositions

def Sighted (consumer : RiskConsumer) (trace : List (RiskLabel Pid))
    (dockets : Pid → Option Docket) : Prop :=
  ∀ pid docket, dockets pid = some docket → docket.Barred ∨ SawRoom consumer pid trace

/-- Since the registry is full nobody has found room; who had found it before may give the verdict
that it was about to give. -/
structure Saturated (consumer : RiskConsumer) (lookers : Pid → Prop)
    (trace : List (RiskLabel Pid)) (world : RiskWorld) (dockets : Pid → Option Docket) : Prop where
  full : consumer.settings.maxOpenPositions ≤ (world.openPositions.rows.length : ℤ)
  barred : ∀ pid docket, dockets pid = some docket →
    docket.Barred ∨ lookers pid ∧ Undecided pid trace
  refused : ∀ earlier pid effect reply rest verdict,
    trace = earlier ++ .answer pid effect reply :: rest → verdictOf effect = some verdict →
      verdict.Refused ∨ lookers pid ∧ Undecided pid earlier

theorem Undecided.concat {pid : Pid} {trace : List (RiskLabel Pid)} {label : RiskLabel Pid}
    (undecided : Undecided pid trace) (other : ¬Decides pid label) :
    Undecided pid (trace ++ [label]) := by
  intro step member
  rcases List.mem_append.mp member with earlier | now
  · exact undecided step earlier
  · rwa [List.mem_singleton.mp now]

theorem SawRoom.append_right {pid : Pid} {trace : List (RiskLabel Pid)}
    (saw : SawRoom consumer pid trace) (later : List (RiskLabel Pid)) :
    SawRoom consumer pid (trace ++ later) := by
  obtain ⟨positions, looked, room⟩ := saw
  exact ⟨positions, List.mem_append_left _ looked, room⟩

theorem SawRoom.append_left {pid : Pid} {trace : List (RiskLabel Pid)}
    (saw : SawRoom consumer pid trace) (earlier : List (RiskLabel Pid)) :
    SawRoom consumer pid (earlier ++ trace) := by
  obtain ⟨positions, looked, room⟩ := saw
  exact ⟨positions, List.mem_append_right _ looked, room⟩

theorem registry_grows {effect : RiskEffect} {reply : Except PyError effect.Reply}
    (unreleased : Unreleased (.answer pid effect reply))
    (answered : world.answer effect reply = some after) :
    world.openPositions.rows.length ≤ after.openPositions.rows.length := by
  rcases RiskWorld.answer_eq answered with same | applied
  · rw [same]
  · rw [applied]
    cases effect with
    | hset position => exact world.openPositions.length_le_put position
    | hdel key => exact unreleased.elim
    | _ => exact le_rfl

theorem barred_or_sawRoom {docket : Docket} {effect : RiskEffect}
    {reply : Except PyError effect.Reply} (pid : Pid) (barred : docket.Barred)
    (allowed : (judging consumer).allowed docket effect) :
    ((judging consumer).advance docket effect reply).Barred ∨
      SawRoom consumer pid [.answer pid effect reply] := by
  rcases reply with error | value
  · cases effect with
    | xaddApproved order correlationId => exact .inl trivial
    | xaddRejected entry => exact .inl trivial
    | _ => exact .inl barred
  · cases effect with
    | hgetall =>
        obtain ⟨message, rest, rfl⟩ := allowed
        by_cases full : consumer.settings.maxOpenPositions ≤ (value.length : ℤ)
        · simp only [judging, if_pos full]
          exact .inl trivial
        · exact .inr ⟨value, List.mem_singleton.mpr rfl, not_le.mp full⟩
    | xreadgroup count =>
        obtain rfl : docket = .between := allowed
        cases value <;> exact .inl trivial
    | xack id =>
        rcases allowed with ⟨message, rest, rfl, _⟩ | ⟨message, rest, rfl, _, _⟩
        all_goals cases rest <;> exact .inl trivial
    | xaddApproved order correlationId =>
        obtain ⟨message, rest, signal, rfl, _⟩ := allowed
        exact barred.elim
    | xaddRejected entry =>
        obtain ⟨message, rest, signal, rfl | ⟨rfl, _⟩, _⟩ := allowed
        · exact barred.elim
        · exact .inl trivial
    | _ => exact .inl barred

theorem sees_full {effect : RiskEffect} {reply : Except PyError effect.Reply}
    (full : consumer.settings.maxOpenPositions ≤ (world.openPositions.rows.length : ℤ))
    (answered : world.answer effect reply = some after) :
    ¬SawRoom consumer pid [.answer pid effect reply] := by
  rintro ⟨positions, looked, room⟩
  cases List.mem_singleton.mp looked
  obtain ⟨given, _⟩ := RiskWorld.answer_ok answered
  simp only [RiskWorld.replies, decide_eq_true_eq] at given
  subst given
  omega

theorem barred_or_undecided {docket : Docket} {effect : RiskEffect}
    {reply : Except PyError effect.Reply} (pid : Pid) (roomy : ¬docket.Barred)
    (allowed : (judging consumer).allowed docket effect) :
    ((judging consumer).advance docket effect reply).Barred ∨
      ¬Decides pid (.answer pid effect reply) := by
  cases docket with
  | room message rest =>
      cases effect with
      | hgetall => simp [judging] at allowed
      | xaddApproved order correlationId => cases reply <;> exact .inl trivial
      | xaddRejected entry => cases reply <;> exact .inl trivial
      | _ => exact .inr (by simp [Decides, verdictOf])
  | _ => exact absurd trivial roomy

theorem refused_of_barred {docket : Docket} {effect : RiskEffect} {verdict : Verdict}
    (barred : docket.Barred) (allowed : (judging consumer).allowed docket effect)
    (speaks : verdictOf effect = some verdict) : verdict.Refused := by
  cases effect with
  | xaddApproved order correlationId =>
      obtain ⟨message, rest, signal, rfl, _⟩ := allowed
      exact barred.elim
  | xaddRejected entry =>
      obtain rfl := Option.some.inj speaks
      obtain ⟨message, rest, signal, rfl | ⟨rfl, reason⟩, _⟩ := allowed
      · exact barred.elim
      · exact reason
  | _ => simp [verdictOf] at speaks

theorem refused_concat {lookers : Pid → Prop} {trace : List (RiskLabel Pid)}
    (held : Saturated consumer lookers trace world dockets) {label : RiskLabel Pid}
    (said : ∀ pid effect reply verdict, label = .answer pid effect reply →
      verdictOf effect = some verdict → verdict.Refused ∨ lookers pid ∧ Undecided pid trace)
    {earlier rest : List (RiskLabel Pid)} {pid : Pid} {effect : RiskEffect}
    {reply : Except PyError effect.Reply} {verdict : Verdict}
    (split : trace ++ [label] = earlier ++ .answer pid effect reply :: rest)
    (speaks : verdictOf effect = some verdict) :
    verdict.Refused ∨ lookers pid ∧ Undecided pid earlier := by
  rcases List.eq_nil_or_concat' rest with rfl | ⟨before, last, rfl⟩
  · obtain ⟨rfl, same⟩ := List.append_inj' split rfl
    exact said pid effect reply verdict (List.singleton_inj.mp same) speaks
  · rw [← List.cons_append, ← List.append_assoc] at split
    exact held.refused _ _ _ _ before _ (List.append_inj' split rfl).1 speaks

variable [DecidableEq Pid]

theorem Sighted.move {trace : List (RiskLabel Pid)} {docket : Option Docket}
    (sighted : Sighted consumer trace dockets) (label : RiskLabel Pid) (pid : Pid)
    (here : ∀ later, docket = some later →
      later.Barred ∨ SawRoom consumer pid (trace ++ [label])) :
    Sighted consumer (trace ++ [label]) (Function.update dockets pid docket) := by
  intro other later current
  by_cases same : other = pid
  · subst same
    exact here later (by simpa using current)
  · exact (sighted other later (by simpa [same] using current)).imp_right fun saw =>
      saw.append_right [label]

theorem Sighted.step {trace : List (RiskLabel Pid)} {label : RiskLabel Pid}
    (sighted : Sighted consumer trace dockets)
    (moved : (judging consumer).Moves consumer.system world dockets label after) :
    Sighted consumer (trace ++ [label]) ((judging consumer).track dockets label) := by
  cases moved with
  | start pid request idle =>
      refine sighted.move _ pid ?_
      rintro later ⟨rfl⟩
      cases request <;> exact .inl trivial
  | answer pid docket effect reply after current allowed answered =>
      simp only [Discipline.track, current, Option.map_some]
      refine sighted.move _ pid ?_
      rintro later ⟨rfl⟩
      rcases sighted pid docket current with barred | saw
      · exact (barred_or_sawRoom pid barred allowed).imp_right fun saw => saw.append_left trace
      · exact .inr (saw.append_right _)
  | finish pid docket current finished => exact sighted.move _ pid (by simp)
  | fail pid docket error current failed => exact sighted.move _ pid (by simp)
  | crash pid docket current => exact sighted.move _ pid (by simp)
  | environment event after happened =>
      exact fun pid docket current => (sighted pid docket current).imp_right fun saw =>
        saw.append_right _

theorem Saturated.move {lookers : Pid → Prop} {trace : List (RiskLabel Pid)}
    {docket : Option Docket} (held : Saturated consumer lookers trace world dockets)
    {label : RiskLabel Pid} {pid : Pid}
    (full : consumer.settings.maxOpenPositions ≤ (after.openPositions.rows.length : ℤ))
    (own : ∀ other, Decides other label → other = pid)
    (here : ∀ later, docket = some later →
      later.Barred ∨ lookers pid ∧ Undecided pid (trace ++ [label]))
    (said : ∀ pid effect reply verdict, label = .answer pid effect reply →
      verdictOf effect = some verdict → verdict.Refused ∨ lookers pid ∧ Undecided pid trace) :
    Saturated consumer lookers (trace ++ [label]) after (Function.update dockets pid docket) where
  full := full
  barred other later current := by
    by_cases same : other = pid
    · subst same
      exact here later (by simpa using current)
    · refine (held.barred other later (by simpa [same] using current)).imp_right fun roomy => ?_
      exact ⟨roomy.1, roomy.2.concat fun decides => same (own other decides)⟩
  refused _ _ _ _ _ _ split speaks := refused_concat held said split speaks

theorem Saturated.pass {lookers : Pid → Prop} {trace : List (RiskLabel Pid)}
    {docket : Option Docket} (held : Saturated consumer lookers trace world dockets)
    {label : RiskLabel Pid} {pid : Pid}
    (silent : ∀ pid effect reply, label ≠ .answer pid effect reply)
    (barred : ∀ later, docket = some later → later.Barred) :
    Saturated consumer lookers (trace ++ [label]) world (Function.update dockets pid docket) := by
  refine held.move held.full (fun other decides => ?_) (fun later same => .inl (barred later same))
    fun pid effect reply _ same => absurd same (silent pid effect reply)
  cases label with
  | answer pid effect reply => exact absurd rfl (silent pid effect reply)
  | _ => exact decides.elim

theorem Saturated.step {lookers : Pid → Prop} {trace : List (RiskLabel Pid)}
    {label : RiskLabel Pid} (held : Saturated consumer lookers trace world dockets)
    (unreleased : Unreleased label)
    (moved : (judging consumer).Moves consumer.system world dockets label after) :
    Saturated consumer lookers (trace ++ [label]) after
      ((judging consumer).track dockets label) := by
  cases moved with
  | start pid request idle =>
      refine held.pass (by simp) ?_
      rintro later ⟨rfl⟩
      cases request <;> trivial
  | answer pid docket effect reply after current allowed answered =>
      simp only [Discipline.track, current, Option.map_some]
      have grown := registry_grows unreleased answered
      have full := held.full
      have unseen : ¬SawRoom consumer pid [.answer pid effect reply] := sees_full full answered
      refine held.move (by omega) (fun other decides => decides.1.symm) ?_ ?_
      · rintro later ⟨rfl⟩
        by_cases barred : docket.Barred
        · exact .inl ((barred_or_sawRoom pid barred allowed).resolve_right unseen)
        · obtain ⟨looked, undecided⟩ := (held.barred pid docket current).resolve_left barred
          exact (barred_or_undecided pid barred allowed).imp_right fun waits =>
            ⟨looked, undecided.concat waits⟩
      · intro speaker spoken answer verdict same speaks
        cases same
        exact (held.barred pid docket current).imp_left fun barred =>
          refused_of_barred barred allowed speaks
  | finish pid docket current finished => exact held.pass (by simp) (by simp)
  | fail pid docket error current failed => exact held.pass (by simp) (by simp)
  | crash pid docket current => exact held.pass (by simp) (by simp)
  | environment event after happened =>
      cases event with
      | publish message =>
          obtain rfl := Option.some.inj happened
          refine ⟨held.full, fun pid docket current => ?_, fun _ _ _ _ _ _ => ?_⟩
          · exact (held.barred pid docket current).imp_right fun roomy =>
              ⟨roomy.1, roomy.2.concat id⟩
          · exact refused_concat held (by simp)

/-- Once the registry holds `max_open_trades` positions, and as long as nobody releases one, it
stays full, and every verdict is the rejection for it, but for the first one of a replica that had
seen room before and has not looked again. -/
theorem full_registry_stays_full (consumer : RiskConsumer) {before later : List (RiskLabel Pid)}
    {world : RiskWorld} {middle after : RiskConfig Pid}
    (filled : consumer.system.run (RiskConfig.idle world) before = some middle)
    (full : consumer.settings.maxOpenPositions ≤ (middle.world.openPositions.rows.length : ℤ))
    (unreleased : ∀ label ∈ later, Unreleased label)
    (ran : consumer.system.run middle later = some after) :
    consumer.settings.maxOpenPositions ≤ (after.world.openPositions.rows.length : ℤ) ∧
    ∀ earlier pid effect reply rest verdict,
      later = earlier ++ .answer pid effect reply :: rest → verdictOf effect = some verdict →
        verdict.Refused ∨ SawRoom consumer pid before ∧ Undecided pid earlier := by
  have assumes (dockets : Pid → Option Docket) (trace : List (RiskLabel Pid)) :
      (judging consumer).Assumes dockets trace :=
    Discipline.assumes_of_forall (fun _ _ _ _ _ => trivial) fun _ _ _ => trivial
  have looks : ∀ trace (world : RiskWorld) dockets (label : RiskLabel Pid) after,
      Sighted consumer trace dockets → True →
      (judging consumer).Moves consumer.system world dockets label after →
      Sighted consumer (trace ++ [label]) ((judging consumer).track dockets label) :=
    fun _ _ _ _ _ sighted _ moved => sighted.step moved
  have each : ∀ trace world dockets (label : RiskLabel Pid) after,
      Saturated consumer (SawRoom consumer · before) trace world dockets → Unreleased label →
      (judging consumer).Moves consumer.system world dockets label after →
      Saturated consumer (SawRoom consumer · before) (trace ++ [label]) after
        ((judging consumer).track dockets label) :=
    fun _ _ _ _ _ held unreleased moved => held.step unreleased moved
  have matched := Discipline.matches_run entry_judges (Discipline.matches_initial world)
    (assumes _ before) filled
  have sighted := Discipline.run_recorded entry_judges looks (Discipline.matches_initial world)
    (nofun : Sighted consumer [] fun _ : Pid => none) (assumes _ before) (fun _ _ => trivial) filled
  simp only [List.foldl_append_eq_append, List.nil_append, ← List.flatMap_def,
    List.flatMap_singleton'] at sighted
  have start : Saturated consumer (SawRoom consumer · before) [] middle.world
      ((judging consumer).trackAll (fun _ => none) before) :=
    ⟨full, fun pid docket current => (sighted pid docket current).imp_right fun saw =>
      ⟨saw, List.forall_mem_nil _⟩,
      fun _ _ _ _ _ _ split => absurd split.symm (by simp)⟩
  have saturated := Discipline.run_recorded entry_judges each matched start (assumes _ later)
    unreleased ran
  simp only [List.foldl_append_eq_append, List.nil_append, ← List.flatMap_def,
    List.flatMap_singleton'] at saturated
  exact ⟨saturated.full, saturated.refused⟩

end Full

namespace Sample

def turnedAway (id : String) : SignalRejection where
  signalId := id
  symbol := "Volatility 75 Index"
  direction := .buy
  rejectedReason := "max_open_trades_reached"
  detail := "exposure limits reached"
  correlationId := "c-1"

def refusing {Pid : Type} (pid : Pid) (messageId id : String) (seen : List (OpenPosition ℚ)) :
    List (RiskLabel Pid) :=
  [.answer pid (.get accountKey) (.ok (some accountText)),
   .answer pid .hgetall (.ok seen),
   .answer pid (.xaddRejected (turnedAway id)) (.ok ()),
   .answer pid (.xack messageId) (.ok ()), .finish pid]

def filling : List (RiskLabel Unit) :=
  delivering () "1-0" "a" ++ approving () "a" [] ++
    [.answer () (.hset (position "a")) (.ok ()), .answer () (.xack "1-0") (.ok ()), .finish ()]

def turning : List (RiskLabel Unit) :=
  delivering () "2-0" "b" ++ refusing () "2-0" "b" [position "a"]

end Sample

theorem full_registry_stays_full_one :
    ∃ middle after : RiskConfig Unit,
      (Sample.consumer 1).system.run (RiskConfig.idle {}) Sample.filling = some middle ∧
      (Sample.consumer 1).system.run middle Sample.turning = some after ∧
      (verdicts Sample.turning).map Verdict.signalId = ["b"] ∧
      1 ≤ after.world.openPositions.rows.length := by
  have ran : (((Sample.consumer 1).system.run (RiskConfig.idle {}) Sample.filling).bind
      fun middle => ((Sample.consumer 1).system.run middle Sample.turning).map fun _ =>
        middle.world.openPositions.rows.length) = some 1 := by
    decide +kernel
  obtain ⟨middle, filled, rest⟩ := Option.bind_eq_some_iff.mp ran
  obtain ⟨after, reached, one⟩ := Option.map_eq_some_iff.mp rest
  refine ⟨middle, after, filled, reached, by decide +kernel, ?_⟩
  have full : (Sample.consumer 1).settings.maxOpenPositions ≤
      (middle.world.openPositions.rows.length : ℤ) := by
    rw [one]
    decide
  have stays : (1 : ℤ) ≤ after.world.openPositions.rows.length :=
    (full_registry_stays_full (Sample.consumer 1) filled full
      (by simp [Sample.turning, Sample.delivering, Sample.refusing, Unreleased]) reached).1
  exact_mod_cast stays

end Risk

end Vix75
