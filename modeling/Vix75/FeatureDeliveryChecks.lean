import Vix75.FeatureConsumer
import Vix75.ProgramRuns

/-! The entries of `ohlcv.update` over every endless run of their consumer: which ones are
acknowledged, which are left pending, and which one ends it. -/

namespace Vix75

open EffectProgram EffectProgram.Prog.Loop

namespace Feature

structure Processing (F : Type) where
  bars : Except PyError (List (Bar F))
  mint : ℕ → String
  upserted : Except PyError Unit
  published : Except PyError Unit

abbrev Pattern (F : Type) := String → ℕ → Processing F

/-- The group's side of the stream. `attempts` are the deliveries that were to be processed, in
that order. -/
structure ConsumerGroup where
  delivered : List Message := []
  pending : List (String × ℕ) := []
  acked : List String := []
  deadLetters : List Fields := []
  attempts : List (String × ℕ) := []

namespace ConsumerGroup

variable {F : Type} (pattern : Pattern F) (group : ConsumerGroup)

def deliver (messages : List Message) : ConsumerGroup :=
  { group with
    delivered := group.delivered ++ messages
    pending := group.pending ++ messages.map fun message => (message.id, 1) }

def ack (messageId : String) : ConsumerGroup :=
  { group with
    pending := group.pending.filter (·.1 ≠ messageId)
    acked := group.acked ++ [messageId] }

def attempt (messageId : String) : ConsumerGroup :=
  { group with
    attempts := group.attempts ++ [(messageId, (group.pending.lookup messageId).getD 1)] }

def processing : Processing F :=
  let current := group.attempts.getLast?.getD ("", 1)
  pattern current.1 current.2

/-- Redis hands out any entries with new ids or fails to; processing is answered by the pattern. -/
def Answers : ConsumerGroup → (effect : FeatureEffect F) → Except PyError effect.Reply →
    ConsumerGroup → Prop
  | group, .xreadgroup count, .ok messages, after => messages.length ≤ count ∧
      ((group.delivered ++ messages).map Message.id).Nodup ∧ after = group.deliver messages
  | group, .xreadgroup _, .error _, after => after = group
  | group, .xgroupCreate, reply, after =>
      (reply = .ok () ∨ reply = .error .busyGroup) ∧ after = group
  | group, .xack messageId, reply, after => reply = .ok () ∧ after = group.ack messageId
  | group, .sleep _, reply, after => reply = .ok () ∧ after = group
  | group, .uuid4, reply, after => (∃ id, reply = .ok id) ∧ after = group
  | group, .xpendingRange messageId, reply, after =>
      reply = .ok (group.pending.lookup messageId) ∧ after = group.attempt messageId
  | group, .fetchBars _ _ _, reply, after =>
      reply = (group.processing pattern).bars ∧ after = group
  | group, .zoneIds, reply, after => reply = .ok (group.processing pattern).mint ∧ after = group
  | group, .upsertFeatureRow _, reply, after =>
      reply = (group.processing pattern).upserted ∧ after = group
  | group, .xaddComputed _ _ _ _, reply, after =>
      reply = (group.processing pattern).published ∧ after = group
  | group, .xaddDeadLetter entry, reply, after =>
      reply = .ok () ∧ after = { group with deadLetters := group.deadLetters ++ [entry] }

theorem answers_exist (effect : FeatureEffect F) :
    ∃ reply after, Answers pattern group effect reply after := by
  cases effect with
  | xgroupCreate => exact ⟨_, _, .inl rfl, rfl⟩
  | xreadgroup count => exact ⟨.error .noGroup, group, rfl⟩
  | uuid4 => exact ⟨_, _, ⟨"", rfl⟩, rfl⟩
  | _ => exact ⟨_, _, rfl, rfl⟩

theorem correlationId_quiet (decoded : Fields) :
    Prog.Quiet (Answers pattern) (getOrCreateCorrelationId decoded) := by
  unfold getOrCreateCorrelationId
  split
  · exact Prog.quiet_done _
  · exact Prog.quiet_perform fun _ _ _ answered => ⟨_, answered.1.choose_spec, answered.2⟩

theorem ensureGroup_quiet : Prog.Quiet (Answers pattern) ensureGroup := by
  intro group result after ran
  rcases Prog.runs_rescue.mp ran with ⟨_, created, rfl⟩ | ⟨error, middle, tried, recovered⟩
  · exact ⟨_, rfl, (Prog.runs_perform.mp created).2⟩
  · obtain ⟨ok | busy, rfl⟩ := Prog.runs_perform.mp tried
    · cases ok
    · obtain rfl := Except.error.inj busy
      exact ⟨_, recovered⟩

theorem processing_attempt {messageId : String}
    (found : group.pending.lookup messageId = some 1) :
    (group.attempt messageId).processing pattern = pattern messageId 1 := by
  simp [processing, attempt, found]

variable {pattern group} {after : ConsumerGroup}

theorem deliveryCount_bind {messageId : String} {next : ℕ → Program F Unit}
    {result : Except PyError Unit} (found : group.pending.lookup messageId = some 1)
    (ran : Prog.Runs (Answers pattern) group (deliveryCount messageId >>= next) result after) :
    Prog.Runs (Answers pattern) (group.attempt messageId) (next 1) result after := by
  have counted {result : Except PyError ℕ} {after : ConsumerGroup}
      (ran : Prog.Runs (Answers pattern) group (deliveryCount messageId) result after) :
      result = .ok 1 ∧ after = group.attempt messageId := by
    unfold deliveryCount at ran
    rcases Prog.runs_perform_bind.mp ran with ⟨count, _, ⟨answered, same⟩, ran⟩ |
      ⟨_, ⟨failed, _⟩, _⟩
    · rw [Except.ok.inj answered, found, same] at ran
      exact ran
    · cases failed
  rcases Prog.runs_bind.mp ran with ⟨_, _, first, later⟩ | ⟨_, failed, _⟩
  · obtain ⟨same, rfl⟩ := counted first
    obtain rfl := Except.ok.inj same
    exact later
  · cases (counted failed).1

theorem readBatch_runs {result : Except PyError (List Message)}
    (fresh : (group.delivered.map Message.id).Nodup)
    (ran : Prog.Runs (Answers pattern) group readBatch result after) :
    ∃ messages, result = .ok messages ∧ after = group.deliver messages ∧
      ((group.delivered ++ messages).map Message.id).Nodup := by
  have nothing : ∃ messages, Except.ok (ε := PyError) ([] : List Message) = .ok messages ∧
      group = group.deliver messages ∧ ((group.delivered ++ messages).map Message.id).Nodup :=
    ⟨[], rfl, by simp [deliver], by simpa using fresh⟩
  rcases Prog.runs_rescue.mp ran with ⟨messages, read, rfl⟩ | ⟨error, middle, tried, recovered⟩
  · obtain ⟨_, distinct, rfl⟩ := Prog.runs_perform.mp read
    exact ⟨messages, rfl, rfl, distinct⟩
  · obtain rfl : middle = group := Prog.runs_perform.mp tried
    split at recovered
    · obtain ⟨_, rfl, rfl⟩ := recovered.bind_quiet (ensureGroup_quiet pattern)
      exact nothing
    · have slept : Prog.Quiet (Answers pattern) (await (.sleep 2)) :=
        Prog.quiet_perform fun _ _ _ answered => ⟨(), answered⟩
      obtain ⟨_, rfl, rfl⟩ := recovered.bind_quiet slept
      exact nothing

end ConsumerGroup

open ConsumerGroup

section Consumer

variable {F : Type} [Add F] [Sub F] [Mul F] [Div F] [LT F] [LE F] [DecidableLT F] [DecidableLE F]
variable [DecidableEq F] [PyMath F]

/-- Whether processing returns: no command fails, and the bars make a snapshot if they are
enough. -/
def Processing.succeeds (replies : Processing F) (numerics : Numerics F)
    (symbol timeframe : String) : Bool :=
  match replies.bars with
  | .error _ => false
  | .ok bars => bars.length < minBars ∨
      (snapshotFromBars numerics replies.mint bars symbol timeframe).isOk ∧
        replies.upserted.isOk ∧ replies.published.isOk

theorem processBarEvent_runs (consumer : FeatureConsumer F) {pattern : Pattern F}
    {group after : ConsumerGroup} {symbol timeframe correlationId : String}
    {result : Except PyError Unit}
    (ran : Prog.Runs (Answers pattern) group
      (consumer.processBarEvent symbol timeframe correlationId) result after) :
    result.isOk = (group.processing pattern).succeeds consumer.numerics symbol timeframe ∧
      after = group := by
  unfold FeatureConsumer.processBarEvent at ran
  unfold Processing.succeeds
  rcases Prog.runs_perform_bind.mp ran with ⟨bars, _, ⟨fetched, same⟩, ran⟩ |
    ⟨error, ⟨failed, same⟩, rfl⟩
  · rw [same] at ran
    rw [← fetched]
    split at ran
    · rename_i short
      obtain ⟨rfl, rfl⟩ := ran
      simp [short, Except.isOk, Except.toBool]
    · rename_i long
      rcases Prog.runs_perform_bind.mp ran with ⟨mint, _, ⟨minted, same⟩, ran⟩ |
        ⟨_, ⟨failed, _⟩, _⟩
      · rw [same, Except.ok.inj minted] at ran
        cases taken : snapshotFromBars consumer.numerics (group.processing pattern).mint bars
            symbol timeframe with
        | error error =>
            rw [taken] at ran
            obtain ⟨rfl, rfl⟩ := ran
            simp [long, taken, Except.isOk, Except.toBool]
        | ok snapshot =>
            rw [taken] at ran
            rcases Prog.runs_perform_bind.mp ran with ⟨_, _, ⟨upserted, same⟩, ran⟩ |
              ⟨error, ⟨failed, same⟩, rfl⟩
            · rw [same] at ran
              obtain ⟨published, same⟩ := Prog.runs_perform.mp ran
              simp [long, taken, ← upserted, ← published, same, Except.isOk, Except.toBool]
            · simp [long, taken, ← failed, same, Except.isOk, Except.toBool]
      · cases failed
  · rw [← failed]
    exact ⟨rfl, same⟩

def symbolOf (message : Message) : String := (message.fields.get? "symbol").getD ""

def timeframeOf (message : Message) : String := (message.fields.get? "timeframe").getD ""

def Malformed (message : Message) : Prop :=
  symbolOf message = "" ∨ timeframeOf message = "" ∨ message.fields.get? "ts" = none

instance (message : Message) : Decidable (Malformed message) :=
  inferInstanceAs (Decidable (_ ∨ _ ∨ _))

def Pattern.succeeds (pattern : Pattern F) (numerics : Numerics F) (message : Message)
    (delivery : ℕ) : Bool :=
  (pattern message.id delivery).succeeds numerics (symbolOf message) (timeframeOf message)

def firstDeliveries (messages : List Message) : List (String × ℕ) :=
  messages.map fun message => (message.id, 1)

theorem lookup_firstDeliveries {messages : List Message} {message : Message}
    (member : message ∈ messages) : (firstDeliveries messages).lookup message.id = some 1 := by
  induction messages with
  | nil => cases member
  | cons first rest ih =>
      rw [firstDeliveries, List.map_cons, List.lookup_cons]
      split
      · rfl
      · rename_i different
        rcases List.mem_cons.mp member with rfl | later
        · simp at different
        · exact ih later

section Handling

variable (numerics : Numerics F) (pattern : Pattern F)

def standing (before rest : List Message) : ConsumerGroup where
  delivered := before ++ rest
  pending := firstDeliveries
    ((before.filter fun message => !pattern.succeeds numerics message 1) ++ rest)
  acked := (before.filter fun message => pattern.succeeds numerics message 1).map Message.id
  attempts := firstDeliveries before

theorem standing_nil : standing numerics pattern [] [] = {} := rfl

variable {numerics pattern}

theorem deliver_standing (before messages : List Message) :
    (standing numerics pattern before []).deliver messages =
      standing numerics pattern before messages := by
  simp [standing, deliver, firstDeliveries]

variable {before rest : List Message} {message : Message}

theorem attempt_standing : (standing numerics pattern before (message :: rest)).attempt message.id =
    { standing numerics pattern before (message :: rest) with
      attempts := firstDeliveries (before ++ [message]) } := by
  have found : (standing numerics pattern before (message :: rest)).pending.lookup message.id =
      some 1 := lookup_firstDeliveries (by simp)
  rw [attempt, found]
  simp [standing, firstDeliveries]

theorem firstDeliveries_erase {others : List Message}
    (distinct : ((message :: others).map Message.id).Nodup) :
    (firstDeliveries others).filter (·.1 ≠ message.id) = firstDeliveries others := by
  rw [List.filter_eq_self]
  rintro ⟨id, count⟩ member
  obtain ⟨other, among, same⟩ := List.mem_map.mp member
  obtain ⟨rfl, rfl⟩ := Prod.mk.inj same
  have absent := (List.nodup_cons.mp distinct).1
  simp only [List.mem_map, not_exists, not_and] at absent
  simpa using absent other among

theorem ack_standing (distinct : ((before ++ message :: rest).map Message.id).Nodup)
    (succeeds : pattern.succeeds numerics message 1 = true) :
    ((standing numerics pattern before (message :: rest)).attempt message.id).ack message.id =
      standing numerics pattern (before ++ [message]) rest := by
  let failed := before.filter fun message => !pattern.succeeds numerics message 1
  have apart : ((message :: (failed ++ rest)).map Message.id).Nodup := by
    refine (distinct.perm ((List.perm_middle.map _))).sublist ?_
    exact ((List.filter_sublist.append_right rest).cons_cons message).map _
  have kept := firstDeliveries_erase apart
  have erased : (firstDeliveries (failed ++ message :: rest)).filter (·.1 ≠ message.id) =
      firstDeliveries (failed ++ rest) := by
    rw [← kept]
    simp [firstDeliveries]
  rw [attempt_standing, ConsumerGroup.ack]
  simpa [standing, List.filter_append, succeeds, failed] using erased

theorem left_standing (fails : pattern.succeeds numerics message 1 = false) :
    (standing numerics pattern before (message :: rest)).attempt message.id =
      standing numerics pattern (before ++ [message]) rest := by
  rw [attempt_standing]
  simp [standing, List.filter_append, fails]

variable {group after : ConsumerGroup} {result : Except PyError Unit}

theorem handle_malformed (malformed : Malformed message)
    (ran : Prog.Runs (Answers pattern) group
      ((FeatureConsumer.mk numerics true).handle message) result after) :
    (∃ error, result = .error error) ∧ after = group := by
  unfold FeatureConsumer.handle at ran
  obtain ⟨correlationId, ran⟩ := ran.bind_quiet (correlationId_quiet pattern message.fields)
  change Prog.Runs _ _ (if Malformed message then _ else _) _ _ at ran
  rw [if_pos malformed] at ran
  obtain ⟨rfl, rfl⟩ := ran
  exact ⟨⟨_, rfl⟩, rfl⟩

theorem processed_runs {correlationId : String} {result : Except PyError Bool}
    (found : group.pending.lookup message.id = some 1)
    (ran : Prog.Runs (Answers pattern) (group.attempt message.id)
      ((do
        (FeatureConsumer.mk numerics true).processBarEvent (symbolOf message)
          (timeframeOf message) correlationId
        .done true : Program F Bool).rescue fun _ => do
          if maxDeliveries ≤ 1 then do
            (FeatureConsumer.mk numerics true).deadLetter message "max_deliveries"
            await (.xack message.id)
            .done false
          else .done false) result after) :
    result = .ok (pattern.succeeds numerics message 1) ∧ after = group.attempt message.id := by
  have outcome {result : Except PyError Unit} {after : ConsumerGroup}
      (ran : Prog.Runs (Answers pattern) (group.attempt message.id)
        ((FeatureConsumer.mk numerics true).processBarEvent (symbolOf message)
          (timeframeOf message) correlationId) result after) :
      pattern.succeeds numerics message 1 = result.isOk ∧ after = group.attempt message.id := by
    have processed := processBarEvent_runs _ ran
    rw [processing_attempt pattern group found] at processed
    exact ⟨processed.1.symm, processed.2⟩
  rcases Prog.runs_rescue.mp ran with ⟨_, returned, same⟩ | ⟨error, middle, raised, recovered⟩
  · obtain ⟨_, middle, first, ended, rfl⟩ := Prog.runs_bind_ok.mp returned
    obtain ⟨succeeds, kept⟩ := outcome first
    rw [succeeds, same, ended]
    exact ⟨rfl, kept⟩
  · rcases Prog.runs_bind.mp raised with ⟨_, _, _, ended, _⟩ | ⟨_, first, _⟩
    · cases ended
    · obtain ⟨fails, rfl⟩ := outcome first
      rw [fails]
      exact recovered

theorem handle_wellFormed (wellFormed : ¬Malformed message)
    (found : group.pending.lookup message.id = some 1)
    (ran : Prog.Runs (Answers pattern) group
      ((FeatureConsumer.mk numerics true).handle message) result after) :
    result = .ok () ∧ after =
      if pattern.succeeds numerics message 1 then (group.attempt message.id).ack message.id
      else group.attempt message.id := by
  unfold FeatureConsumer.handle at ran
  obtain ⟨correlationId, ran⟩ := ran.bind_quiet (correlationId_quiet pattern message.fields)
  change Prog.Runs _ _ (if Malformed message then _ else _) _ _ at ran
  rw [if_neg wellFormed] at ran
  have ran := deliveryCount_bind found ran
  rcases Prog.runs_bind.mp ran with ⟨processed, middle, first, later⟩ | ⟨error, failed, rfl⟩
  · obtain ⟨same, rfl⟩ := processed_runs found first
    obtain rfl := Except.ok.inj same
    split at later
    · rename_i succeeds
      obtain ⟨rfl, rfl⟩ := Prog.runs_perform.mp later
      exact ⟨rfl, by rw [if_pos succeeds]⟩
    · rename_i fails
      obtain ⟨rfl, rfl⟩ := later
      exact ⟨rfl, by rw [if_neg fails]⟩
  · cases (processed_runs found failed).1

theorem handle_standing (wellFormed : ¬Malformed message)
    (distinct : ((before ++ message :: rest).map Message.id).Nodup)
    (ran : Prog.Runs (Answers pattern) (standing numerics pattern before (message :: rest))
      ((FeatureConsumer.mk numerics true).handle message) result after) :
    result = .ok () ∧ after = standing numerics pattern (before ++ [message]) rest := by
  have found : (standing numerics pattern before (message :: rest)).pending.lookup message.id =
      some 1 := lookup_firstDeliveries (by simp)
  obtain ⟨rfl, rfl⟩ := handle_wellFormed wellFormed found ran
  refine ⟨rfl, ?_⟩
  split
  · rename_i succeeds
    exact ack_standing distinct succeeds
  · rename_i fails
    exact left_standing (by simpa using fails)

theorem forEach_standing (distinct : ((before ++ rest).map Message.id).Nodup)
    (ran : Prog.Runs (Answers pattern) (standing numerics pattern before rest)
      (Prog.forEach rest (FeatureConsumer.mk numerics true).handle) result after) :
    after.delivered = before ++ rest ∧
      (result = .ok () ∧ after = standing numerics pattern (before ++ rest) [] ∧
          (∀ message ∈ rest, ¬Malformed message) ∨
        (∃ error, result = .error error) ∧ ∃ message ∈ rest, Malformed message) := by
  induction rest generalizing before with
  | nil =>
      obtain ⟨rfl, rfl⟩ := ran
      exact ⟨rfl, .inl ⟨rfl, by rw [List.append_nil], by simp⟩⟩
  | cons message rest ih =>
      by_cases malformed : Malformed message
      · rcases Prog.runs_bind.mp ran with ⟨_, middle, first, _⟩ | ⟨error, failed, rfl⟩
        · obtain ⟨⟨error, same⟩, _⟩ := handle_malformed malformed first
          cases same
        · obtain ⟨_, rfl⟩ := handle_malformed malformed failed
          exact ⟨rfl, .inr ⟨⟨error, rfl⟩, message, by simp, malformed⟩⟩
      · rcases Prog.runs_bind.mp ran with ⟨_, middle, first, later⟩ | ⟨error, failed, _⟩
        · obtain ⟨_, rfl⟩ := handle_standing malformed distinct first
          rw [List.append_cons] at distinct
          obtain ⟨whole, outcome⟩ := ih distinct later
          rw [← List.append_cons] at whole outcome
          refine ⟨whole, outcome.imp ?_ ?_⟩
          · rintro ⟨returned, reached, wellFormed⟩
            exact ⟨returned, reached, List.forall_mem_cons.mpr ⟨malformed, wellFormed⟩⟩
          · rintro ⟨raised, other, member, bad⟩
            exact ⟨raised, other, List.mem_cons_of_mem _ member, bad⟩
        · cases (handle_standing malformed distinct failed).1

def Handled (numerics : Numerics F) (pattern : Pattern F) (group : ConsumerGroup) : Prop :=
  group = standing numerics pattern group.delivered [] ∧
    (group.delivered.map Message.id).Nodup ∧ ∀ message ∈ group.delivered, ¬Malformed message

def Stuck (group : ConsumerGroup) : Prop := ∃ message ∈ group.delivered, Malformed message

theorem poll_handled (handled : Handled numerics pattern group)
    (ran : Prog.Runs (Answers pattern) group (poll ⟨numerics, true⟩) result after) :
    result = .ok () ∧ Handled numerics pattern after ∨
      (∃ error, result = .error error) ∧ Stuck after := by
  obtain ⟨stands, distinct, wellFormed⟩ := handled
  rcases Prog.runs_bind.mp ran with ⟨_, middle, read, looped⟩ | ⟨_, failed, _⟩
  · obtain ⟨messages, same, rfl, distinct⟩ := readBatch_runs distinct read
    obtain rfl := Except.ok.inj same
    rw [stands, deliver_standing] at looped
    obtain ⟨whole, ⟨returned, reached, fine⟩ | ⟨raised, message, member, bad⟩⟩ :=
      forEach_standing distinct looped
    · refine .inl ⟨returned, ?_, ?_, ?_⟩
      · rw [whole, reached]
      · rw [whole]
        exact distinct
      · rw [whole]
        exact List.forall_mem_append.mpr ⟨wellFormed, fine⟩
    · exact .inr ⟨raised, message, by rw [whole]; exact List.mem_append_right _ member, bad⟩
  · obtain ⟨_, same, _⟩ := readBatch_runs distinct failed
    cases same

theorem delivered_kept (consumer : FeatureConsumer F) (message : Message) :
    Prog.Keeps (Answers pattern) (fun group => message ∈ group.delivered) (poll consumer) := by
  refine Prog.keeps_of_uses (Prog.uses_of_forall (fun _ => trivial) _) ?_
  intro effect _ group reply after member answered
  cases effect with
  | xreadgroup count =>
      cases reply with
      | error error => exact answered ▸ member
      | ok messages =>
          obtain ⟨_, _, rfl⟩ := answered
          exact List.mem_append_left _ member
  | _ =>
      obtain ⟨_, rfl⟩ := answered
      exact member

end Handling

/-! Endless runs -/

section Contract

variable {program : Program F Unit} {start : ConsumerGroup}

def Delivered {pattern : Pattern F} (run : Forever (Answers pattern) program start)
    (message : Message) : Prop :=
  ∃ time, message ∈ (run.state time).world.delivered

def deadLettered (message : Message) (reason : String) : Fields :=
  [("dlq_reason", reason), ("original_id", message.id)] ++ message.fields

/-- What is asked of the consumer: it goes on, dead-letters what is malformed, and reads an entry
again until one of its first three deliveries is processed. -/
structure Contract (numerics : Numerics F) (pattern : Pattern F)
    (run : Forever (Answers pattern) program start) : Prop where
  alive : ∀ time, ∃ group, run.state time = .going group
  malformed : ∀ message, Delivered run message → Malformed message →
    ∃ since, ∀ time, since ≤ time → (run.state time).world.acked.count message.id = 1 ∧
      (run.state time).world.deadLetters.count (deadLettered message "malformed") = 1
  redelivered : ∀ message, Delivered run message → ¬Malformed message →
    ∀ delivery, 1 ≤ delivery → delivery ≤ maxDeliveries →
      (∀ earlier, 1 ≤ earlier → earlier < delivery →
        pattern.succeeds numerics message earlier = false) →
      ∃ time, (message.id, delivery) ∈ (run.state time).world.attempts
  succeeded : ∀ message, Delivered run message → ¬Malformed message →
    (∃ delivery, 1 ≤ delivery ∧ delivery ≤ maxDeliveries ∧
      pattern.succeeds numerics message delivery = true) →
    ∃ time, message.id ∈ (run.state time).world.acked
  exhausted : ∀ message, Delivered run message → ¬Malformed message →
    (∀ delivery, 1 ≤ delivery → delivery ≤ maxDeliveries →
      pattern.succeeds numerics message delivery = false) →
    ∃ time, message.id ∈ (run.state time).world.acked ∧
      deadLettered message "max_deliveries" ∈ (run.state time).world.deadLetters
  released : ∀ time, ∀ entry ∈ (run.state time).world.pending,
    ∃ later, time ≤ later ∧ entry.1 ∉ (run.state later).world.pending.map Prod.fst

variable {numerics : Numerics F} {pattern : Pattern F}

theorem handled_or_stuck (run : Forever (Answers pattern) (poll ⟨numerics, true⟩) {}) (time : ℕ) :
    (∃ group, run.state time = .going group ∧ Handled numerics pattern group) ∨
      ∃ error group, run.state time = .ended error group ∧ Stuck group :=
  run.invariant (Handled numerics pattern) Stuck ⟨rfl, List.nodup_nil, by simp⟩
    (fun _ _ _ handled ran => poll_handled handled ran) time

theorem Handled.pending_of_fails {group : ConsumerGroup} {message : Message}
    (handled : Handled numerics pattern group) (member : message ∈ group.delivered)
    (fails : pattern.succeeds numerics message 1 = false) : (message.id, 1) ∈ group.pending := by
  rw [handled.1]
  exact List.mem_map.mpr ⟨message, by simp [member, fails], rfl⟩

theorem delivery_contract_iff (numerics : Numerics F) (pattern : Pattern F)
    (ensured : Prog.Runs (Answers pattern) {} ensureGroup (.ok ()) start)
    (run : Forever (Answers pattern) (poll ⟨numerics, true⟩) start) :
    Contract numerics pattern run ↔ ∀ message, Delivered run message →
      ¬Malformed message ∧ pattern.succeeds numerics message 1 = true := by
  obtain ⟨_, _, rfl⟩ := ensureGroup_quiet pattern _ _ _ ensured
  constructor
  · intro contract message ⟨time, member⟩
    have handled (time : ℕ) : Handled numerics pattern (run.state time).world := by
      rcases handled_or_stuck run time with ⟨group, here, held⟩ | ⟨error, group, here, _⟩
      · rwa [here]
      · obtain ⟨_, going⟩ := contract.alive time
        rw [here] at going
        cases going
    refine ⟨(handled time).2.2 message member, ?_⟩
    by_contra fails
    rw [Bool.not_eq_true] at fails
    obtain ⟨later, after, released⟩ :=
      contract.released time _ ((handled time).pending_of_fails member fails)
    have still := run.persists _ (delivered_kept _ message) after member
    exact released (List.mem_map_of_mem ((handled later).pending_of_fails still fails))
  · intro fine
    have reached (time : ℕ) : ∃ group, run.state time = .going group ∧
        group = standing numerics pattern group.delivered [] := by
      rcases handled_or_stuck run time with ⟨group, here, held⟩ |
        ⟨error, group, here, message, member, malformed⟩
      · exact ⟨group, here, held.1⟩
      · exact absurd malformed (fine message ⟨time, by rwa [here]⟩).1
    have first {message : Message} (member : Delivered run message) :
        ∃ time, (message.id, 1) ∈ (run.state time).world.attempts ∧
          message.id ∈ (run.state time).world.acked := by
      obtain ⟨time, here⟩ := member
      obtain ⟨group, state, stands⟩ := reached time
      have succeeds := (fine message ⟨time, here⟩).2
      rw [state] at here
      refine ⟨time, ?_⟩
      rw [state, Prog.Loop.world, stands]
      exact ⟨List.mem_map.mpr ⟨message, here, rfl⟩,
        List.mem_map.mpr ⟨message, List.mem_filter.mpr ⟨here, succeeds⟩, rfl⟩⟩
    refine ⟨fun time => ?_, fun message member bad => ?_, ?_, ?_, ?_, fun time entry pending => ?_⟩
    · obtain ⟨group, state, _⟩ := reached time
      exact ⟨group, state⟩
    · exact absurd bad (fine message member).1
    · intro message member _ delivery positive _ failing
      rcases Nat.lt_or_eq_of_le positive with later | rfl
      · have fails := failing 1 (le_refl 1) later
        rw [(fine message member).2] at fails
        cases fails
      · obtain ⟨time, attempted, _⟩ := first member
        exact ⟨time, attempted⟩
    · intro message member _ _
      obtain ⟨time, _, acked⟩ := first member
      exact ⟨time, acked⟩
    · intro message member _ failing
      have fails := failing 1 (le_refl 1) (by decide)
      rw [(fine message member).2] at fails
      cases fails
    · obtain ⟨group, state, stands⟩ := reached time
      rw [state, Prog.Loop.world, stands] at pending
      obtain ⟨message, among, _⟩ := List.mem_map.mp pending
      rw [List.append_nil] at among
      obtain ⟨here, fails⟩ := List.mem_filter.mp among
      rw [(fine message ⟨time, by rwa [state]⟩).2] at fails
      cases fails

theorem exists_poll (numerics : Numerics F) (pattern : Pattern F) {messages : List Message}
    (few : messages.length ≤ 16) (distinct : (messages.map Message.id).Nodup) :
    ∃ result after, Prog.Runs (Answers pattern) {} (poll ⟨numerics, true⟩) result after ∧
      after.delivered = messages ∧ (after.delivered.map Message.id).Nodup := by
  have read : Prog.Runs (Answers pattern) {} readBatch (.ok messages)
      (({} : ConsumerGroup).deliver messages) :=
    Prog.runs_rescue.mpr (.inl ⟨_, Prog.runs_perform.mpr ⟨few, distinct, rfl⟩, rfl⟩)
  obtain ⟨result, after, looped⟩ := Prog.exists_runs (answers_exist pattern)
    (Prog.forEach messages (FeatureConsumer.mk numerics true).handle)
    (({} : ConsumerGroup).deliver messages)
  refine ⟨result, after, Prog.runs_bind.mpr (.inl ⟨_, _, read, looped⟩), ?_⟩
  rw [← standing_nil numerics pattern, deliver_standing] at looped
  have listed : (([] ++ messages).map Message.id).Nodup := distinct
  obtain ⟨whole, _⟩ := forEach_standing listed looped
  rw [whole]
  exact ⟨rfl, distinct⟩

theorem exists_forever (numerics : Numerics F) (pattern : Pattern F) {messages : List Message}
    (few : messages.length ≤ 16) (distinct : (messages.map Message.id).Nodup) :
    ∃ run : Forever (Answers pattern) (poll ⟨numerics, true⟩) {},
      ∀ message, Delivered run message ↔ message ∈ messages := by
  obtain ⟨result, after, ran, whole, distinct⟩ := exists_poll numerics pattern few distinct
  have quiet : Prog.Runs (Answers pattern) after (poll ⟨numerics, true⟩) (.ok ()) after := by
    have read : Prog.Runs (Answers pattern) after readBatch (.ok []) after :=
      Prog.runs_rescue.mpr (.inl ⟨_, Prog.runs_perform.mpr
        ⟨by simp, by simpa using distinct, by simp [deliver]⟩, rfl⟩)
    exact Prog.runs_bind.mpr (.inl ⟨_, _, read, rfl, rfl⟩)
  have still : Step (Answers pattern) (poll ⟨numerics, true⟩) (turned result after)
      (turned result after) := by
    cases result with
    | ok _ => exact ⟨_, _, quiet, rfl⟩
    | error error => rfl
  have world : (turned result after).world.delivered = messages := by
    cases result <;> exact whole
  refine ⟨.settling ran still, fun message => ⟨?_, fun member => ⟨1, ?_⟩⟩⟩
  · rintro ⟨_ | time, member⟩
    · cases member
    · rw [← world]
      exact member
  · rw [← world] at member
    exact member

end Contract

end Consumer

namespace Sample

def shortHistory : Pattern ℚ := fun _ _ => ⟨.ok [], fun _ => "z", .ok (), .ok ()⟩

def barEvent : Message :=
  ⟨"1-0", [("symbol", "V75"), ("timeframe", "M5"), ("ts", "2024-01-01T00:00:00+00:00")]⟩

def untimed : Message := ⟨"2-0", [("symbol", "V75"), ("timeframe", "M5")]⟩

end Sample

theorem ensureGroup_created {F : Type} (pattern : Pattern F) :
    Prog.Runs (Answers pattern) {} ensureGroup (.ok ()) {} :=
  Prog.runs_rescue.mpr (.inl ⟨(), Prog.runs_perform.mpr ⟨.inl rfl, rfl⟩, rfl⟩)

theorem delivery_contract_met : ∃ run : Forever (Answers Sample.shortHistory)
    (poll ⟨Sample.approximate, true⟩) {}, Delivered run Sample.barEvent ∧
      Contract Sample.approximate Sample.shortHistory run := by
  have distinct : ([Sample.barEvent].map Message.id).Nodup := by decide
  obtain ⟨run, delivered⟩ :=
    exists_forever Sample.approximate Sample.shortHistory (by decide) distinct
  refine ⟨run, (delivered _).mpr (by simp), ?_⟩
  refine (delivery_contract_iff Sample.approximate Sample.shortHistory
    (ensureGroup_created _) run).mpr fun message member => ?_
  obtain rfl := List.mem_singleton.mp ((delivered message).mp member)
  decide +kernel

/-- An entry without a time ends the loop. -/
theorem delivery_contract_broken : ¬∀ (numerics : Numerics ℚ) (pattern : Pattern ℚ)
    (start : ConsumerGroup), Prog.Runs (Answers pattern) {} ensureGroup (.ok ()) start →
      ∀ run : Forever (Answers pattern) (poll ⟨numerics, true⟩) start,
        Contract numerics pattern run := by
  intro claim
  have distinct : ([Sample.untimed].map Message.id).Nodup := by decide
  obtain ⟨run, delivered⟩ :=
    exists_forever Sample.approximate Sample.shortHistory (by decide) distinct
  have contract := claim _ _ _ (ensureGroup_created Sample.shortHistory) run
  obtain ⟨time, member⟩ := (delivered Sample.untimed).mpr (by simp)
  rcases handled_or_stuck run time with ⟨group, here, held⟩ | ⟨error, group, here, _⟩
  · rw [here] at member
    exact held.2.2 _ member (by decide)
  · obtain ⟨_, going⟩ := contract.alive time
    rw [here] at going
    cases going

end Feature

end Vix75
