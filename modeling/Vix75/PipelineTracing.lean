import Vix75.PipelineChecks
import Vix75.RiskVerdicts

/-! Correlation ids from an announced bar to the verdict of the risk gate, in any run of any
number of replicas of the services in between. -/

namespace Vix75

open EffectProgram

namespace Pipeline

/-- An id that a handler of the entry goes on with. -/
def Passes (message : Message) (correlationId : String) : Prop :=
  message.fields.correlationId = none ∨ message.fields.correlationId = some correlationId

def symbolOf (message : Message) : String := (message.fields.get? "symbol").getD ""

def timeframeOf (message : Message) : String := (message.fields.get? "timeframe").getD ""

theorem passes_of_carried {Effect : Type} {Reply : Effect → Type} {message : Message}
    (program : Prog Effect Reply PyError String)
    (carried : ∀ raw, message.fields.correlationId = some raw → program = .done raw) :
    program.Yields (Passes message) := by
  cases own : message.fields.correlationId with
  | none => exact (Prog.yields_trivial program).mono fun _ _ => .inl own
  | some raw =>
      rw [carried raw own]
      exact .inr own

inductive Batch where
  | bars (messages : List Message)
  | rows (messages : List Message)
  | signals (messages : List Message)

def relayingBars :
    Discipline (FeatureEffect ℚ) FeatureEffect.Reply PyError Unit (List Message) where
  initial := fun _ => []
  allowed := fun batch effect => match effect with
    | .xaddComputed symbol timeframe _ correlationId => ∃ message ∈ batch,
        Passes message correlationId ∧ symbol = symbolOf message ∧ timeframe = timeframeOf message
    | _ => True
  advance := fun batch effect reply => match effect, reply with
    | .xreadgroup _, .ok messages => messages
    | _, _ => batch

/-- What the handler of one bar event may do. -/
def RelaysBar (message : Message) : FeatureEffect ℚ → Prop
  | .xreadgroup _ => False
  | .xaddComputed symbol timeframe _ correlationId =>
      Passes message correlationId ∧ symbol = symbolOf message ∧ timeframe = timeframeOf message
  | _ => True

theorem relaysBar_inert {message : Message} {batch : List Message} (member : message ∈ batch)
    (effect : FeatureEffect ℚ) (relays : RelaysBar message effect) :
    relayingBars.allowed batch effect ∧
      ∀ reply, relayingBars.assumed batch effect reply →
        relayingBars.advance batch effect reply = batch := by
  cases effect with
  | xreadgroup count => exact relays.elim
  | xaddComputed symbol timeframe ts correlationId =>
      exact ⟨⟨message, member, relays⟩, fun _ _ => rfl⟩
  | _ => exact ⟨trivial, fun _ _ => rfl⟩

theorem processBarEvent_relays (consumer : Feature.FeatureConsumer ℚ) {message : Message}
    {correlationId : String} (passes : Passes message correlationId) :
    (consumer.processBarEvent (symbolOf message) (timeframeOf message) correlationId).Uses
      (RelaysBar message) := by
  refine Prog.uses_bind (Prog.uses_perform trivial) fun bars => ?_
  split
  · trivial
  · refine Prog.uses_bind (Prog.uses_perform trivial) fun mint => ?_
    refine Prog.uses_bind (Prog.uses_ofExcept _) fun snapshot => ?_
    refine Prog.uses_bind (Prog.uses_perform trivial) fun _ => ?_
    exact Prog.uses_perform ⟨passes, rfl, rfl⟩

theorem deadLetter_relays (consumer : Feature.FeatureConsumer ℚ) (message : Message)
    (reason : String) : (consumer.deadLetter message reason).Uses (RelaysBar message) := by
  unfold Feature.FeatureConsumer.deadLetter
  split
  · trivial
  · exact Prog.uses_bind (Prog.uses_perform trivial) fun _ => Prog.uses_perform trivial

theorem feature_handle_relays (consumer : Feature.FeatureConsumer ℚ) {message : Message}
    {batch : List Message} (member : message ∈ batch) :
    relayingBars.wp batch (consumer.handle message) (fun after _ => after = batch)
      (fun after _ => after = batch) := by
  have minted : (Feature.getOrCreateCorrelationId message.fields : Feature.Program ℚ String).Uses
      (RelaysBar message) := by
    unfold Feature.getOrCreateCorrelationId
    split
    · trivial
    · exact Prog.uses_perform trivial
  have passes : (Feature.getOrCreateCorrelationId message.fields : Feature.Program ℚ String).Yields
      (Passes message) :=
    passes_of_carried _ fun raw own => by simp [Feature.getOrCreateCorrelationId, own]
  refine Discipline.wp_seq _ (Discipline.wp_of_yields minted passes (relaysBar_inert member)) ?_
  rintro after correlationId ⟨rfl, passes⟩
  refine Discipline.wp_of_uses ?_ (relaysBar_inert member)
  dsimp only
  split
  · exact deadLetter_relays consumer message _
  · refine Prog.uses_bind ?_ fun deliveries => Prog.uses_bind ?_ fun processed => ?_
    · unfold Feature.deliveryCount
      refine Prog.uses_bind (Prog.uses_perform trivial) fun pending => ?_
      split <;> trivial
    · refine Prog.uses_rescue (Prog.uses_bind (processBarEvent_relays consumer passes)
        fun _ => trivial) fun error => ?_
      split
      · exact Prog.uses_bind (deadLetter_relays consumer message _) fun _ =>
          Prog.uses_bind (Prog.uses_perform trivial) fun _ => trivial
      · trivial
    · split
      · exact Prog.uses_perform trivial
      · trivial

def QuietBar : FeatureEffect ℚ → Prop
  | .xreadgroup _ | .xaddComputed _ _ _ _ => False
  | _ => True

theorem quietBar_inert (batch : List Message) (effect : FeatureEffect ℚ)
    (quiet : QuietBar effect) : relayingBars.allowed batch effect ∧
      ∀ reply, relayingBars.assumed batch effect reply →
        relayingBars.advance batch effect reply = batch := by
  cases effect <;> first | exact quiet.elim | exact ⟨trivial, fun _ _ => rfl⟩

theorem feature_ensureGroup_quiet :
    (Feature.ensureGroup : Feature.Program ℚ Unit).Uses QuietBar := by
  refine Prog.uses_rescue (Prog.uses_perform trivial) fun error => ?_
  cases error <;> trivial

theorem feature_readBatch_relays :
    relayingBars.wp [] Feature.readBatch (fun after messages => after = messages)
      (fun _ _ => True) := by
  unfold Feature.readBatch
  rw [Discipline.wp_rescue, Discipline.wp_perform]
  refine ⟨trivial, fun _ _ => rfl, fun error _ => ?_⟩
  change relayingBars.wp [] _ _ _
  cases error with
  | noGroup =>
      refine Discipline.wp_seq (fun after _ => after = []) ?_ ?_
      · exact Discipline.wp_mono (Discipline.wp_of_uses feature_ensureGroup_quiet
          (quietBar_inert [])) (fun _ _ same => same) fun _ _ _ => trivial
      · rintro after _ rfl
        rfl
  | _ => exact Discipline.wp_perform_bind trivial (fun _ _ => trivial) fun _ _ => rfl

theorem poll_relays (consumer : Feature.FeatureConsumer ℚ) :
    relayingBars.wp [] (Feature.poll consumer) (fun _ _ => True) (fun _ _ => True) := by
  refine Discipline.wp_seq _ feature_readBatch_relays ?_
  rintro batch messages rfl
  exact Discipline.wp_mono (Discipline.wp_forEach_same fun message member =>
    Discipline.wp_mono (feature_handle_relays consumer member) (fun _ _ same => same)
      fun _ _ _ => trivial) (fun _ _ _ => trivial) fun _ _ _ => trivial

def relayingRows :
    Discipline (SignalEffect ℚ) SignalEffect.Reply PyError Unit (List Message) where
  initial := fun _ => []
  allowed := fun batch effect => match effect with
    | .xaddGenerated signal correlationId => ∃ message ∈ batch,
        Passes message correlationId ∧ signal.symbol = symbolOf message ∧
          signal.ltfTimeframe = timeframeOf message
    | _ => True
  assumed := fun _ effect reply => match effect, reply with
    | .evaluate ltf _, .ok evaluation => ∀ signal, evaluation.signal = some signal →
        signal.symbol = ltf.symbol ∧ signal.ltfTimeframe = ltf.timeframe
    | _, _ => True
  advance := fun batch effect reply => match effect, reply with
    | .xreadgroup _, .ok messages => messages
    | _, _ => batch

def QuietRow : SignalEffect ℚ → Prop
  | .xreadgroup _ | .evaluate _ _ | .xaddGenerated _ _ => False
  | _ => True

theorem quietRow_inert (batch : List Message) (effect : SignalEffect ℚ) (quiet : QuietRow effect) :
    relayingRows.allowed batch effect ∧
      ∀ reply, relayingRows.assumed batch effect reply →
        relayingRows.advance batch effect reply = batch := by
  cases effect <;> first | exact quiet.elim | exact ⟨trivial, fun _ _ => rfl⟩

theorem wp_quietRow {α : Type} {batch : List Message} {post : α → Prop}
    {program : Signalling.Program ℚ α} (used : program.Uses QuietRow)
    (yields : program.Yields post) :
    relayingRows.wp batch program (fun after value => after = batch ∧ post value)
      (fun _ _ => True) :=
  Discipline.wp_mono (Discipline.wp_of_yields used yields (quietRow_inert batch))
    (fun _ _ held => held) fun _ _ _ => trivial

theorem fetchVotes_quiet (symbol : String) (timeframes : List String) :
    (Signalling.fetchVotes symbol timeframes : Signalling.Program ℚ (List String)).Uses
      QuietRow := by
  induction timeframes with
  | nil => trivial
  | cons timeframe rest ih =>
      refine Prog.uses_bind (Prog.uses_perform trivial) fun row => ?_
      refine Prog.uses_bind ih fun votes => ?_
      split <;> trivial

theorem marketContext_quiet (consumer : Signalling.SignalConsumer ℚ) (symbol : String) :
    (consumer.marketContext symbol).Uses QuietRow := by
  refine Prog.uses_bind (Prog.uses_perform trivial) fun regimeRaw => ?_
  refine Prog.uses_bind (Prog.uses_perform trivial) fun metaRaw => ?_
  refine Prog.uses_bind (Prog.uses_ofExcept _) fun regime => ?_
  refine Prog.uses_bind (Prog.uses_ofExcept _) fun pWin => ?_
  exact Prog.uses_bind (Prog.uses_bind (fetchVotes_quiet _ _) fun _ => trivial) fun _ => trivial

def Asked (symbol timeframe : String) : Option (LtfSnapshot ℚ) → Prop
  | none => True
  | some ltf => ltf.symbol = symbol ∧ ltf.timeframe = timeframe

theorem rowToSnapshot_asked {symbol timeframe : String} {row : Snapshot ℚ} {ltf : LtfSnapshot ℚ}
    (built : Signalling.rowToSnapshot symbol timeframe row = .ok ltf) :
    Asked symbol timeframe (some ltf) := by
  simp only [Signalling.rowToSnapshot, bind, Except.bind] at built
  repeat' split at built
  all_goals first | (cases built; exact ⟨rfl, rfl⟩) | cases built

theorem fetchLtfRow_asked (symbol timeframe : String) :
    (Signalling.fetchLtfRow symbol timeframe :
      Signalling.Program ℚ (Option (LtfSnapshot ℚ))).Uses QuietRow ∧
    (Signalling.fetchLtfRow symbol timeframe :
      Signalling.Program ℚ (Option (LtfSnapshot ℚ))).Yields (Asked symbol timeframe) := by
  constructor
  · refine Prog.uses_bind (Prog.uses_perform trivial) fun row => ?_
    cases row with
    | none => trivial
    | some row => exact Prog.uses_bind (Prog.uses_ofExcept _) fun _ => trivial
  · refine Prog.yields_perform_bind fun row => ?_
    cases row with
    | none => trivial
    | some row =>
        cases built : Signalling.rowToSnapshot symbol timeframe row with
        | error error => simp [built, Prog.ofExcept_error, Prog.Yields]
        | ok ltf =>
            simp only [built, Prog.ofExcept_ok, Prog.done_bind]
            exact rowToSnapshot_asked built

theorem publish_relays {batch : List Message} {message : Message} (member : message ∈ batch)
    {signal : Signal ℚ} {correlationId : String} (passes : Passes message correlationId)
    (symbol : signal.symbol = symbolOf message)
    (timeframe : signal.ltfTimeframe = timeframeOf message) :
    relayingRows.wp batch (Signalling.SignalConsumer.publish signal correlationId)
      (fun after _ => after = batch) (fun _ _ => True) := by
  unfold Signalling.SignalConsumer.publish
  refine Discipline.wp_seq _ (wp_quietRow (Prog.uses_ofExcept _) (Prog.yields_trivial _)) ?_
  rintro after id ⟨rfl, _⟩
  refine Discipline.wp_perform_bind trivial (fun _ _ => trivial) fun _ _ => ?_
  rw [Discipline.wp_perform]
  exact ⟨⟨message, member, passes, symbol, timeframe⟩, fun _ _ => rfl, fun _ _ => trivial⟩

theorem signal_handle_relays (consumer : Signalling.SignalConsumer ℚ) {message : Message}
    {batch : List Message} (member : message ∈ batch) :
    relayingRows.wp batch (consumer.handle message.fields) (fun after _ => after = batch)
      (fun _ _ => True) := by
  have minted : (Signalling.getOrCreateCorrelationId message.fields :
      Signalling.Program ℚ String).Uses QuietRow := by
    unfold Signalling.getOrCreateCorrelationId
    split
    · trivial
    · exact Prog.uses_perform trivial
  have passes : (Signalling.getOrCreateCorrelationId message.fields :
      Signalling.Program ℚ String).Yields (Passes message) :=
    passes_of_carried _ fun raw own => by simp [Signalling.getOrCreateCorrelationId, own]
  unfold Signalling.SignalConsumer.handle
  refine Discipline.wp_seq _ (wp_quietRow minted passes) ?_
  rintro after correlationId ⟨rfl, passes⟩
  dsimp only
  split
  · rfl
  · refine Discipline.wp_seq _
      (wp_quietRow (marketContext_quiet consumer _) (Prog.yields_trivial _)) ?_
    rintro after market ⟨rfl, _⟩
    refine Discipline.wp_seq _
      (wp_quietRow (fetchLtfRow_asked _ _).1 (fetchLtfRow_asked _ _).2) ?_
    rintro after row ⟨rfl, asked⟩
    cases row with
    | none => rfl
    | some ltf =>
        refine Discipline.wp_perform_bind trivial (fun _ _ => trivial) fun evaluation given => ?_
        change relayingRows.wp after _ _ _
        cases fired : evaluation.signal with
        | none => rfl
        | some signal =>
            obtain ⟨symbol, timeframe⟩ := given signal fired
            exact publish_relays member passes (symbol.trans asked.1) (timeframe.trans asked.2)

theorem signal_ensureGroup_quiet :
    (Signalling.ensureGroup : Signalling.Program ℚ Unit).Uses QuietRow := by
  refine Prog.uses_rescue (Prog.uses_perform trivial) fun error => ?_
  cases error <;> trivial

theorem signal_readBatch_relays :
    relayingRows.wp [] Signalling.readBatch (fun after messages => after = messages)
      (fun _ _ => True) := by
  unfold Signalling.readBatch
  rw [Discipline.wp_rescue, Discipline.wp_perform]
  refine ⟨trivial, fun _ _ => rfl, fun error _ => ?_⟩
  change relayingRows.wp [] _ _ _
  cases error with
  | noGroup =>
      refine Discipline.wp_seq _
        (wp_quietRow signal_ensureGroup_quiet (Prog.yields_trivial _)) ?_
      rintro after _ ⟨rfl, _⟩
      rfl
  | _ => exact Discipline.wp_perform_bind trivial (fun _ _ => trivial) fun _ _ => rfl

theorem signal_drain_relays (consumer : Signalling.SignalConsumer ℚ) :
    relayingRows.wp [] (Signalling.drain consumer) (fun _ _ => True) (fun _ _ => True) := by
  refine Discipline.wp_seq _ signal_readBatch_relays ?_
  rintro batch messages rfl
  have each : ∀ message ∈ batch, relayingRows.wp batch (consumer.handleMessage message)
      (fun after _ => after = batch) (fun _ _ => True) := by
    intro message member
    refine Discipline.wp_seq _ (signal_handle_relays consumer member) ?_
    rintro after _ rfl
    exact (Discipline.wp_perform).mpr ⟨trivial, fun _ _ => rfl, fun _ _ => trivial⟩
  exact Discipline.wp_mono (Discipline.wp_forEach_same each) (fun _ _ _ => trivial)
    fun _ _ _ => trivial

def Answers (consumer : Risk.RiskConsumer) (message : Message) (effect : RiskEffect) : Prop :=
  ∀ verdict, Risk.verdictOf effect = some verdict → Passes message verdict.correlationId ∧
    ∃ signal, consumer.parseSignal message.fields = .ok (some signal) ∧ verdict.Names signal

def relayingSignals (consumer : Risk.RiskConsumer) :
    Discipline RiskEffect RiskEffect.Reply PyError Unit (List Message) where
  initial := fun _ => []
  allowed := fun batch effect => Risk.verdictOf effect = none ∨
    ∃ message ∈ batch, Answers consumer message effect
  advance := fun batch effect reply => match effect, reply with
    | .xreadgroup _, .ok messages => messages
    | _, _ => batch

def RelaysSignal (consumer : Risk.RiskConsumer) (message : Message) (effect : RiskEffect) : Prop :=
  (∀ count, effect ≠ .xreadgroup count) ∧ Answers consumer message effect

section Risk

variable {consumer : Risk.RiskConsumer} {message : Message} {batch : List Message}

theorem relaysSignal_inert (member : message ∈ batch) (effect : RiskEffect)
    (relays : RelaysSignal consumer message effect) :
    (relayingSignals consumer).allowed batch effect ∧
      ∀ reply, (relayingSignals consumer).assumed batch effect reply →
        (relayingSignals consumer).advance batch effect reply = batch := by
  refine ⟨.inr ⟨message, member, relays.2⟩, fun reply _ => ?_⟩
  cases effect with
  | xreadgroup count => exact absurd rfl (relays.1 count)
  | _ => rfl

theorem relays_of_silent {effect : RiskEffect} (unread : ∀ count, effect ≠ .xreadgroup count)
    (silent : Risk.verdictOf effect = none) : RelaysSignal consumer message effect :=
  ⟨unread, by simp [Answers, silent]⟩

theorem decide_relays (signal : Signal ℚ) :
    (consumer.decide signal).Uses (RelaysSignal consumer message) := by
  have get : ∀ key, RelaysSignal consumer message (.get key) := fun key =>
    relays_of_silent nofun rfl
  refine Prog.uses_bind ?_ fun hint => ?_
  · exact Prog.uses_bind (Prog.uses_perform (get _)) fun raw => Prog.uses_ofExcept _
  refine Prog.uses_bind ?_ fun reason => ?_
  · exact Prog.uses_bind (Prog.uses_perform (relays_of_silent nofun rfl)) fun _ => trivial
  cases reason with
  | some reason => trivial
  | none =>
      refine Prog.uses_bind ?_ fun account => ?_
      · exact Prog.uses_bind (Prog.uses_perform (get _)) fun raw => Prog.uses_ofExcept _
      refine Prog.uses_bind ?_ fun constraints => ?_
      · exact Prog.uses_bind (Prog.uses_perform (get _)) fun raw => Prog.uses_ofExcept _
      cases account with
      | none => trivial
      | some account =>
          cases constraints with
          | none => trivial
          | some constraints =>
              dsimp only
              split
              · trivial
              · split
                · trivial
                · trivial
                · exact Prog.uses_bind (Prog.uses_perform (relays_of_silent nofun rfl)) nofun

theorem handleSignal_relays {signal : Signal ℚ} {correlationId : String}
    (parsed : consumer.parseSignal message.fields = .ok (some signal))
    (passes : Passes message correlationId) :
    (consumer.handleSignal signal correlationId).Uses (RelaysSignal consumer message) := by
  refine Prog.uses_bind (decide_relays signal) fun decision => ?_
  split
  · refine Prog.uses_bind (Prog.uses_perform ⟨nofun, ?_⟩) fun _ =>
      Prog.uses_perform (relays_of_silent nofun rfl)
    rintro verdict ⟨rfl⟩
    exact ⟨passes, signal, parsed, rfl, rfl⟩
  · split
    · trivial
    · refine Prog.uses_perform ⟨nofun, ?_⟩
      rintro verdict ⟨rfl⟩
      exact ⟨passes, signal, parsed, rfl, rfl⟩

theorem risk_handleMessage_relays (member : message ∈ batch) :
    (relayingSignals consumer).wp batch (consumer.handleMessage message)
      (fun after _ => after = batch) (fun _ _ => True) := by
  have minted : (Risk.getOrCreateCorrelationId message.fields).Uses
      (RelaysSignal consumer message) := by
    unfold Risk.getOrCreateCorrelationId
    split
    · trivial
    · exact Prog.uses_perform (relays_of_silent nofun rfl)
  have passes : (Risk.getOrCreateCorrelationId message.fields).Yields (Passes message) :=
    passes_of_carried _ fun raw own => by simp [Risk.getOrCreateCorrelationId, own]
  unfold Risk.RiskConsumer.handleMessage Risk.RiskConsumer.handle
  rw [Discipline.wp_bind]
  refine Discipline.wp_seq _ (Discipline.wp_mono (Discipline.wp_of_yields minted passes
    (relaysSignal_inert member)) (fun _ _ held => held) fun _ _ _ => trivial) ?_
  rintro after correlationId ⟨rfl, passes⟩
  have acked : (relayingSignals consumer).wp after (Risk.await (.xack message.id))
      (fun later _ => later = after) (fun _ _ => True) :=
    (Discipline.wp_perform).mpr ⟨.inl rfl, fun _ _ => rfl, fun _ _ => trivial⟩
  cases parsed : consumer.parseSignal message.fields with
  | error error => trivial
  | ok found =>
      rw [Prog.ofExcept_ok, Prog.done_bind]
      cases found with
      | none => exact acked
      | some signal =>
          refine Discipline.wp_mono (Discipline.wp_of_uses (handleSignal_relays parsed passes)
            (relaysSignal_inert member)) ?_ fun _ _ _ => trivial
          rintro _ _ rfl
          exact acked

theorem risk_ensureGroup_relays (batch : List Message) :
    (relayingSignals consumer).wp batch Risk.ensureGroup (fun after _ => after = batch)
      (fun _ _ => True) := by
  unfold Risk.ensureGroup
  rw [Discipline.wp_rescue, Discipline.wp_perform]
  refine ⟨.inl rfl, fun _ _ => rfl, fun error _ => ?_⟩
  cases error with
  | busyGroup => rfl
  | _ => trivial

theorem risk_readBatch_relays :
    (relayingSignals consumer).wp [] Risk.readBatch (fun after messages => after = messages)
      (fun _ _ => True) := by
  unfold Risk.readBatch
  rw [Discipline.wp_rescue, Discipline.wp_perform]
  refine ⟨.inl rfl, fun _ _ => rfl, fun error _ => ?_⟩
  change (relayingSignals consumer).wp [] _ _ _
  cases error with
  | noGroup =>
      refine Discipline.wp_seq _ (risk_ensureGroup_relays _) ?_
      rintro after _ rfl
      rfl
  | _ => exact Discipline.wp_perform_bind (.inl rfl) (fun _ _ => trivial) fun _ _ => rfl

theorem risk_entry_relays (request : Risk.RiskRequest) :
    (relayingSignals consumer).wp [] (consumer.entry request) (fun _ _ => True)
      (fun _ _ => True) := by
  cases request with
  | ensureGroup =>
      exact Discipline.wp_mono (risk_ensureGroup_relays []) (fun _ _ _ => trivial)
        fun _ _ _ => trivial
  | release key =>
      exact (Discipline.wp_perform).mpr ⟨.inl rfl, fun _ _ => trivial, fun _ _ => trivial⟩
  | drain =>
      refine Discipline.wp_seq _ risk_readBatch_relays ?_
      rintro batch messages rfl
      exact Discipline.wp_mono (Discipline.wp_forEach_same fun message member =>
        risk_handleMessage_relays member) (fun _ _ _ => trivial) fun _ _ _ => trivial

end Risk

/-! The whole pipeline -/

def tracing (services : Services) :
    Discipline PipelineEffect PipelineEffect.Reply PyError PipelineRequest Batch where
  initial := fun request => match request with
    | .ensureFeatureGroup | .pollBars => .bars []
    | .ensureSignalGroup | .drainRows => .rows []
    | .risk _ => .signals []
  allowed := fun batch effect => match batch, effect with
    | .bars messages, .feature effect => relayingBars.allowed messages effect
    | .rows messages, .signal effect => relayingRows.allowed messages effect
    | .signals messages, .risk effect =>
        (relayingSignals services.risk).allowed messages effect
    | _, _ => False
  assumed := fun batch effect reply => match batch, effect, reply with
    | .rows messages, .signal effect, reply => relayingRows.assumed messages effect reply
    | _, _, _ => True
  advance := fun batch effect reply => match batch, effect, reply with
    | .bars messages, .feature effect, reply => .bars (relayingBars.advance messages effect reply)
    | .rows messages, .signal effect, reply => .rows (relayingRows.advance messages effect reply)
    | .signals messages, .risk effect, reply =>
        .signals ((relayingSignals services.risk).advance messages effect reply)
    | batch, _, _ => batch

section Tracing

variable {services : Services}

theorem feature_traces {program : Feature.Program ℚ Unit}
    (holds : relayingBars.wp [] program (fun _ _ => True) fun _ _ => True) :
    (tracing services).wp (.bars []) (Services.liftFeature program) (fun _ _ => True)
      fun _ _ => True :=
  Discipline.wp_mono (Discipline.wp_lift (tracing services) Batch.bars
    (fun _ _ allowed => allowed) (fun _ _ _ _ => trivial) (fun _ _ _ => rfl) holds)
    (fun _ _ _ => trivial) fun _ _ _ => trivial

theorem signal_traces {program : Signalling.Program ℚ Unit}
    (holds : relayingRows.wp [] program (fun _ _ => True) fun _ _ => True) :
    (tracing services).wp (.rows []) (Services.liftSignal program) (fun _ _ => True)
      fun _ _ => True :=
  Discipline.wp_mono (Discipline.wp_lift (tracing services) Batch.rows
    (fun _ _ allowed => allowed) (fun _ _ _ given => given) (fun _ _ _ => rfl) holds)
    (fun _ _ _ => trivial) fun _ _ _ => trivial

theorem entry_traces (request : PipelineRequest) :
    (tracing services).wp ((tracing services).initial request) (services.entry request)
      (fun _ _ => True) (fun _ _ => True) := by
  cases request with
  | ensureFeatureGroup =>
      exact feature_traces (Discipline.wp_mono (Discipline.wp_of_uses feature_ensureGroup_quiet
        (quietBar_inert [])) (fun _ _ _ => trivial) fun _ _ _ => trivial)
  | pollBars => exact feature_traces (poll_relays services.feature)
  | ensureSignalGroup =>
      exact signal_traces (Discipline.wp_mono
        (wp_quietRow signal_ensureGroup_quiet (Prog.yields_trivial _)) (fun _ _ _ => trivial)
        fun _ _ _ => trivial)
  | drainRows => exact signal_traces (signal_drain_relays services.signal)
  | risk request =>
      exact Discipline.wp_mono (Discipline.wp_lift (tracing services) Batch.signals
        (fun _ _ allowed => allowed) (fun _ _ _ _ => trivial) (fun _ _ _ => rfl)
        (risk_entry_relays request)) (fun _ _ _ => trivial) fun _ _ _ => trivial

theorem answer_assumed {world after : PipelineWorld} {batch : Batch} {effect : PipelineEffect}
    {reply : Except PyError effect.Reply}
    (answered : world.answer services effect reply = some after) :
    (tracing services).assumed batch effect reply := by
  rcases batch with messages | messages | messages <;> try trivial
  rcases effect with effect | effect | effect <;> try trivial
  cases effect with
  | evaluate ltf market =>
      rcases reply with error | evaluation
      · trivial
      · intro signal fired
        have valid := (answer_evaluate answered).1
        simp only [PipelineWorld.evaluates, fired, decide_eq_true_eq] at valid
        rw [valid.2] at fired
        obtain ⟨kind, score, components, _, built⟩ := SignalEngine.evaluate_builds fired
        exact ⟨congrArg Signal.symbol built, congrArg Signal.ltfTimeframe built⟩
  | _ => trivial

/-- risk-service reads back the signal that signal-service wrote. -/
def Services.ReadsBack (services : Services) : Prop :=
  ∀ signal correlationId parsed,
    services.risk.parseSignal (services.signalFields signal correlationId) = .ok (some parsed) →
      parsed = signal

def Holds (entries : List Message) (symbol timeframe correlationId : String) : Prop :=
  ∃ entry ∈ entries, entry.fields.correlationId = some correlationId ∧
    symbolOf entry = symbol ∧ timeframeOf entry = timeframe

/-- Each of these entries is under the id of one that was announced, about the same bars. -/
def Rooted (roots entries : List Message) : Prop :=
  ∀ entry ∈ entries, ∃ correlationId, entry.fields.correlationId = some correlationId ∧
    Holds roots (symbolOf entry) (timeframeOf entry) correlationId

theorem ne_empty_of_carried {fields : Fields} {correlationId : String}
    (carried : fields.correlationId = some correlationId) : correlationId ≠ "" := by
  unfold Fields.correlationId at carried
  rcases Option.or_eq_some_iff.mp carried with first | ⟨_, second⟩
  · simpa using (Option.filter_eq_some_iff.mp first).2
  · simpa using (Option.filter_eq_some_iff.mp second).2

theorem computedFields_carries {symbol timeframe correlationId : String}
    (given : correlationId ≠ "") :
    (computedFields symbol timeframe correlationId).correlationId = some correlationId := by
  have found : (computedFields symbol timeframe correlationId).get? "correlation_id" =
      some correlationId := rfl
  simp [Fields.correlationId, found, given]

theorem signalFields_carries {signal : Signal ℚ} {correlationId : String}
    (given : correlationId ≠ "") :
    (services.signalFields signal correlationId).correlationId = some correlationId := by
  have found : (services.signalFields signal correlationId).get? "correlation_id" =
      some correlationId := rfl
  simp [Fields.correlationId, found, given]

theorem Passes.carried {message : Message} {correlationId own : String}
    (passes : Passes message correlationId) (carried : message.fields.correlationId = some own) :
    own = correlationId := by
  rcases passes with missing | same
  · simp [missing] at carried
  · exact Option.some.inj (carried.symm.trans same)

theorem Rooted.append {roots entries : List Message} {entry : Message} {correlationId : String}
    (rooted : Rooted roots entries) (carried : entry.fields.correlationId = some correlationId)
    (held : Holds roots (symbolOf entry) (timeframeOf entry) correlationId) :
    Rooted roots (entries ++ [entry]) := by
  intro other member
  rcases List.mem_append.mp member with earlier | now
  · exact rooted other earlier
  · obtain rfl := List.mem_singleton.mp now
    exact ⟨correlationId, carried, held⟩

theorem Holds.mono {fewer more : List Message} {symbol timeframe correlationId : String}
    (held : Holds fewer symbol timeframe correlationId) (within : fewer ⊆ more) :
    Holds more symbol timeframe correlationId := by
  obtain ⟨entry, member, basis⟩ := held
  exact ⟨entry, within member, basis⟩

theorem Rooted.mono {roots more entries : List Message} (rooted : Rooted roots entries)
    (within : roots ⊆ more) : Rooted more entries := by
  intro entry member
  obtain ⟨correlationId, carried, held⟩ := rooted entry member
  exact ⟨correlationId, carried, held.mono within⟩

structure Adds (services : Services) (world after : PipelineWorld) (effect : PipelineEffect) :
    Prop where
  bars : after.barEvents.entries = world.barEvents.entries
  rows : after.computed.entries = world.computed.entries ∨ ∃ symbol timeframe ts correlationId id,
    effect = .feature (.xaddComputed symbol timeframe ts correlationId) ∧
    after.computed.entries = world.computed.entries ++
      [⟨id, computedFields symbol timeframe correlationId⟩]
  signals : after.risk.signals = world.risk.signals ∨ ∃ signal correlationId id,
    effect = .signal (.xaddGenerated signal correlationId) ∧
    after.risk.signals = world.risk.signals ++
      [⟨id, services.signalFields signal correlationId⟩]

theorem adds_none (world : PipelineWorld) (effect : PipelineEffect) :
    Adds services world world effect := ⟨rfl, .inl rfl, .inl rfl⟩

theorem adds_apply (world : PipelineWorld) (effect : PipelineEffect) :
    Adds services world (world.apply services effect) effect := by
  cases effect with
  | feature effect =>
      cases effect with
      | xaddComputed symbol timeframe ts correlationId =>
          exact ⟨rfl, .inr ⟨symbol, timeframe, ts, correlationId, _, rfl, rfl⟩, .inl rfl⟩
      | _ => exact ⟨rfl, .inl rfl, .inl rfl⟩
  | signal effect =>
      cases effect with
      | xaddGenerated signal correlationId =>
          exact ⟨rfl, .inl rfl, .inr ⟨signal, correlationId, _, rfl, rfl⟩⟩
      | _ => exact ⟨rfl, .inl rfl, .inl rfl⟩
  | risk effect => cases effect <;> exact ⟨rfl, .inl rfl, .inl rfl⟩

theorem adds_answer {world after : PipelineWorld} {effect : PipelineEffect}
    {reply : Except PyError effect.Reply}
    (answered : world.answer services effect reply = some after) :
    Adds services world after effect := by
  unfold PipelineWorld.answer at answered
  split at answered
  · split at answered
    · rw [← Option.some.inj answered]
      exact ⟨rfl, .inl rfl, .inl rfl⟩
    · simp at answered
  · simp at answered
  · split at answered
    · rw [← Option.some.inj answered]
      exact adds_apply world _
    · simp at answered
  · rw [← Option.some.inj answered]
    split
    · exact adds_apply world _
    · exact adds_none world _

def Handed (world : PipelineWorld) : Batch → Prop
  | .bars messages => messages ⊆ world.barEvents.entries
  | .rows messages => messages ⊆ world.computed.entries
  | .signals messages => messages ⊆ world.risk.signals

theorem Handed.mono {world after : PipelineWorld} {batch : Batch} {effect : PipelineEffect}
    (handed : Handed world batch) (adds : Adds services world after effect) :
    Handed after batch := by
  cases batch with
  | bars messages =>
      simp only [Handed, adds.bars]
      exact handed
  | rows messages =>
      rcases adds.rows with same | ⟨_, _, _, _, _, _, more⟩
      · simp only [Handed, same]
        exact handed
      · simp only [Handed, more]
        exact List.subset_append_of_subset_left _ handed
  | signals messages =>
      rcases adds.signals with same | ⟨_, _, _, _, more⟩
      · simp only [Handed, same]
        exact handed
      · simp only [Handed, more]
        exact List.subset_append_of_subset_left _ handed

theorem undelivered_subset (stream : EntryStream) (count : ℕ) :
    stream.undelivered.take count ⊆ stream.entries := fun _ member =>
  List.mem_of_mem_drop (List.mem_of_mem_take member)

theorem replied {world after : PipelineWorld} {effect : PipelineEffect} {value : effect.Reply}
    (unfired : ∀ ltf market, effect ≠ .signal (.evaluate ltf market))
    (answered : world.answer services effect (.ok value) = some after) :
    world.replies services effect value = true := by
  unfold PipelineWorld.answer at answered
  split at answered
  · exact absurd rfl (unfired _ _)
  · simp at answered
  · rename_i same
    cases same
    split at answered
    · assumption
    · simp at answered
  · rename_i same
    cases same

theorem Handed.advance {world after : PipelineWorld} {batch : Batch} {effect : PipelineEffect}
    {reply : Except PyError effect.Reply} (handed : Handed world batch)
    (allowed : (tracing services).allowed batch effect)
    (answered : world.answer services effect reply = some after) :
    Handed after ((tracing services).advance batch effect reply) := by
  have read : Handed world ((tracing services).advance batch effect reply) := by
    rcases batch with messages | messages | messages <;>
      rcases effect with effect | effect | effect <;> try exact allowed.elim
    · cases effect with
      | xreadgroup count =>
          cases reply with
          | error error => exact handed
          | ok value =>
              have given := replied (by simp) answered
              simp only [PipelineWorld.replies, PipelineWorld.repliesFeature,
                decide_eq_true_eq] at given
              simp only [tracing, relayingBars, Handed, given]
              exact undelivered_subset _ _
      | _ => exact handed
    · cases effect with
      | xreadgroup count =>
          cases reply with
          | error error => exact handed
          | ok value =>
              have given := replied (by simp) answered
              simp only [PipelineWorld.replies, PipelineWorld.repliesSignal,
                decide_eq_true_eq] at given
              simp only [tracing, relayingRows, Handed, given]
              exact undelivered_subset _ _
      | _ => exact handed
    · cases effect with
      | xreadgroup count =>
          cases reply with
          | error error => exact handed
          | ok value =>
              have given := replied (by simp) answered
              simp only [PipelineWorld.replies, Risk.RiskWorld.replies,
                decide_eq_true_eq] at given
              simp only [tracing, relayingSignals, Handed, given]
              intro message member
              exact List.mem_of_mem_drop (List.mem_of_mem_take member)
      | _ => exact handed
  exact read.mono (adds_answer answered)

end Tracing

section Interleavings

variable {Pid : Type} {services : Services} {roots : List Message} {world after : PipelineWorld}
  {batches : Pid → Option Batch} {pid : Pid}

def announced? : PipelineLabel Pid → Option Message
  | .environment (.announceBar message) => some message
  | .environment (.announceRow message) => some message
  | _ => none

def announced (trace : List (PipelineLabel Pid)) : List Message := trace.filterMap announced?

def Carrying (label : PipelineLabel Pid) : Prop :=
  ∀ message, announced? label = some message → message.fields.correlationId ≠ none

structure Traced (services : Services) (roots : List Message) (world : PipelineWorld)
    (batches : Pid → Option Batch) : Prop where
  bars : Rooted roots world.barEvents.entries
  rows : Rooted roots world.computed.entries
  signals : ∀ entry ∈ world.risk.signals, ∃ correlationId,
    entry.fields.correlationId = some correlationId ∧
    ∀ signal, services.risk.parseSignal entry.fields = .ok (some signal) →
      Holds world.computed.entries signal.symbol signal.ltfTimeframe correlationId
  handed : ∀ pid batch, batches pid = some batch → Handed world batch

variable [DecidableEq Pid]

omit [DecidableEq Pid] in
theorem Traced.silent {label : PipelineLabel Pid} (held : Traced services roots world batches)
    (nothing : announced? label = none) :
    Traced services (roots ++ (announced? label).toList) world batches := by
  rw [nothing, Option.toList_none, List.append_nil]
  exact held

theorem Traced.move {batch : Option Batch} (held : Traced services roots world batches) (pid : Pid)
    (handed : ∀ later, batch = some later → Handed world later) :
    Traced services roots world (Function.update batches pid batch) := by
  refine ⟨held.bars, held.rows, held.signals, fun other later current => ?_⟩
  by_cases same : other = pid
  · subst same
    exact handed later (by simpa using current)
  · exact held.handed other later (by simpa [same] using current)

omit [DecidableEq Pid] in
theorem Traced.relay_bar {symbol timeframe correlationId id : String} {ts : Timestamp}
    (held : Traced services roots world batches) {batch : Batch}
    (current : batches pid = some batch)
    (allowed : (tracing services).allowed batch
      (.feature (.xaddComputed symbol timeframe ts correlationId))) :
    Rooted roots (world.computed.entries ++
      [⟨id, computedFields symbol timeframe correlationId⟩]) := by
  rcases batch with messages | messages | messages <;> try exact allowed.elim
  obtain ⟨message, member, passes, rfl, rfl⟩ := allowed
  obtain ⟨own, carried, rooted⟩ := held.bars message (held.handed pid _ current member)
  obtain rfl := passes.carried carried
  exact held.rows.append (computedFields_carries (ne_empty_of_carried carried)) rooted

omit [DecidableEq Pid] in
theorem Traced.relay_row {signal : Signal ℚ} {correlationId id : String}
    (reads : services.ReadsBack) (held : Traced services roots world batches) {batch : Batch}
    (current : batches pid = some batch)
    (allowed : (tracing services).allowed batch (.signal (.xaddGenerated signal correlationId))) :
    ∀ entry ∈ world.risk.signals ++ [⟨id, services.signalFields signal correlationId⟩],
      ∃ own, entry.fields.correlationId = some own ∧
      ∀ parsed, services.risk.parseSignal entry.fields = .ok (some parsed) →
        Holds world.computed.entries parsed.symbol parsed.ltfTimeframe own := by
  rcases batch with messages | messages | messages <;> try exact allowed.elim
  obtain ⟨message, member, passes, symbol, timeframe⟩ := allowed
  have here : message ∈ world.computed.entries := held.handed pid _ current member
  obtain ⟨own, carried, _⟩ := held.rows message here
  obtain rfl := passes.carried carried
  intro entry member
  rcases List.mem_append.mp member with earlier | now
  · exact held.signals entry earlier
  · obtain rfl := List.mem_singleton.mp now
    refine ⟨own, signalFields_carries (ne_empty_of_carried carried), fun parsed read => ?_⟩
    rw [reads signal own parsed read, symbol, timeframe]
    exact ⟨message, here, carried, rfl, rfl⟩

theorem Traced.answer {batch : Batch} {effect : PipelineEffect}
    {reply : Except PyError effect.Reply} (reads : services.ReadsBack)
    (held : Traced services roots world batches)
    (current : batches pid = some batch) (allowed : (tracing services).allowed batch effect)
    (answered : world.answer services effect reply = some after) :
    Traced services roots after
      (Function.update batches pid (some ((tracing services).advance batch effect reply))) := by
  have adds : Adds services world after effect := adds_answer answered
  have grown : world.computed.entries ⊆ after.computed.entries := by
    rcases adds.rows with same | ⟨_, _, _, _, _, _, more⟩
    · rw [same]
      exact List.Subset.refl _
    · rw [more]
      exact List.subset_append_left _ _
  have kept : Traced services roots after batches := by
    refine ⟨?_, ?_, fun entry member => ?_, fun other later at' =>
      (held.handed other later at').mono adds⟩
    · rw [adds.bars]
      exact held.bars
    · rcases adds.rows with same | ⟨symbol, timeframe, ts, correlationId, id, rfl, more⟩
      · rw [same]
        exact held.rows
      · rw [more]
        exact held.relay_bar current allowed
    · have basis : ∃ own, entry.fields.correlationId = some own ∧
          ∀ parsed, services.risk.parseSignal entry.fields = .ok (some parsed) →
            Holds world.computed.entries parsed.symbol parsed.ltfTimeframe own := by
        rcases adds.signals with same | ⟨signal, correlationId, id, rfl, more⟩
        · rw [same] at member
          exact held.signals entry member
        · rw [more] at member
          exact held.relay_row reads current allowed entry member
      obtain ⟨own, carried, known⟩ := basis
      exact ⟨own, carried, fun parsed read => (known parsed read).mono grown⟩
  refine kept.move pid fun later same => ?_
  obtain rfl := Option.some.inj same
  exact (held.handed pid batch current).advance allowed answered

omit [DecidableEq Pid] in
theorem Rooted.announce {entries : List Message} {message : Message} (rooted : Rooted roots entries)
    (carrying : message.fields.correlationId ≠ none) :
    Rooted (roots ++ [message]) (entries ++ [message]) := by
  obtain ⟨correlationId, carried⟩ := Option.ne_none_iff_exists'.mp carrying
  exact (rooted.mono (List.subset_append_left _ _)).append carried
    ⟨message, by simp, carried, rfl, rfl⟩

omit [DecidableEq Pid] in
theorem Traced.environment {event : PipelineEvent} (held : Traced services roots world batches)
    (carrying : Carrying (.environment event : PipelineLabel Pid))
    (happened : world.environment event = some after) :
    Traced services
      (roots ++ (announced? (.environment event : PipelineLabel Pid)).toList) after batches := by
  cases event with
  | storeBar row =>
      obtain rfl := Option.some.inj happened
      have kept := held.silent
        (rfl : announced? (.environment (.storeBar row) : PipelineLabel Pid) = none)
      exact ⟨kept.bars, kept.rows, kept.signals, kept.handed⟩
  | storeRow row =>
      obtain rfl := Option.some.inj happened
      have kept := held.silent
        (rfl : announced? (.environment (.storeRow row) : PipelineLabel Pid) = none)
      exact ⟨kept.bars, kept.rows, kept.signals, kept.handed⟩
  | announceBar message =>
      obtain rfl := Option.some.inj happened
      refine ⟨held.bars.announce (carrying message rfl),
        held.rows.mono (List.subset_append_left _ _), held.signals, fun pid batch current => ?_⟩
      have before := held.handed pid batch current
      rcases batch with messages | messages | messages
      · exact List.subset_append_of_subset_left _ before
      · exact before
      · exact before
  | announceRow message =>
      obtain rfl := Option.some.inj happened
      refine ⟨held.bars.mono (List.subset_append_left _ _),
        held.rows.announce (carrying message rfl), fun entry member => ?_,
        fun pid batch current => ?_⟩
      · obtain ⟨own, carried, known⟩ := held.signals entry member
        exact ⟨own, carried, fun parsed read =>
          (known parsed read).mono (List.subset_append_left _ _)⟩
      · have before := held.handed pid batch current
        rcases batch with messages | messages | messages
        · exact before
        · exact List.subset_append_of_subset_left _ before
        · exact before

theorem Traced.drop (held : Traced services roots world batches) (pid : Pid) :
    Traced services roots world (Function.update batches pid none) :=
  held.move pid fun _ absent => absurd absent.symm (Option.some_ne_none _)

theorem Traced.step {label : PipelineLabel Pid} (reads : services.ReadsBack)
    (held : Traced services roots world batches) (carrying : Carrying label)
    (moved : (tracing services).Moves services.system world batches label after) :
    Traced services (roots ++ (announced? label).toList) after
      ((tracing services).track batches label) := by
  cases moved with
  | start pid request idle =>
      refine Traced.silent (held.move pid fun later same => ?_) rfl
      obtain rfl := Option.some.inj same
      cases request <;> exact List.nil_subset _
  | answer pid batch effect reply after current allowed answered =>
      simp only [Discipline.track, current, Option.map_some]
      exact Traced.silent (held.answer reads current allowed answered) rfl
  | finish pid batch current finished => exact Traced.silent (held.drop pid) rfl
  | fail pid batch error current failed => exact Traced.silent (held.drop pid) rfl
  | crash pid batch current => exact Traced.silent (held.drop pid) rfl
  | environment event after happened => exact held.environment carrying happened

theorem traced_of_run {services : Services} {trace : List (PipelineLabel Pid)}
    {world : PipelineWorld} {after : PipelineConfig Pid} (reads : services.ReadsBack)
    (fresh : world.barEvents.entries = [] ∧ world.computed.entries = [] ∧
      world.risk.signals = [])
    (carrying : ∀ label ∈ trace, Carrying label)
    (ran : services.system.run (PipelineConfig.idle world) trace = some after) :
    ∃ batches, (tracing services).Matches after batches ∧
      Traced services (announced trace) after.world batches := by
  have assumed : (tracing services).Assumes (fun _ : Pid => none) trace :=
    Discipline.assumes_of_run (fun _ _ _ _ _ answered => answer_assumed answered)
      (fun _ => trivial) ran
  have matched := Discipline.matches_run entry_traces (Discipline.matches_initial world) assumed
    ran
  have each : ∀ roots world batches (label : PipelineLabel Pid) after,
      Traced services roots world batches → Carrying label →
      (tracing services).Moves services.system world batches label after →
      Traced services (roots ++ (announced? label).toList) after
        ((tracing services).track batches label) :=
    fun _ _ _ _ _ held carrying moved => held.step reads carrying moved
  have initial : Traced services [] world (fun _ : Pid => none) := by
    refine ⟨?_, ?_, ?_, nofun⟩
    · rw [fresh.1]
      exact nofun
    · rw [fresh.2.1]
      exact nofun
    · rw [fresh.2.2]
      exact nofun
  have traced := Discipline.run_recorded entry_traces each (Discipline.matches_initial world)
    initial assumed carrying ran
  rw [Discipline.foldl_said, List.nil_append] at traced
  exact ⟨_, matched, traced⟩

theorem Traced.verdict {services : Services} {roots : List Message}
    {config after : PipelineConfig Pid} {batches : Pid → Option Batch} {pid : Pid}
    {effect : RiskEffect} {reply : Except PyError effect.Reply} {verdict : Risk.Verdict}
    (traced : Traced services roots config.world batches)
    (matched : (tracing services).Matches config batches)
    (stepped : services.system.step config (.answer pid (.risk effect) reply) = some after)
    (given : Risk.verdictOf effect = some verdict) :
    ∃ entry ∈ config.world.risk.signals, ∃ signal,
      entry.fields.correlationId = some verdict.correlationId ∧
      services.risk.parseSignal entry.fields = .ok (some signal) ∧ verdict.Names signal ∧
      Holds config.world.computed.entries verdict.symbol signal.ltfTimeframe
        verdict.correlationId ∧
      Holds roots verdict.symbol signal.ltfTimeframe verdict.correlationId := by
  obtain ⟨batch, current, allowed, _⟩ := Discipline.matches_answer matched stepped
  rcases batch with messages | messages | messages <;> try exact allowed.elim
  have spoken : ∃ message ∈ messages, Answers services.risk message effect := by
    rcases allowed with silent | about
    · simp [silent] at given
    · exact about
  obtain ⟨message, member, about⟩ := spoken
  obtain ⟨passes, signal, parsed, named⟩ := about verdict given
  have entered := traced.handed pid _ current member
  obtain ⟨own, carried, known⟩ := traced.signals message entered
  obtain rfl := passes.carried carried
  have row := known signal parsed
  obtain ⟨entry, inRows, entryCarried, symbols, timeframes⟩ := row
  obtain ⟨rowId, rowCarried, root⟩ := traced.rows entry inRows
  rw [rowCarried, Option.some.injEq] at entryCarried
  subst entryCarried
  rw [symbols, timeframes] at root
  have row := known signal parsed
  rw [← named.symbol] at row root
  exact ⟨message, entered, signal, carried, parsed, named, row, root⟩

/-- A verdict of the risk gate goes back, under one correlation id, through the signal that it is
about and the feature row that fired it to a bar or row that was announced, all for one symbol
and timeframe. -/
theorem verdict_traced (services : Services) {trace before later : List (PipelineLabel Pid)}
    {world : PipelineWorld} {after : PipelineConfig Pid} {pid : Pid} {effect : RiskEffect}
    {reply : Except PyError effect.Reply} {verdict : Risk.Verdict} (reads : services.ReadsBack)
    (fresh : world.barEvents.entries = [] ∧ world.computed.entries = [] ∧
      world.risk.signals = [])
    (carrying : ∀ label ∈ trace, Carrying label)
    (ran : services.system.run (PipelineConfig.idle world) trace = some after)
    (here : trace = before ++ .answer pid (.risk effect) reply :: later)
    (given : Risk.verdictOf effect = some verdict) :
    ∃ reached, services.system.run (PipelineConfig.idle world) before = some reached ∧
      ∃ entry ∈ reached.world.risk.signals, ∃ signal,
        entry.fields.correlationId = some verdict.correlationId ∧
        services.risk.parseSignal entry.fields = .ok (some signal) ∧ verdict.Names signal ∧
        Holds reached.world.computed.entries verdict.symbol signal.ltfTimeframe
          verdict.correlationId ∧
        Holds (announced before) verdict.symbol signal.ltfTimeframe verdict.correlationId := by
  subst here
  obtain ⟨middle, reached, onward⟩ := services.system.run_append.mp ran
  obtain ⟨next, stepped, _⟩ := Option.bind_eq_some_iff.mp onward
  obtain ⟨batches, matched, traced⟩ := traced_of_run reads fresh
    (fun label member => carrying label (List.mem_append_left _ member)) reached
  exact ⟨middle, reached, traced.verdict matched stepped given⟩

end Interleavings

namespace Sample

def tracedServices : Services :=
  { services with
    dumps := fun signal =>
      if signal = Risk.Sample.signal signal.id then Risk.Sample.signalText signal.id else "" }

theorem readsBack : tracedServices.ReadsBack := by
  intro signal correlationId parsed read
  have fields : (tracedServices.signalFields signal correlationId).get? "signal" =
      some (tracedServices.dumps signal) := rfl
  obtain ⟨data, loaded, read⟩ := Risk.signalOf_eq_some fields read
  by_cases known : signal = Risk.Sample.signal signal.id
  · have text : tracedServices.dumps signal = Risk.Sample.signalText signal.id := if_pos known
    rw [text] at loaded
    have named := validate_loads loaded read
    have whole : parsed = Risk.Sample.signal parsed.id := by
      simp only [tracedServices, services, decoders, Risk.Sample.decoders] at read
      split at read
      · rw [← Option.some.inj read]
        rfl
      · simp at read
    rw [whole, named, ← known]
  · have text : tracedServices.dumps signal = "" := if_neg known
    have unread : tracedServices.risk.codec.loads "" =
        .error (.jsonDecodeError "Expecting value") := rfl
    rw [text, unread] at loaded
    cases loaded

def deciding : List (PipelineLabel Bool) :=
  storing ++ [.environment (.announceRow (announcement "1-0")), .start true .drainRows,
    .answer true (.signal (.xreadgroup 16)) (.ok [announcement "1-0"])] ++
  firing "1-0" idA dashedA ++
  [.start false (.risk .drain),
    .answer false (.risk (.xreadgroup 16)) (.ok [published 0 idA])] ++ (approving 0 idA []).take 4

def ordering : PipelineLabel Bool :=
  .answer false (.risk (.xaddApproved (Risk.orderOf (Risk.Sample.signal idA) (2 / 5))
    "c-1")) (.ok ())

end Sample

theorem verdict_traced_once : ∃ final,
    Sample.tracedServices.system.run (PipelineConfig.idle {})
      (Sample.deciding ++ [Sample.ordering]) = some final ∧
      Holds (announced Sample.deciding) Sample.symbol "M15" "c-1" := by
  have ran : (Sample.tracedServices.system.run (PipelineConfig.idle {})
      (Sample.deciding ++ [Sample.ordering])).isSome = true := by
    decide +kernel
  obtain ⟨final, reached⟩ := Option.isSome_iff_exists.mp ran
  refine ⟨final, reached, ?_⟩
  have carrying : ∀ label ∈ Sample.deciding ++ [Sample.ordering], Carrying label := by
    intro label member message said
    have only : announced (Sample.deciding ++ [Sample.ordering]) = [Sample.announcement "1-0"] :=
      rfl
    have known : message ∈ announced (Sample.deciding ++ [Sample.ordering]) :=
      List.mem_filterMap.mpr ⟨label, member, said⟩
    rw [only, List.mem_singleton] at known
    rw [known]
    decide +kernel
  obtain ⟨middle, earlier, entry, inStream, signal, carried, parsed, named, row, root⟩ :=
    verdict_traced Sample.tracedServices Sample.readsBack ⟨rfl, rfl, rfl⟩ carrying reached rfl rfl
  obtain ⟨announcement, member, own, symbols, timeframes⟩ := root
  have only : announced Sample.deciding = [Sample.announcement "1-0"] := rfl
  have same := member
  rw [only, List.mem_singleton] at same
  refine ⟨announcement, member, own, symbols, ?_⟩
  rw [same]
  rfl

end Pipeline

end Vix75
