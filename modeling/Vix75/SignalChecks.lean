import Vix75.SignalConsumer

/-! The order of the commands of a signal-service worker: what it fired is published before
it evaluates again. -/

namespace Vix75

open EffectProgram

namespace Signalling

variable {F : Type}

def Reading : SignalEffect F → Prop
  | .evaluate _ _ => False
  | .xaddGenerated _ _ => False
  | _ => True

/-- The ghost value is the signal that fired and is not published yet. -/
def holding : Discipline (SignalEffect F) SignalEffect.Reply PyError Unit (Option (Signal F)) where
  initial := fun _ => none
  allowed := fun held effect => match effect with
    | .evaluate _ _ => held = none
    | .xaddGenerated signal _ => held = some signal
    | _ => True
  advance := fun held effect reply => match effect, reply with
    | .evaluate _ _, .ok evaluation => evaluation.signal
    | .xaddGenerated _ _, _ => none
    | _, _ => held

theorem reading_inert (held : Option (Signal F)) (effect : SignalEffect F)
    (reading : Reading effect) : holding.allowed held effect ∧
      ∀ reply, holding.assumed held effect reply → holding.advance held effect reply = held := by
  cases effect <;> first | exact reading.elim | exact ⟨trivial, fun _ _ => rfl⟩

theorem wp_reading {α : Type} {program : Program F α} (held : Option (Signal F))
    (used : program.Uses Reading) :
    holding.wp held program (fun after _ => after = held) (fun _ _ => True) :=
  Discipline.wp_mono (Discipline.wp_of_uses used fun effect => reading_inert held effect)
    (fun _ _ same => same) (fun _ _ _ => trivial)

theorem correlation_reading (decoded : Fields) :
    (getOrCreateCorrelationId decoded : Program F String).Uses Reading := by
  unfold getOrCreateCorrelationId
  split
  · trivial
  · exact Prog.uses_perform trivial

theorem ensureGroup_reading : (ensureGroup : Program F Unit).Uses Reading := by
  refine Prog.uses_rescue (Prog.uses_perform trivial) fun error => ?_
  cases error <;> trivial

theorem readBatch_reading : (readBatch : Program F (List Message)).Uses Reading := by
  refine Prog.uses_rescue (Prog.uses_perform trivial) fun error => ?_
  cases error with
  | noGroup => exact Prog.uses_bind ensureGroup_reading fun _ => trivial
  | _ => exact Prog.uses_bind (Prog.uses_perform trivial) fun _ => trivial

section Consumer

variable [Add F] [Div F] [LT F] [DecidableLT F] [PyMath F]

omit [Add F] [Div F] [PyMath F] in
theorem fetchVotes_reading (symbol : String) (timeframes : List String) :
    (fetchVotes symbol timeframes : Program F (List String)).Uses Reading := by
  induction timeframes with
  | nil => trivial
  | cons timeframe rest ih =>
      refine Prog.uses_bind (Prog.uses_perform trivial) fun row => ?_
      refine Prog.uses_bind ih fun votes => ?_
      split <;> trivial

theorem marketContext_reading (consumer : SignalConsumer F) (symbol : String) :
    (consumer.marketContext symbol).Uses Reading := by
  refine Prog.uses_bind (Prog.uses_perform trivial) fun regimeRaw => ?_
  refine Prog.uses_bind (Prog.uses_perform trivial) fun metaRaw => ?_
  refine Prog.uses_bind (Prog.uses_ofExcept _) fun regime => ?_
  refine Prog.uses_bind (Prog.uses_ofExcept _) fun pWin => ?_
  exact Prog.uses_bind (Prog.uses_bind (fetchVotes_reading _ _) fun _ => trivial) fun _ => trivial

omit [Add F] [Div F] [LT F] [DecidableLT F] [PyMath F] in
theorem fetchLtfRow_reading (symbol timeframe : String) :
    (fetchLtfRow symbol timeframe : Program F (Option (LtfSnapshot F))).Uses Reading := by
  refine Prog.uses_bind (Prog.uses_perform trivial) fun row => ?_
  cases row with
  | none => trivial
  | some row => exact Prog.uses_bind (Prog.uses_ofExcept _) fun _ => trivial

omit [Add F] [Div F] [LT F] [DecidableLT F] [PyMath F] in
theorem publish_holds (signal : Signal F) (correlationId : String) :
    holding.wp (some signal) (SignalConsumer.publish signal correlationId)
      (fun after _ => after = none) (fun _ _ => True) := by
  unfold SignalConsumer.publish
  refine Discipline.wp_seq _ (wp_reading _ (Prog.uses_ofExcept _)) ?_
  rintro after id rfl
  refine Discipline.wp_perform_bind trivial (fun _ _ => trivial) fun _ _ => ?_
  rw [Discipline.wp_perform]
  exact ⟨rfl, fun _ _ => rfl, fun _ _ => trivial⟩

theorem handle_holds (consumer : SignalConsumer F) (decoded : Fields) :
    holding.wp none (consumer.handle decoded) (fun after _ => after = none)
      (fun _ _ => True) := by
  unfold SignalConsumer.handle
  refine Discipline.wp_seq _ (wp_reading _ (correlation_reading _)) ?_
  rintro after correlationId rfl
  dsimp only
  split
  · rfl
  · refine Discipline.wp_seq _ (wp_reading _ (marketContext_reading _ _)) ?_
    rintro after market rfl
    refine Discipline.wp_seq _ (wp_reading _ (fetchLtfRow_reading _ _)) ?_
    rintro after row rfl
    cases row with
    | none => rfl
    | some ltf =>
        refine Discipline.wp_perform_bind rfl (fun _ _ => trivial) fun evaluation _ => ?_
        change holding.wp evaluation.signal _ _ _
        cases evaluation.signal with
        | none => rfl
        | some signal => exact publish_holds signal correlationId

theorem drain_holds (consumer : SignalConsumer F) :
    holding.wp none (drain consumer) (fun after _ => after = none) (fun _ _ => True) := by
  refine Discipline.wp_seq _ (wp_reading _ readBatch_reading) ?_
  rintro after messages rfl
  refine Discipline.wp_forEach (fun _ held => held = none) rfl ?_
  rintro message rest current rfl
  refine Discipline.wp_seq _ (handle_holds consumer message.fields) ?_
  rintro after _ rfl
  exact wp_reading _ (Prog.uses_perform trivial)

end Consumer

end Signalling

end Vix75
