import Vix75.PipelineChecks
import Vix75.ProgramRuns

/-! The levels of an approved order: the engine fixes the sides of stop and target, rounding keeps
them, and the risk gate fixes the distances. -/

namespace Vix75

open EffectProgram DecimalRounding

section Levels

variable {α : Type} [AddCommGroup α] [LinearOrder α]

/-- The stop on the losing side of the entry and the target on the winning side, each at least
`distance` away. -/
def Bracketed (direction : Direction) (distance entry sl tp : α) : Prop :=
  match direction with
  | .buy => sl ≤ entry - distance ∧ entry + distance ≤ tp
  | .sell => entry + distance ≤ sl ∧ tp ≤ entry - distance

theorem Bracketed.map {direction : Direction} {entry sl tp : α} {round : α → α}
    (mono : Monotone round) (sides : Bracketed direction 0 entry sl tp) :
    Bracketed direction 0 (round entry) (round sl) (round tp) := by
  cases direction <;> simp only [Bracketed, sub_zero, add_zero] at sides ⊢
  · exact ⟨mono sides.1, mono sides.2⟩
  · exact ⟨mono sides.1, mono sides.2⟩

variable [IsOrderedAddMonoid α]

theorem Bracketed.widen {direction : Direction} {distance entry sl tp : α}
    (sides : Bracketed direction 0 entry sl tp) (slFar : distance ≤ |entry - sl|)
    (tpFar : distance ≤ |tp - entry|) : Bracketed direction distance entry sl tp := by
  cases direction <;> simp only [Bracketed, sub_zero, add_zero] at sides ⊢
  · rw [abs_of_nonneg (sub_nonneg.mpr sides.1)] at slFar
    rw [abs_of_nonneg (sub_nonneg.mpr sides.2)] at tpFar
    exact ⟨le_sub_comm.mp slFar, add_comm distance entry ▸ le_sub_iff_add_le.mp tpFar⟩
  · rw [abs_sub_comm, abs_of_nonneg (sub_nonneg.mpr sides.1)] at slFar
    rw [abs_sub_comm, abs_of_nonneg (sub_nonneg.mpr sides.2)] at tpFar
    exact ⟨add_comm distance entry ▸ le_sub_iff_add_le.mp slFar, le_sub_comm.mp tpFar⟩

end Levels

/-! The sides that the engine builds -/

namespace SignalEngine

variable {engine : SignalEngine ℚ} {ltf : LtfSnapshot ℚ}

theorem zoneEdge_demand (ltf : LtfSnapshot ℚ) : zoneEdge .demand ltf ≤ ltf.close := by
  unfold zoneEdge
  split
  · rename_i zone found
    have held := List.find?_some found
    simp only [contains, Bool.and_eq_true, decide_eq_true_eq] at held
    exact held.2.1
  · exact le_rfl

theorem zoneEdge_supply (ltf : LtfSnapshot ℚ) : ltf.close ≤ zoneEdge .supply ltf := by
  unfold zoneEdge
  split
  · rename_i zone found
    have held := List.find?_some found
    simp only [contains, Bool.and_eq_true, decide_eq_true_eq] at held
    exact held.2.2
  · exact le_rfl

theorem levels_bracketed (kind : ZoneKind) (buffer : 0 ≤ engine.slAtrBuffer)
    (reward : 0 < engine.rrTp1) (atr : 0 ≤ ltf.atr) :
    Bracketed (directionOf kind) 0 ltf.close (engine.levels ltf (directionOf kind) kind).1
      (engine.levels ltf (directionOf kind) kind).2.1 := by
  have room : 0 ≤ engine.slAtrBuffer * ltf.atr := mul_nonneg buffer atr
  cases kind with
  | demand =>
      have edge := zoneEdge_demand ltf
      simp only [directionOf, levels, Bracketed, pyMin_eq_min, sub_zero, add_zero]
      have below : min (zoneEdge .demand ltf - engine.slAtrBuffer * ltf.atr)
          (ltf.close - PyMath.ofRat (1 / 10) * ltf.atr) ≤ ltf.close :=
        (min_le_left _ _).trans (by linarith)
      exact ⟨below, le_add_of_nonneg_right (mul_nonneg reward.le (sub_nonneg.mpr below))⟩
  | supply =>
      have edge := zoneEdge_supply ltf
      simp only [directionOf, levels, Bracketed, pyMax_eq_max, sub_zero, add_zero]
      have above : ltf.close ≤ max (zoneEdge .supply ltf + engine.slAtrBuffer * ltf.atr)
          (ltf.close + PyMath.ofRat (1 / 10) * ltf.atr) :=
        le_trans (by linarith) (le_max_left _ _)
      exact ⟨above, sub_le_self _ (mul_nonneg reward.le (sub_nonneg.mpr above))⟩

theorem fired_bracketed {market : MarketContext ℚ} {id : String} {signal : Signal ℚ}
    (buffer : 0 ≤ engine.slAtrBuffer) (reward : 0 < engine.rrTp1) (atr : 0 ≤ ltf.atr)
    (fired : (engine.evaluate id ltf market).signal = some signal) :
    Bracketed signal.direction 0 signal.entry signal.sl signal.tp1 := by
  obtain ⟨kind, score, components, _, rfl⟩ := evaluate_builds fired
  exact (levels_bracketed kind buffer reward atr).map fun _ _ => roundDigits_mono 5

end SignalEngine

namespace Risk

/-- `text` is what the key of the symbol holds; all other replies are free. -/
def SpecRead (symbol : String) (text : Option String) :
    (effect : RiskEffect) → Except PyError effect.Reply → Option String → Prop
  | .get key, .ok raw, after => (key = symbolKey symbol → raw = text) ∧ after = text
  | _, _, after => after = text

section Gate

theorem distances_of_validated {entry sl tp : ℚ} {constraints : SymbolConstraints ℚ}
    (level : 0 < constraints.stopsLevelPoints * constraints.point)
    (validated : validateStopDistances entry sl tp constraints = none) :
    constraints.stopsLevelPoints * constraints.point ≤ |entry - sl| ∧
      constraints.stopsLevelPoints * constraints.point ≤ |tp - entry| := by
  unfold validateStopDistances at validated
  dsimp only [PyMath.ofInt, PyMath.abs, PyMath.ofRat, id] at validated
  rw [if_neg (not_le.mpr level)] at validated
  split_ifs at validated with slNear tpNear
  exact ⟨not_lt.mp slNear, not_lt.mp tpNear⟩

variable {consumer : RiskConsumer} {signal : Signal ℚ} {text after : Option String}

theorem specRead_runs {α : Type} {symbol : String} {program : Program α}
    {result : Except PyError α} (ran : program.Runs (SpecRead symbol) text result after) :
    after = text := by
  refine ran.frame id (Prog.uses_of_forall (fun _ => trivial) program) ?_
  intro effect _ world reply after answered
  cases effect <;> cases reply <;> first
    | exact (answered : after = world)
    | exact (answered : _ ∧ after = world).2

theorem decide_keeps_distance {decision : Decision ℚ}
    (decided : (consumer.decide signal).Runs (SpecRead signal.symbol) text (.ok decision) after)
    (approved : decision.approved = true) :
    ∃ constraints, consumer.codec.constraints text = .ok (some constraints) ∧
      validateStopDistances signal.entry signal.sl signal.tp1 constraints = none := by
  obtain ⟨hint, _, loaded, fromPreflight⟩ := Prog.runs_bind_ok.mp decided
  obtain rfl := specRead_runs loaded
  obtain ⟨reason, _, checked, fromGates⟩ := Prog.runs_bind_ok.mp fromPreflight
  obtain rfl := specRead_runs checked
  cases reason with
  | some reason =>
      cases fromGates.1
      cases approved
  | none =>
      obtain ⟨account, _, reloaded, fromSpec⟩ := Prog.runs_bind_ok.mp fromGates
      obtain rfl := specRead_runs reloaded
      obtain ⟨constraints, _, specified, fromStops⟩ := Prog.runs_bind_ok.mp fromSpec
      obtain ⟨raw, _, got, parsed⟩ := Prog.runs_bind_ok.mp specified
      obtain ⟨rawEq, rfl⟩ := Prog.runs_perform.mp got
      obtain ⟨read, rfl⟩ := Prog.runs_ofExcept.mp parsed
      obtain rfl := rawEq rfl
      have unapproved {rest : String} : ¬(Except.ok decision : Except PyError _) =
          .ok (.refusal .accountDataUnavailable rest) := by
        rintro same
        obtain rfl := Except.ok.inj same
        cases approved
      cases account with
      | none => exact absurd fromStops.1 unapproved
      | some account =>
          cases constraints with
          | none => exact absurd fromStops.1 unapproved
          | some constraints =>
              dsimp only at fromStops
              split at fromStops
              · cases fromStops.1
                cases approved
              · exact ⟨constraints, read.symm, ‹_›⟩

/-- Whatever the engine is configured to and the snapshots say, an approved order has its stop and
its target at least the stops level away, on their sides of the entry. -/
theorem order_bracketed (engine : SignalEngine ℚ) (ltf : LtfSnapshot ℚ) (market : MarketContext ℚ)
    (id : String) (consumer : RiskConsumer) (signal : Signal ℚ) (text after : Option String)
    (constraints : SymbolConstraints ℚ) (decision : Decision ℚ)
    (buffer : 0 ≤ engine.slAtrBuffer) (reward : 0 < engine.rrTp1) (atr : 0 ≤ ltf.atr)
    (fired : (engine.evaluate id ltf market).signal = some signal)
    (spec : consumer.codec.constraints text = .ok (some constraints))
    (level : 0 < constraints.stopsLevelPoints * constraints.point)
    (decided : (consumer.decide signal).Runs (SpecRead signal.symbol) text (.ok decision) after)
    (approved : decision.approved = true) :
    let order := orderOf signal decision.lots
    Bracketed order.direction (constraints.stopsLevelPoints * constraints.point) order.entry
      order.sl order.tp := by
  obtain ⟨_, same, kept⟩ := decide_keeps_distance decided approved
  obtain rfl := Option.some.inj (Except.ok.inj (spec.symm.trans same))
  obtain ⟨slFar, tpFar⟩ := distances_of_validated level kept
  exact (SignalEngine.fired_bracketed buffer reward atr fired).widen slFar tpFar

end Gate

namespace Sample

deriving instance DecidableEq for Decision

def readingSpec (text : Option String) :
    (effect : RiskEffect) → Except PyError effect.Reply × Option String
  | .get key => (.ok (if key = accountKey then some accountText else text), text)
  | .hgetall => (.ok [], text)
  | _ => (.error .assertionError, text)

def approvedA : Decision ℚ := { approved := true, lots := 2 / 5, riskAmount := 200 }

theorem readingSpec_reads (text : Option String) (effect : RiskEffect) :
    SpecRead (signal "a").symbol text effect (readingSpec text effect).1
      (readingSpec text effect).2 := by
  cases effect with
  | get key =>
      refine ⟨fun same => ?_, rfl⟩
      have other : symbolKey (signal "a").symbol ≠ accountKey := by decide
      simp [same, other]
  | _ => rfl

theorem decided_a : ((consumer 3).decide (signal "a")).Runs (SpecRead (signal "a").symbol)
    (some specText) (.ok approvedA) (some specText) := by
  have ended : Prog.eval readingSpec (some specText) ((consumer 3).decide (signal "a")) =
      (.ok approvedA, some specText) := by decide +kernel
  have ran : ((consumer 3).decide (signal "a")).Runs (SpecRead (signal "a").symbol) (some specText)
      (Prog.eval readingSpec (some specText) ((consumer 3).decide (signal "a"))).1
      (Prog.eval readingSpec (some specText) ((consumer 3).decide (signal "a"))).2 :=
    Prog.runs_eval (fun _ => True) (Prog.uses_of_forall (fun _ => trivial) _) trivial
      fun effect _ text _ => ⟨readingSpec_reads text effect, trivial⟩
  rwa [ended] at ran

end Sample

theorem order_bracketed_buy : Bracketed Direction.buy (1 / 2 : ℚ) 100 95 110 := by
  have fired : ((Signalling.engineOf {}).evaluate "a" Pipeline.Sample.ltf
      Pipeline.Sample.market).signal = some (Sample.signal "a") := by decide +kernel
  have spec : (Sample.consumer 3).codec.constraints (some Sample.specText) =
      .ok (some Sample.spec) := by decide +kernel
  have level : 0 < Sample.spec.stopsLevelPoints * Sample.spec.point := by decide +kernel
  have distance : Sample.spec.stopsLevelPoints * Sample.spec.point = 1 / 2 := by decide +kernel
  rw [← distance]
  exact order_bracketed (Signalling.engineOf {}) Pipeline.Sample.ltf Pipeline.Sample.market "a"
    (Sample.consumer 3) (Sample.signal "a") _ _ Sample.spec Sample.approvedA (by decide +kernel)
    (by decide +kernel)
    (by decide +kernel) fired spec level Sample.decided_a rfl

end Risk

end Vix75
