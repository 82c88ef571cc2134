import Mathlib.Algebra.Order.Field.Basic
import Mathlib.Order.Interval.Set.Defs
import Vix75.ZoneChecks

/-! The zone lifecycle over whole runs of bars: what the state and the touches of a zone tell of the
bars so far. -/

namespace Vix75

open PyMath

def ZoneState.rank : ZoneState → ℕ
  | .fresh => 0
  | .tested => 1
  | .mitigated => 2
  | .broken => 3

namespace ZoneEngineConfig

section Steps

variable {F : Type} [Add F] [Sub F] [Mul F] [LT F] [LE F] [DecidableLT F] [DecidableLE F]
variable [PyMath F] (cfg : ZoneEngineConfig F)

def runAll (zones : List (Zone F)) (steps : List (Bar F × F)) : List (Zone F) :=
  steps.foldl (fun zones step => (cfg.updateAll zones step.1 step.2).1) zones

def returned (zones : List (Zone F)) (steps : List (Bar F × F)) : List (Zone F) :=
  match steps.getLast? with
  | none => []
  | some step => (cfg.updateAll (cfg.runAll zones steps.dropLast) step.1 step.2).2

theorem runAll_eq (zones : List (Zone F)) (steps : List (Bar F × F)) :
    cfg.runAll zones steps = zones.map fun zone => cfg.advance zone steps := by
  induction steps generalizing zones with
  | nil => simp [runAll]
  | cons step later ih =>
      have first : cfg.runAll zones (step :: later) =
          cfg.runAll (zones.map fun zone => cfg.update zone step.1 step.2) later := rfl
      rw [first, ih, List.map_map]
      rfl

theorem returned_eq (zones : List (Zone F)) {steps : List (Bar F × F)} (some : steps ≠ []) :
    cfg.returned zones steps = (cfg.runAll zones steps).filter cfg.active := by
  obtain ⟨step, last⟩ := Option.isSome_iff_exists.mp (List.getLast?_isSome.mpr some)
  have whole := List.dropLast_append_getLast? step last
  have run : cfg.runAll zones steps =
      (cfg.updateAll (cfg.runAll zones steps.dropLast) step.1 step.2).1 := by
    rw [← whole, runAll, List.foldl_append, List.dropLast_concat]
    rfl
  rw [run, returned, last]
  rfl

theorem advance_append (zone : Zone F) (steps later : List (Bar F × F)) :
    cfg.advance zone (steps ++ later) = cfg.advance (cfg.advance zone steps) later :=
  List.foldl_append

theorem update_touched {zone : Zone F} {bar : Bar F} {atrValue : F} (going : zone.state ≠ .broken)
    (holds : cfg.broken zone bar atrValue = false) (reached : touched zone bar = true) :
    cfg.update zone bar atrValue = { zone with
      touches := zone.touches + 1
      state := if cfg.mitigated zone bar then .mitigated
        else if zone.state = .fresh then .tested else zone.state } := by
  unfold update
  rw [if_neg going, if_neg (by simp [holds]), if_pos reached]

/-- What the bars so far say of an unbroken zone, and that the lifecycle changes nothing else. -/
structure Tracks (zone : Zone F) (steps : List (Bar F × F)) (now : Zone F) : Prop where
  identity : { now with state := zone.state, touches := zone.touches } = zone
  touches : now.state ≠ .broken → now.touches = steps.countP fun step => touched zone step.1
  fresh : now.state ≠ .broken → (now.state = .fresh ↔ now.touches = 0)
  mitigated : now.state ≠ .broken → (now.state = .mitigated ↔
    ∃ step ∈ steps, touched zone step.1 = true ∧ cfg.mitigated zone step.1 = true)

variable {cfg} {zone now : Zone F} {steps : List (Bar F × F)}

omit [Add F] in
theorem Tracks.start (fresh : zone.state = .fresh) (untouched : zone.touches = 0) :
    cfg.Tracks zone [] zone where
  identity := rfl
  touches := fun _ => untouched
  fresh := fun _ => by simp [fresh, untouched]
  mitigated := fun _ => by simp [fresh]

omit [Add F] in
theorem Tracks.reads (tracks : cfg.Tracks zone steps now) (bar : Bar F) :
    touched now bar = touched zone bar ∧ cfg.mitigated now bar = cfg.mitigated zone bar := by
  rw [← tracks.identity]
  exact ⟨rfl, rfl⟩

theorem Tracks.step (tracks : cfg.Tracks zone steps now) (bar : Bar F) (atrValue : F) :
    cfg.Tracks zone (steps ++ [(bar, atrValue)]) (cfg.update now bar atrValue) := by
  obtain ⟨sameTouch, sameDepth⟩ := tracks.reads bar
  by_cases stopped : now.state = .broken
  · rw [cfg.update_broken stopped]
    exact ⟨tracks.identity, fun going => absurd stopped going, fun going => absurd stopped going,
      fun going => absurd stopped going⟩
  by_cases through : cfg.broken now bar atrValue = true
  · have update : cfg.update now bar atrValue = { now with state := .broken } := by
      rw [ZoneEngineConfig.update, if_neg stopped, if_pos through]
    rw [update]
    exact ⟨tracks.identity, fun going => absurd rfl going, fun going => absurd rfl going,
      fun going => absurd rfl going⟩
  rw [Bool.not_eq_true] at through
  by_cases reached : touched now bar = true
  · rw [cfg.update_touched stopped through reached]
    rw [sameTouch] at reached
    have met : now.touches + 1 ≠ 0 := by
      rw [tracks.touches stopped]
      omega
    refine ⟨tracks.identity, fun _ => ?_, fun _ => ?_, fun _ => ?_⟩
    · simp [List.countP_append, tracks.touches stopped, reached]
    · by_cases deep : cfg.mitigated now bar = true
      · simp [deep, met]
      · by_cases first : now.state = .fresh <;> simp [deep, first, met]
    · by_cases deep : cfg.mitigated now bar = true
      · have deepHere := sameDepth.symm.trans deep
        simp [deep, deepHere, reached]
      · have shallow : ¬cfg.mitigated zone bar = true := sameDepth ▸ deep
        have before := tracks.mitigated stopped
        by_cases first : now.state = .fresh
        · simpa [deep, shallow, first] using before
        · simpa [deep, shallow, first] using before
  · have quiet : cfg.Quiet now bar atrValue := ⟨by simpa using reached, through⟩
    rw [cfg.update_quiet quiet]
    rw [sameTouch] at reached
    refine ⟨tracks.identity, fun _ => ?_, tracks.fresh, fun _ => ?_⟩
    · simp [List.countP_append, tracks.touches stopped, reached]
    · simp [tracks.mitigated stopped, reached]

theorem tracks_advance (fresh : zone.state = .fresh) (untouched : zone.touches = 0)
    (steps : List (Bar F × F)) : cfg.Tracks zone steps (cfg.advance zone steps) := by
  induction steps using List.reverseRecOn with
  | nil => exact .start fresh untouched
  | append_singleton steps step ih =>
      rw [advance_append]
      exact ih.step step.1 step.2

/-! What no bar undoes -/

variable (cfg)

theorem rank_le_update (zone : Zone F) (bar : Bar F) (atrValue : F) :
    zone.state.rank ≤ (cfg.update zone bar atrValue).state.rank := by
  unfold update
  split
  · exact le_refl _
  rename_i going
  split
  · exact (by cases zone.state <;> decide : zone.state.rank ≤ ZoneState.broken.rank)
  split
  · dsimp only
    split
    · cases state : zone.state <;> simp_all [ZoneState.rank]
    · split
      · simp_all [ZoneState.rank]
      · exact le_refl _
  · exact le_refl _

theorem rank_le_advance (zone : Zone F) (later : List (Bar F × F)) :
    zone.state.rank ≤ (cfg.advance zone later).state.rank := by
  induction later generalizing zone with
  | nil => exact le_refl _
  | cons step later ih => exact (cfg.rank_le_update zone step.1 step.2).trans (ih _)

theorem active_of_advance {zone : Zone F} {later : List (Bar F × F)}
    (active : cfg.active (cfg.advance zone later) = true) : cfg.active zone = true := by
  simp only [ZoneEngineConfig.active, Bool.and_eq_true, decide_eq_true_eq] at active ⊢
  refine ⟨fun stopped => active.1 ?_, (cfg.touches_le_advance zone later).trans active.2⟩
  rw [cfg.advance_broken stopped, stopped]

end Steps

section Exact

variable {F : Type} [Field F] [LinearOrder F] [IsStrictOrderedRing F] [PyMath F] [ExactMath F]
variable (cfg : ZoneEngineConfig F)

def Meets (zone : Zone F) (bar : Bar F) : Prop := zone.bottom ≤ bar.high ∧ bar.low ≤ zone.top

instance (zone : Zone F) (bar : Bar F) : Decidable (Meets zone bar) :=
  inferInstanceAs (Decidable (_ ∧ _))

def penetration (zone : Zone F) (close : F) : F :=
  match zone.kind with
  | .demand => zone.top - min (max close zone.bottom) zone.top
  | .supply => min (max close zone.bottom) zone.top - zone.bottom

omit [Field F] [IsStrictOrderedRing F] [PyMath F] [ExactMath F] in
theorem touched_iff {zone : Zone F} {bar : Bar F} :
    touched zone bar = true ↔ Meets zone bar := by
  simp [touched, Meets]

theorem mitigated_iff (positive : 0 < cfg.mitigationLevel) {zone : Zone F} {bar : Bar F} :
    cfg.mitigated zone bar = true ↔
      cfg.mitigationLevel * (zone.top - zone.bottom) ≤ penetration zone bar.close ∧
        0 < cfg.mitigationLevel * (zone.top - zone.bottom) := by
  simp only [mitigated, penetration, pyMin_eq_min, pyMax_eq_max, ExactMath.ofRat_eq,
    Rat.cast_zero, Bool.and_eq_true, decide_eq_true_eq]
  rw [mul_pos_iff_of_pos_left positive]
  cases zone.kind <;> exact and_comm

structure Lives (zone : Zone F) (steps : List (Bar F × F)) (now : Zone F) : Prop where
  identity : { now with state := zone.state, touches := zone.touches } = zone
  touches : now.state ≠ .broken →
    now.touches = (steps.filter fun step => Meets zone step.1).length
  fresh : now.state ≠ .broken → (now.state = .fresh ↔ now.touches = 0)
  mitigated : now.state ≠ .broken → (now.state = .mitigated ↔ ∃ step ∈ steps, Meets zone step.1 ∧
    cfg.mitigationLevel * (zone.top - zone.bottom) ≤ penetration zone step.1.close ∧
      0 < cfg.mitigationLevel * (zone.top - zone.bottom))

variable {cfg}

theorem Tracks.lives (positive : 0 < cfg.mitigationLevel) {zone now : Zone F}
    {steps : List (Bar F × F)} (tracks : cfg.Tracks zone steps now) : cfg.Lives zone steps now where
  identity := tracks.identity
  touches := fun going => by
    rw [tracks.touches going, List.countP_eq_length_filter]
    congr 2
    refine List.filter_congr fun step _ => ?_
    rw [Bool.eq_iff_iff, touched_iff, decide_eq_true_eq]
  fresh := tracks.fresh
  mitigated := fun going => by
    simp only [tracks.mitigated going, touched_iff, mitigated_iff cfg positive]

/-- Over every run of bars, zones keep their places and their identity, never go back in the
lifecycle, and count the bars that met them; broken ones are left alone, and one that was not
returned is never returned again. -/
theorem zone_lifecycle (cfg : ZoneEngineConfig F) (positive : 0 < cfg.mitigationLevel)
    (zones : List (Zone F)) (fresh : ∀ zone ∈ zones, zone.state = .fresh ∧ zone.touches = 0)
    (steps later : List (Bar F × F)) :
    (cfg.runAll zones steps).length = zones.length ∧
      ∀ (i : ℕ) (zone : Zone F), zones[i]? = some zone → ∃ now after,
        (cfg.runAll zones steps)[i]? = some now ∧
        (cfg.runAll zones (steps ++ later))[i]? = some after ∧ cfg.Lives zone steps now ∧
        now.state.rank ≤ after.state.rank ∧ (now.state = .broken → after = now) ∧
        (steps ≠ [] → now ∉ cfg.returned zones steps →
          after ∉ cfg.returned zones (steps ++ later)) := by
  refine ⟨by rw [runAll_eq, List.length_map], fun i zone here => ?_⟩
  obtain ⟨first, untouched⟩ := fresh zone (List.mem_of_getElem? here)
  have now : (cfg.runAll zones steps)[i]? = some (cfg.advance zone steps) := by
    rw [runAll_eq, List.getElem?_map, here, Option.map_some]
  have after : (cfg.runAll zones (steps ++ later))[i]? =
      some (cfg.advance (cfg.advance zone steps) later) := by
    rw [runAll_eq, List.getElem?_map, here, Option.map_some, advance_append]
  refine ⟨_, _, now, after, (tracks_advance first untouched steps).lives positive,
    cfg.rank_le_advance _ later, fun stopped => cfg.advance_broken stopped later,
    fun some absent present => absent ?_⟩
  rw [returned_eq cfg zones some]
  rw [returned_eq cfg zones (List.append_ne_nil_of_left_ne_nil some later)] at present
  exact List.mem_filter.mpr ⟨List.mem_of_getElem? now,
    cfg.active_of_advance (List.mem_filter.mp present).2⟩

theorem zone_lifecycle_demand : ∃ now,
    (zoneEngineConfig.runAll [Sample.demandZone] [(Sample.candle 196 106 104, 1)])[0]? = some now ∧
      zoneEngineConfig.Lives Sample.demandZone [(Sample.candle 196 106 104, 1)] now := by
  obtain ⟨now, _, here, _, lives, _⟩ := (zone_lifecycle zoneEngineConfig (by decide +kernel)
    [Sample.demandZone] (by simp [Sample.demandZone]) [(Sample.candle 196 106 104, 1)]
    [(Sample.candle 197 104 90, 1)]).2 0 _ rfl
  exact ⟨now, here, lives⟩

end Exact

end ZoneEngineConfig

end Vix75
