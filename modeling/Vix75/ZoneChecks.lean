import Vix75.IndicatorBounds

/-! Published zones against the zone lifecycle. A snapshot publishes every zone as it was
detected; it is live exactly when no later bar of the window reaches one. -/

namespace Vix75

open PyMath

variable {F : Type}

namespace ZoneEngineConfig

section Lifecycle

variable [Add F] [Sub F] [Mul F] [LT F] [LE F] [DecidableLT F] [DecidableLE F] [PyMath F]
variable (cfg : ZoneEngineConfig F)

def advance (zone : Zone F) (later : List (Bar F × F)) : Zone F :=
  later.foldl (fun zone step => cfg.update zone step.1 step.2) zone

def Quiet (zone : Zone F) (bar : Bar F) (atrValue : F) : Prop :=
  touched zone bar = false ∧ cfg.broken zone bar atrValue = false

instance (zone : Zone F) (bar : Bar F) (atrValue : F) : Decidable (cfg.Quiet zone bar atrValue) :=
  inferInstanceAs (Decidable (_ ∧ _))

theorem update_cases (zone : Zone F) (bar : Bar F) (atrValue : F) :
    (cfg.update zone bar atrValue = zone ∧ (zone.state = .broken ∨ cfg.Quiet zone bar atrValue)) ∨
    (cfg.update zone bar atrValue = { zone with state := .broken } ∧
      cfg.broken zone bar atrValue = true) ∨
    (∃ state, cfg.update zone bar atrValue = { zone with touches := zone.touches + 1, state } ∧
      state ≠ .broken ∧ touched zone bar = true) := by
  unfold update
  by_cases stopped : zone.state = .broken
  · exact .inl ⟨if_pos stopped, .inl stopped⟩
  · rw [if_neg stopped]
    by_cases through : cfg.broken zone bar atrValue = true
    · exact .inr (.inl ⟨if_pos through, through⟩)
    · rw [if_neg through]
      by_cases reached : touched zone bar = true
      · rw [if_pos reached]
        refine .inr (.inr ⟨_, rfl, ?_, reached⟩)
        split
        · decide
        · split
          · decide
          · exact stopped
      · exact .inl ⟨if_neg reached, .inr ⟨by simpa using reached, by simpa using through⟩⟩

theorem update_quiet {zone : Zone F} {bar : Bar F} {atrValue : F}
    (quiet : cfg.Quiet zone bar atrValue) : cfg.update zone bar atrValue = zone := by
  obtain ⟨same, _⟩ | ⟨_, through⟩ | ⟨_, _, _, reached⟩ := cfg.update_cases zone bar atrValue
  · exact same
  · simp [quiet.2] at through
  · simp [quiet.1] at reached

theorem update_broken {zone : Zone F} (stopped : zone.state = .broken) (bar : Bar F)
    (atrValue : F) : cfg.update zone bar atrValue = zone := by
  unfold update
  exact if_pos stopped

theorem touches_le_update (zone : Zone F) (bar : Bar F) (atrValue : F) :
    zone.touches ≤ (cfg.update zone bar atrValue).touches := by
  obtain ⟨same, _⟩ | ⟨same, _⟩ | ⟨_, same, _⟩ := cfg.update_cases zone bar atrValue <;>
    simp [same]

theorem update_disturbed {zone : Zone F} {bar : Bar F} {atrValue : F}
    (going : zone.state ≠ .broken) (disturbed : ¬cfg.Quiet zone bar atrValue) :
    (cfg.update zone bar atrValue).state = .broken ∨
      zone.touches < (cfg.update zone bar atrValue).touches := by
  obtain ⟨_, stopped | quiet⟩ | ⟨same, _⟩ | ⟨_, same, _⟩ := cfg.update_cases zone bar atrValue
  · exact absurd stopped going
  · exact absurd quiet disturbed
  · exact .inl (by rw [same])
  · exact .inr (by simp [same])

@[simp] theorem advance_nil (zone : Zone F) : cfg.advance zone [] = zone := rfl

@[simp] theorem advance_cons (zone : Zone F) (step : Bar F × F) (later : List (Bar F × F)) :
    cfg.advance zone (step :: later) = cfg.advance (cfg.update zone step.1 step.2) later := rfl

theorem advance_broken {zone : Zone F} (stopped : zone.state = .broken)
    (later : List (Bar F × F)) : cfg.advance zone later = zone := by
  induction later with
  | nil => rfl
  | cons step later ih => rw [advance_cons, update_broken cfg stopped, ih]

theorem touches_le_advance (zone : Zone F) (later : List (Bar F × F)) :
    zone.touches ≤ (cfg.advance zone later).touches := by
  induction later generalizing zone with
  | nil => exact le_refl _
  | cons step later ih =>
      exact (cfg.touches_le_update zone step.1 step.2).trans (ih _)

theorem advance_eq_self_iff {zone : Zone F} (going : zone.state ≠ .broken)
    (later : List (Bar F × F)) :
    cfg.advance zone later = zone ↔ ∀ step ∈ later, cfg.Quiet zone step.1 step.2 := by
  induction later with
  | nil => simp
  | cons step later ih =>
      rw [advance_cons, List.forall_mem_cons]
      by_cases quiet : cfg.Quiet zone step.1 step.2
      · rw [cfg.update_quiet quiet, ih]
        exact ⟨fun rest => ⟨quiet, rest⟩, fun all => all.2⟩
      · refine ⟨fun same => ?_, fun all => absurd all.1 quiet⟩
        rcases cfg.update_disturbed going quiet with stopped | marked
        · rw [cfg.advance_broken stopped] at same
          rw [same] at stopped
          exact absurd stopped going
        · have grown := cfg.touches_le_advance (cfg.update zone step.1 step.2) later
          rw [same] at grown
          omega

end Lifecycle

/-! Detection -/

section Detection

variable [LT F] [DecidableLT F] [PyMath F]

theorem zoneAt_fresh {mint : ℕ → String} {arrays : Detection F} {i baseLen : ℕ}
    {origin : Origin F} (found : zoneAt mint arrays i baseLen = some origin) :
    origin.index = i ∧ origin.zone.state = .fresh ∧ origin.zone.touches = 0 := by
  unfold zoneAt at found
  split at found
  · simp at found
  · split at found
    · simp at found
    · simp only [Option.some.injEq] at found
      subst found
      exact ⟨rfl, rfl, rfl⟩

variable [LE F] [DecidableLE F] (cfg : ZoneEngineConfig F)

theorem scan_fresh {mint : ℕ → String} {arrays : Detection F} (fuel i : ℕ) :
    ∀ origin ∈ cfg.scan mint arrays fuel i,
      origin.zone.state = .fresh ∧ origin.zone.touches = 0 := by
  induction fuel generalizing i with
  | zero => simp [scan]
  | succ fuel ih =>
      intro origin member
      simp only [scan] at member
      split at member
      · split at member
        · simp only [List.mem_append, Option.mem_toList] at member
          rcases member with here | later
          · exact (zoneAt_fresh here).2
          · exact ih _ origin later
        · exact ih _ origin member
      · simp at member

theorem scan_skip (mint : ℕ → String) {arrays : Detection F} (fuel gap : ℕ) {i : ℕ}
    (inside : i + gap < arrays.bars.length)
    (quiet : ∀ j < gap, arrays.impulseMask.getD (i + j) false = false) :
    cfg.scan mint arrays (fuel + gap) i = cfg.scan mint arrays fuel (i + gap) := by
  induction gap generalizing i with
  | zero => rfl
  | succ gap ih =>
      have here : arrays.impulseMask.getD i false = false := quiet 0 (Nat.succ_pos gap)
      have later : ∀ j < gap, arrays.impulseMask.getD (i + 1 + j) false = false := by
        intro j before
        rw [Nat.add_assoc, Nat.add_comm 1 j]
        exact quiet (j + 1) (by omega)
      rw [← Nat.add_assoc, scan, if_pos (by omega), here, if_neg Bool.false_ne_true,
        ih (by omega) later, Nat.add_assoc, Nat.add_comm 1 gap]

variable [Add F] [Sub F] [Mul F] [Div F]

def barsAfter (bars : List (Bar F)) (index : ℕ) : List (Bar F × F) :=
  let atrValues := (Vix75.atr (bars.map Bar.high) (bars.map Bar.low) (bars.map Bar.close)
    cfg.atrPeriod).map fun value => value.getD (ofRat 0)
  (bars.zip atrValues).drop (index + 1)

/-- The lifecycle's answer: every detected zone advanced through the rest of its window,
without the broken ones. -/
def liveZones (bars : List (Bar F)) (origins : List (Origin F)) : List (Zone F) :=
  (origins.map fun origin => cfg.advance origin.zone (cfg.barsAfter bars origin.index)).filter
    fun zone => zone.state ≠ .broken

theorem detectZones_fresh {mint : ℕ → String} {bars : List (Bar F)} {origins : List (Origin F)}
    (found : cfg.detectZones mint bars = .ok origins) :
    ∀ origin ∈ origins, origin.zone.state = .fresh ∧ origin.zone.touches = 0 := by
  unfold detectZones at found
  split at found
  · simp only [Except.ok.injEq] at found
    subst found
    simp
  · split at found
    · simp at found
    · simp only [Except.ok.injEq] at found
      subst found
      intro origin member
      split at member
      · exact cfg.scan_fresh _ _ origin member
      · exact cfg.scan_fresh _ _ origin (List.mem_of_mem_drop member)

end Detection

end ZoneEngineConfig

open ZoneEngineConfig

section Snapshots

variable [Add F] [Sub F] [Mul F] [Div F] [LT F] [LE F] [DecidableLT F] [DecidableLE F]
variable [DecidableEq F] [PyMath F]

theorem snapshot_zones {numerics : Numerics F} {mint : ℕ → String} {bars : List (Bar F)}
    {symbol timeframe : String} {snapshot : Snapshot F} {origins : List (Origin F)}
    (accepted : snapshotFromBars numerics mint bars symbol timeframe = .ok snapshot)
    (found : (zoneEngineConfig : ZoneEngineConfig F).detectZones mint bars = .ok origins) :
    snapshot.zones = origins.map Origin.zone := by
  unfold snapshotFromBars at accepted
  split at accepted
  · simp at accepted
  · split at accepted
    · simp at accepted
    · simp only at accepted
      split at accepted
      · simp only [buildZones, found, bind, Except.bind, Except.ok.injEq] at accepted
        subst accepted
        refine List.filter_eq_self.mpr ?_
        intro zone member
        obtain ⟨origin, inside, rfl⟩ := List.mem_map.mp member
        simp [(zoneEngineConfig.detectZones_fresh found origin inside).1]
      · simp at accepted

theorem filter_map_eq_map_iff {α β : Type} {before after : α → β} {keep : β → Bool}
    {items : List α} (kept : ∀ item ∈ items, keep (before item) = true) :
    items.map before = (items.map after).filter keep ↔
      ∀ item ∈ items, after item = before item := by
  constructor
  · intro same
    have whole : (items.map after).filter keep = items.map after := by
      refine List.filter_sublist.eq_of_length ?_
      rw [← same, List.length_map, List.length_map]
    rw [whole] at same
    intro item member
    exact ((List.map_inj_left.mp same) item member).symm
  · intro same
    have maps : items.map after = items.map before := List.map_congr_left same
    rw [maps]
    refine (List.filter_eq_self.mpr ?_).symm
    intro value member
    obtain ⟨item, inside, rfl⟩ := List.mem_map.mp member
    exact kept item inside

/-- Every accepted window publishes live zones exactly when no bar after a detected zone
touches it or closes through it. -/
theorem snapshot_live_iff {numerics : Numerics F} {mint : ℕ → String} {bars : List (Bar F)}
    {symbol timeframe : String} {snapshot : Snapshot F} {origins : List (Origin F)}
    (accepted : snapshotFromBars numerics mint bars symbol timeframe = .ok snapshot)
    (found : (zoneEngineConfig : ZoneEngineConfig F).detectZones mint bars = .ok origins) :
    snapshot.zones = zoneEngineConfig.liveZones bars origins ↔
      ∀ origin ∈ origins, ∀ step ∈ (zoneEngineConfig : ZoneEngineConfig F).barsAfter bars
        origin.index, zoneEngineConfig.Quiet origin.zone step.1 step.2 := by
  have fresh : ∀ origin ∈ origins, origin.zone.state ≠ .broken := by
    intro origin member
    simp [(zoneEngineConfig.detectZones_fresh found origin member).1]
  rw [snapshot_zones accepted found, liveZones,
    filter_map_eq_map_iff (by simpa using fresh)]
  refine forall₂_congr fun origin member => ?_
  exact zoneEngineConfig.advance_eq_self_iff (fresh origin member) _

end Snapshots

namespace Sample

def candle (index : ℕ) (open_ close : ℚ) : Bar ℚ where
  ts := index * 300000000
  open_ := open_
  high := max open_ close + 1 / 2
  low := min open_ close - 1 / 2
  close := close

def window (final : Bar ℚ) : List (Bar ℚ) :=
  ((List.range 195).map fun index => candle index 100 100) ++
    [candle 195 100 104, candle 196 106 106, candle 197 107 107, candle 198 106 106, final]

def mint (index : ℕ) : String := "zone-" ++ toString index

def away : List (Bar ℚ) := window (candle 199 106 106)

def crash : List (Bar ℚ) := window (candle 199 104 90)

def published (bars : List (Bar ℚ)) : Except PyError (Snapshot ℚ) :=
  snapshotFromBars approximate mint bars "Volatility 75 Index" "M5"

def detected (bars : List (Bar ℚ)) : Except PyError (List (Origin ℚ)) :=
  (zoneEngineConfig : ZoneEngineConfig ℚ).detectZones mint bars

def demandZone : Zone ℚ where
  id := "zone-195"
  kind := .demand
  top := 209 / 2
  bottom := 199 / 2
  createdTs := 195 * 300000000
  score := 4

theorem averageBody_nonneg {body : List ℚ} (nonneg : ∀ size ∈ body, 0 ≤ size) :
    ∀ average ∈ averageBody body, 0 ≤ average := by
  intro average member
  obtain ⟨i, -, rfl⟩ := List.mem_map.mp member
  rw [total_eq_sum]
  refine List.sum_nonneg fun part among => ?_
  obtain ⟨size, inside, rfl⟩ := List.mem_map.mp among
  exact mul_nonneg (nonneg size (List.mem_of_mem_take (List.mem_of_mem_drop inside)))
    (by decide +kernel)

theorem still_quiet {bars : List (Bar ℚ)} {j : ℕ} {bar : Bar ℚ} (here : bars[j]? = some bar)
    (still : bar.close = bar.open_) :
    (zoneEngineConfig.detection bars).impulseMask.getD j false = false := by
  rw [List.getD_eq_getElem?_getD]
  cases mask : (zoneEngineConfig.detection bars).impulseMask[j]? with
  | none => rfl
  | some impulse =>
      obtain ⟨size, limit, body, limits, rfl⟩ := List.getElem?_zipWith_eq_some.mp mask
      obtain ⟨threshold, average, -, averages, rfl⟩ := List.getElem?_zipWith_eq_some.mp limits
      rw [List.getElem?_map, here, Option.map_some, Option.some_inj] at body
      have none : size = 0 := by
        rw [← body, still, sub_self]
        exact abs_zero
      have nonneg : 0 ≤ average := by
        refine averageBody_nonneg (fun size member => ?_) average (List.mem_of_getElem? averages)
        obtain ⟨other, -, rfl⟩ := List.mem_map.mp member
        exact abs_nonneg _
      rw [Option.getD_some, none, decide_eq_false_iff_not, not_lt, pyMax_eq_max]
      exact le_max_of_le_right (mul_nonneg nonneg (by decide +kernel))

theorem detected_window (final : Bar ℚ) : detected (window final) =
    .ok (let found := zoneEngineConfig.scan mint (zoneEngineConfig.detection (window final)) 20 195
      found.drop (found.length - 12)) := by
  have length : (window final).length = 200 := by simp [window]
  have skipped : zoneEngineConfig.scan mint (zoneEngineConfig.detection (window final)) 200 15 =
      zoneEngineConfig.scan mint (zoneEngineConfig.detection (window final)) 20 195 := by
    refine zoneEngineConfig.scan_skip mint 20 180 (by rw [detection, length]; decide) ?_
    intro j before
    have here : (window final)[15 + j]? = some (candle (15 + j) 100 100) := by
      rw [window, List.getElem?_append_left (by simp; omega), List.getElem?_map,
        List.getElem?_range (by omega), Option.map_some]
    exact still_quiet here rfl
  rw [detected, detectZones, length, if_neg (by decide), if_neg (by decide)]
  have start : ((zoneEngineConfig : ZoneEngineConfig ℚ).atrPeriod : ℕ) + 1 = 15 := rfl
  have limit : (zoneEngineConfig : ZoneEngineConfig ℚ).maxZones = 12 := rfl
  simp only [start, limit, skipped, if_neg (show ¬12 = 0 by decide)]

theorem away_run : (published away).isOk = true ∧
    detected away = .ok [⟨195, demandZone⟩] ∧
    ∀ step ∈ (zoneEngineConfig : ZoneEngineConfig ℚ).barsAfter away 195,
      zoneEngineConfig.Quiet demandZone step.1 step.2 := by
  rw [away, detected_window]
  decide +kernel

theorem crash_run : (published crash).isOk = true ∧
    detected crash = .ok [⟨195, demandZone⟩] ∧
    zoneEngineConfig.liveZones crash [⟨195, demandZone⟩] = [] := by
  rw [crash, detected_window]
  decide +kernel

end Sample

theorem snapshot_live_away : ∃ snapshot, Sample.published Sample.away = .ok snapshot ∧
    snapshot.zones = zoneEngineConfig.liveZones Sample.away [⟨195, Sample.demandZone⟩] := by
  obtain ⟨accepts, found, quiet⟩ := Sample.away_run
  cases accepted : Sample.published Sample.away with
  | error error => simp [accepted, Except.isOk, Except.toBool] at accepts
  | ok snapshot =>
      refine ⟨snapshot, rfl, (snapshot_live_iff accepted found).mpr ?_⟩
      simpa using quiet

/-- A zone that the last bar closed through is published as fresh. -/
theorem snapshot_publishes_broken_zone : ∃ snapshot,
    Sample.published Sample.crash = .ok snapshot ∧
    Sample.detected Sample.crash = .ok [⟨195, Sample.demandZone⟩] ∧
    snapshot.zones = [Sample.demandZone] ∧
    zoneEngineConfig.liveZones Sample.crash [⟨195, Sample.demandZone⟩] = [] := by
  obtain ⟨accepts, found, live⟩ := Sample.crash_run
  cases accepted : Sample.published Sample.crash with
  | error error => simp [accepted, Except.isOk, Except.toBool] at accepts
  | ok snapshot => exact ⟨snapshot, rfl, found, snapshot_zones accepted found, live⟩

end Vix75
