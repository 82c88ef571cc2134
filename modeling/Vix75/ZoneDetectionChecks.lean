import Vix75.IndicatorBounds
import Vix75.ZoneHistoryChecks

/-! Which bars of a history become zones, and which candles a zone spans. -/

namespace Vix75

open PyMath

namespace ZoneEngineConfig

section Edges

variable {F : Type} {i : ℕ}

def baseCandles (bars : List (Bar F)) (i length : ℕ) : List (Bar F) :=
  (bars.take i).drop (i - length)

theorem span_eq {bars : List (Bar F)} {impulse : Bar F} {length : ℕ}
    (here : bars[i]? = some impulse) (inside : length ≤ i) :
    (bars.take (i + 1)).drop (i - length) = baseCandles bars i length ++ [impulse] := by
  obtain ⟨below, rfl⟩ := List.getElem?_eq_some_iff.mp here
  rw [List.take_add_one, here, baseCandles, List.drop_append_of_le_length]
  · rfl
  · rw [List.length_take]
    omega

theorem length_baseCandles {bars : List (Bar F)} {length : ℕ} (within : i < bars.length)
    (inside : length ≤ i) : (baseCandles bars i length).length = length := by
  rw [baseCandles, List.length_drop, List.length_take]
  omega

variable [LinearOrder F] [PyMath F] {arrays : Detection F} {limit : ℕ}

def LowBody (arrays : Detection F) (j : ℕ) : Prop :=
  arrays.body.getD j (ofRat 0) ≤ pyMax (arrays.avgBody.getD j (ofRat 0)) (ofRat (1 / 10 ^ 12))

/-- The maximal run of at most `limit` low-body candles that ends before candle `i`. -/
structure BaseRun (arrays : Detection F) (i limit length : ℕ) : Prop where
  le_limit : length ≤ limit
  le_start : length ≤ i
  low : ∀ back < length, LowBody arrays (i - 1 - back)
  maximal : length = limit ∨ length = i ∨ ¬LowBody arrays (i - 1 - length)

theorem BaseRun.unique {length other : ℕ} (run : BaseRun arrays i limit length)
    (run' : BaseRun arrays i limit other) : length = other := by
  have shorter {first second : ℕ} (run : BaseRun arrays i limit first)
      (run' : BaseRun arrays i limit second) : second ≤ first := by
    by_contra longer
    have within := run'.le_limit
    have inside := run'.le_start
    rcases run.maximal with full | start | stopped
    · omega
    · omega
    · exact stopped (run'.low first (by omega))
  exact le_antisymm (shorter run' run) (shorter run run')

theorem baseLength_run (remaining length : ℕ) (total : length + remaining = limit)
    (inside : length ≤ i) (low : ∀ back < length, LowBody arrays (i - 1 - back)) :
    BaseRun arrays i limit (baseLength arrays i remaining length) := by
  induction remaining generalizing length with
  | zero => exact ⟨total.le, inside, low, .inl total⟩
  | succ remaining ih =>
      rw [baseLength]
      split
      · dsimp only
        split
        · rename_i here
          refine ih (length + 1) (by omega) (by omega) fun back below => ?_
          rcases Nat.lt_succ_iff_lt_or_eq.mp below with earlier | rfl
          · exact low back earlier
          · exact here
        · rename_i stopped
          exact ⟨by omega, inside, low, .inr (.inr stopped)⟩
      · exact ⟨by omega, inside, low, .inr (.inl (by omega))⟩

theorem baseRun_iff {length : ℕ} : BaseRun arrays i limit length ↔
    baseLength arrays i limit 0 = length := by
  have run : BaseRun arrays i limit (baseLength arrays i limit 0) :=
    baseLength_run limit 0 (Nat.zero_add _) (Nat.zero_le _) fun _ below => absurd below (by omega)
  constructor
  · exact fun other => run.unique other
  · rintro rfl
    exact run

/-- A zone is its base: the extremes of the candles of the run, and their number. -/
def IsBase (base : List (Bar F)) (zone : Zone F) : Prop :=
  IsGreatest {high | high ∈ base.map Bar.high} zone.top ∧
    IsLeast {low | low ∈ base.map Bar.low} zone.bottom ∧ zone.score = base.length

/-- What the scan finds: at a candle of the scan that leaves a base, the extremes of the base and
of the candle itself. -/
theorem mem_scan {cfg : ZoneEngineConfig F} {mint : ℕ → String} {fuel start : ℕ}
    {origin : Origin F} (found : origin ∈ cfg.scan mint arrays fuel start) :
    ∃ impulse length, arrays.bars[origin.index]? = some impulse ∧ 0 < length ∧
      BaseRun arrays origin.index cfg.maxBaseCandles length ∧
      origin.zone.top = maximum
        ((baseCandles arrays.bars origin.index length ++ [impulse]).map Bar.high) ∧
      origin.zone.bottom = minimum
        ((baseCandles arrays.bars origin.index length ++ [impulse]).map Bar.low) ∧
      origin.zone.score = length := by
  rw [scan_eq, LeapScan.emitted_eq_map, List.filterMap_map] at found
  obtain ⟨i, stood, zoned⟩ := List.mem_filterMap.mp found
  have leaps := (List.mem_filter.mp stood).2
  rw [decide_eq_true_iff, leap] at leaps
  simp only [Function.comp_apply, leap] at zoned
  split at leaps
  · rename_i impulsive
    rw [if_pos impulsive] at zoned
    unfold zoneAt at zoned
    cases here : arrays.bars[i]? with
    | none => simp [here] at zoned
    | some impulse =>
        simp only [here, if_neg leaps, Option.some.injEq] at zoned
        subst zoned
        have run : BaseRun arrays i cfg.maxBaseCandles
          (baseLength arrays i cfg.maxBaseCandles 0) := baseRun_iff.mpr rfl
        refine ⟨impulse, _, here, Nat.pos_of_ne_zero leaps, run, ?_, ?_, rfl⟩
        · simp only [span_eq here run.le_start]
        · simp only [span_eq here run.le_start]
  · exact absurd rfl leaps

variable [Add F] [Sub F] [Mul F] [Div F]

theorem mem_detectZones {cfg : ZoneEngineConfig F} {mint : ℕ → String} {bars : List (Bar F)}
    {found : List (Origin F)} (detected : cfg.detectZones mint bars = .ok found)
    {origin : Origin F} (member : origin ∈ found) :
    origin ∈ cfg.scan mint (cfg.detection bars) bars.length (cfg.atrPeriod + 1) := by
  unfold detectZones at detected
  split at detected
  · cases detected
    cases member
  split at detected
  · cases detected
  · cases detected
    split at member
    · exact member
    · exact List.mem_of_mem_drop member

/-- The zone of an impulse candle is its base exactly when the candle itself stays within the
base's high and low: the slice that the edges are taken of includes it. -/
theorem zone_isBase_iff {cfg : ZoneEngineConfig F} {mint : ℕ → String} {bars : List (Bar F)}
    {found : List (Origin F)} (detected : cfg.detectZones mint bars = .ok found)
    {origin : Origin F} (member : origin ∈ found) {length : ℕ}
    (run : BaseRun (cfg.detection bars) origin.index cfg.maxBaseCandles length) :
    IsBase (baseCandles bars origin.index length) origin.zone ↔
      ∀ impulse, bars[origin.index]? = some impulse →
        (∃ bar ∈ baseCandles bars origin.index length, impulse.high ≤ bar.high) ∧
          ∃ bar ∈ baseCandles bars origin.index length, bar.low ≤ impulse.low := by
  obtain ⟨impulse, found, here, some, ran, top, bottom, score⟩ :=
    mem_scan (mem_detectZones detected member)
  obtain rfl := ran.unique run
  change bars[origin.index]? = _ at here
  change _ = maximum ((baseCandles bars origin.index found ++ [impulse]).map Bar.high) at top
  change _ = minimum ((baseCandles bars origin.index found ++ [impulse]).map Bar.low) at bottom
  have within := (List.getElem?_eq_some_iff.mp here).1
  have count := length_baseCandles within run.le_start
  generalize baseCandles bars origin.index found = base at *
  have highs : base.map Bar.high ≠ [] := by
    intro none
    rw [List.map_eq_nil_iff.mp none] at count
    exact some.ne count
  have lows : base.map Bar.low ≠ [] := by
    intro none
    rw [List.map_eq_nil_iff.mp none] at count
    exact some.ne count
  rw [List.map_append, List.map_singleton] at top bottom
  have greatest := isGreatest_concat_iff highs impulse.high
  have least := isLeast_concat_iff lows impulse.low
  rw [← top] at greatest
  rw [← bottom] at least
  simp only [IsBase, greatest, least, score, count, and_true, here, Option.some.injEq,
    forall_eq']
  simp only [List.mem_map, exists_exists_and_eq_and]

end Edges

/-! Which bars become zones -/

section Scan

variable {F : Type} [Add F] [Sub F] [Mul F] [Div F] [LT F] [LE F] [DecidableLT F] [DecidableLE F]
variable [PyMath F] (cfg : ZoneEngineConfig F)

def qualifying (bars : List (Bar F)) : List ℕ :=
  (List.range' (cfg.atrPeriod + 1) (bars.length - 1 - (cfg.atrPeriod + 1))).filter fun i =>
    (cfg.detection bars).impulseMask.getD i false &&
      decide (0 < baseLength (cfg.detection bars) i cfg.maxBaseCandles 0)

def lastQualifying (bars : List (Bar F)) : List ℕ :=
  (cfg.qualifying bars).drop ((cfg.qualifying bars).length - cfg.maxZones)

variable {cfg} {mint : ℕ → String} {bars : List (Bar F)}

theorem qualifying_eq (bars : List (Bar F)) : cfg.qualifying bars =
    (List.range' (cfg.atrPeriod + 1) (bars.length - 1 - (cfg.atrPeriod + 1))).filter fun i =>
      cfg.leap (cfg.detection bars) i ≠ 0 := by
  refine List.filter_congr fun i _ => ?_
  rw [leap]
  cases (cfg.detection bars).impulseMask.getD i false with
  | false => simp
  | true => simp [Nat.pos_iff_ne_zero]

theorem index_origins (mint : ℕ → String) (bars : List (Bar F)) :
    (cfg.origins mint bars).map Origin.index =
      (cfg.visited bars).filter fun i => cfg.leap (cfg.detection bars) i ≠ 0 := by
  rw [origins, scan_eq, LeapScan.emitted_eq_map, List.filterMap_map, List.map_filterMap]
  have inside : (cfg.visited bars).Sublist _ := LeapScan.visited_sublist _ _
  calc _ = ((cfg.visited bars).filter fun i =>
        cfg.leap (cfg.detection bars) i ≠ 0).filterMap Option.some := by
        refine List.filterMap_congr fun i stood => ?_
        obtain ⟨visits, leaps⟩ := List.mem_filter.mp stood
        have below := List.mem_range'_1.mp (inside.subset visits)
        obtain ⟨origin, here, index, _⟩ := zoneAt_marks mint (cfg.detection bars)
          (show i < (cfg.detection bars).bars.length by change i < bars.length; omega)
          (of_decide_eq_true leaps)
        rw [Function.comp_apply, here, Option.map_some, index]
    _ = _ := List.filterMap_some

theorem origins_sublist (mint : ℕ → String) (bars : List (Bar F)) :
    ((cfg.origins mint bars).map Origin.index).Sublist (cfg.qualifying bars) := by
  rw [index_origins, qualifying_eq]
  exact (LeapScan.visited_sublist _ _).filter _

/-- Zone detection returns, with the last qualifying bars as its zones, exactly on windows that are
too short for it, or as long as its average and with no such bar left out by a leap. -/
theorem detectZones_complete_iff (room : 1 ≤ cfg.maxZones) (mint : ℕ → String)
    (bars : List (Bar F)) :
    (∃ found, cfg.detectZones mint bars = .ok found ∧ (cfg.atrPeriod + 5 ≤ bars.length →
      found.map Origin.index = cfg.lastQualifying bars)) ↔
      bars.length < cfg.atrPeriod + 5 ∨
        (20 ≤ bars.length ∧ ∀ i ∈ cfg.lastQualifying bars, i ∈ cfg.visited bars) := by
  unfold detectZones
  by_cases few : bars.length < cfg.atrPeriod + 5
  · rw [if_pos few]
    exact iff_of_true ⟨[], rfl, fun enough => absurd few (not_lt.mpr enough)⟩ (.inl few)
  rw [if_neg few, or_iff_right few]
  by_cases short : bars.length < 20
  · rw [if_pos short]
    refine iff_of_false ?_ fun complete => absurd complete.1 (by omega)
    rintro ⟨found, impossible, _⟩
    cases impossible
  have nodup : (cfg.qualifying bars).Nodup := (List.nodup_range').filter _
  have last := LeapScan.lastEntries_eq_iff (cfg.origins_sublist mint bars) nodup cfg.maxZones
  have found : (if cfg.maxZones = 0 then cfg.origins mint bars
      else (cfg.origins mint bars).drop ((cfg.origins mint bars).length - cfg.maxZones)).map
        Origin.index = ((cfg.origins mint bars).map Origin.index).drop
          (((cfg.origins mint bars).map Origin.index).length - cfg.maxZones) := by
    rw [if_neg (by omega), List.map_drop, List.length_map]
  have visits : (∀ i ∈ cfg.lastQualifying bars, i ∈ (cfg.origins mint bars).map Origin.index) ↔
      ∀ i ∈ cfg.lastQualifying bars, i ∈ cfg.visited bars := by
    refine forall₂_congr fun i member => ?_
    have leaps := (List.mem_filter.mp (qualifying_eq bars ▸ List.mem_of_mem_drop member)).2
    rw [index_origins, List.mem_filter]
    exact and_iff_left leaps
  rw [if_neg short, and_iff_right (not_lt.mp short), ← visits]
  constructor
  · rintro ⟨zones, detected, indices⟩
    cases detected
    exact last.mp (found.symm.trans (indices (not_lt.mp few)))
  · intro kept
    exact ⟨_, rfl, fun _ => found.trans (last.mpr kept)⟩

end Scan

end ZoneEngineConfig

def stillZone : Origin ℚ where
  index := 16
  zone := { id := "", kind := .demand, top := 106, bottom := 99, createdTs := 14400000000,
            score := 4 }

theorem stillZones_detected : (zoneEngineConfig : ZoneEngineConfig ℚ).detectZones (fun _ => "")
    Sample.stillZones = .ok [stillZone] := by
  decide +kernel

theorem stillZones_run : ZoneEngineConfig.BaseRun
    ((zoneEngineConfig : ZoneEngineConfig ℚ).detection Sample.stillZones) 16 4 4 :=
  ZoneEngineConfig.baseRun_iff.mpr (by decide +kernel)

theorem zone_isBase_iff_still :
    ZoneEngineConfig.IsBase (ZoneEngineConfig.baseCandles Sample.stillZones 16 4) stillZone.zone ↔
      ∀ impulse, Sample.stillZones[16]? = some impulse →
        (∃ bar ∈ ZoneEngineConfig.baseCandles Sample.stillZones 16 4, impulse.high ≤ bar.high) ∧
          ∃ bar ∈ ZoneEngineConfig.baseCandles Sample.stillZones 16 4, bar.low ≤ impulse.low :=
  ZoneEngineConfig.zone_isBase_iff stillZones_detected (List.mem_singleton_self stillZone)
    stillZones_run

/-- The zone reaches up to the high of its impulse candle, five above its base. -/
theorem zone_not_base :
    ¬∀ (cfg : ZoneEngineConfig ℚ) (mint : ℕ → String) (bars : List (Bar ℚ))
      (found : List (Origin ℚ)), cfg.detectZones mint bars = .ok found →
      ∀ origin ∈ found, ∃ length, ZoneEngineConfig.BaseRun (cfg.detection bars) origin.index
          cfg.maxBaseCandles length ∧
        ZoneEngineConfig.IsBase (ZoneEngineConfig.baseCandles bars origin.index length)
          origin.zone := by
  intro all
  obtain ⟨length, run, base, _⟩ := all zoneEngineConfig (fun _ => "") Sample.stillZones [stillZone]
    stillZones_detected stillZone (List.mem_singleton_self _)
  obtain rfl := run.unique stillZones_run
  have reached : (106 : ℚ) ∈
      (ZoneEngineConfig.baseCandles Sample.stillZones 16 4).map Bar.high := base.1
  revert reached
  decide +kernel

def leaptImpulse : List (Bar ℚ) :=
  Sample.candles (List.replicate 16 0 ++ [5, 0, 0, 5] ++ List.replicate 10 0)

theorem detectZones_complete_iff_leapt :
    (∃ found, (zoneEngineConfig : ZoneEngineConfig ℚ).detectZones (fun _ => "") leaptImpulse =
        .ok found ∧ (14 + 5 ≤ leaptImpulse.length →
      found.map Origin.index =
        (zoneEngineConfig : ZoneEngineConfig ℚ).lastQualifying leaptImpulse)) ↔
      leaptImpulse.length < 14 + 5 ∨ (20 ≤ leaptImpulse.length ∧
        ∀ i ∈ (zoneEngineConfig : ZoneEngineConfig ℚ).lastQualifying leaptImpulse,
          i ∈ (zoneEngineConfig : ZoneEngineConfig ℚ).visited leaptImpulse) :=
  ZoneEngineConfig.detectZones_complete_iff (by decide) _ leaptImpulse

/-- The shortest window that is let through raises, and an impulse is passed over. -/
theorem detectZones_incomplete :
    ¬(∀ (cfg : ZoneEngineConfig ℚ) (mint : ℕ → String) (bars : List (Bar ℚ)),
      1 ≤ cfg.atrPeriod → 1 ≤ cfg.maxZones → ∃ found, cfg.detectZones mint bars = .ok found ∧
        (cfg.atrPeriod + 5 ≤ bars.length → found.map Origin.index = cfg.lastQualifying bars)) ∧
    (zoneEngineConfig : ZoneEngineConfig ℚ).detectZones (fun _ => "")
        (Sample.candles (List.replicate 19 0)) =
      .error (.valueError "operands could not be broadcast together") ∧
    ∃ zone, (zoneEngineConfig : ZoneEngineConfig ℚ).detectZones (fun _ => "") leaptImpulse =
      .ok [zone] ∧ zone.index = 16 ∧
        (zoneEngineConfig : ZoneEngineConfig ℚ).lastQualifying leaptImpulse = [16, 19] := by
  have raises : (zoneEngineConfig : ZoneEngineConfig ℚ).detectZones (fun _ => "")
      (Sample.candles (List.replicate 19 0)) =
        .error (.valueError "operands could not be broadcast together") := by
    decide +kernel
  refine ⟨fun complete => ?_, raises, stillZone, ?_, rfl, ?_⟩
  · obtain ⟨found, returned, _⟩ := complete zoneEngineConfig (fun _ => "")
      (Sample.candles (List.replicate 19 0)) (by decide) (by decide)
    rw [raises] at returned
    cases returned
  · decide +kernel
  · decide +kernel

end Vix75
