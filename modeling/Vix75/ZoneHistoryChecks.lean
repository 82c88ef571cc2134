import Vix75.IndicatorChecks
import Vix75.LeapScan

/-! Zone detection on a longer and longer history: which zones of a window are still there, and the
same, once later bars are known. -/

namespace Vix75

open PyMath CausalSeries

variable {F : Type}

def Origin.unnamed (origin : Origin F) : Origin F :=
  { origin with zone := { origin.zone with id := "" } }

namespace ZoneEngineConfig

variable [LT F] [DecidableLT F] [PyMath F]
variable {mint : ℕ → String} {arrays other : Detection F} {bars : List (Bar F)}
variable {i count baseLen : ℕ}

theorem zoneAt_zero : zoneAt mint arrays i 0 = none := by
  unfold zoneAt
  split <;> rfl

theorem unnamed_zoneAt (upTo : arrays.bars.take (i + 1) = other.bars.take (i + 1)) :
    (zoneAt mint arrays i baseLen).map Origin.unnamed = zoneAt (fun _ => "") other i baseLen := by
  have here : arrays.bars[i]? = other.bars[i]? := by
    rw [← List.getElem?_take_of_lt (Nat.lt_succ_self i), upTo,
      List.getElem?_take_of_lt (Nat.lt_succ_self i)]
  unfold zoneAt
  rw [here, upTo]
  cases other.bars[i]? with
  | none => rfl
  | some impulse => by_cases none : baseLen = 0 <;> simp [none, Origin.unnamed]

theorem zoneAt_marks (mint : ℕ → String) (arrays : Detection F) (inside : i < arrays.bars.length)
    (some : baseLen ≠ 0) : ∃ origin, zoneAt mint arrays i baseLen = Option.some origin ∧
      origin.index = i ∧ origin.zone.score = baseLen := by
  unfold zoneAt
  rw [List.getElem?_eq_getElem inside]
  simp only [if_neg some]
  exact ⟨_, rfl, rfl, rfl⟩

section Averages

variable [Add F] [Sub F] [Mul F] [Div F] (cfg : ZoneEngineConfig F)

omit [LT F] [DecidableLT F] [Sub F] in
theorem averageBody_take (body : List F) (inside : count ≤ body.length) (known : i + 10 ≤ count) :
    (averageBody (body.take count))[i]? = (averageBody body)[i]? := by
  have prefixes : min (i + 10) count = i + 10 := Nat.min_eq_left known
  simp only [averageBody, List.getElem?_map, List.length_take, Nat.min_eq_left inside,
    List.getElem?_range (show i < count by omega),
    List.getElem?_range (show i < body.length by omega), Option.map_some, List.take_take, prefixes]

theorem detection_take (bars : List (Bar F)) (count : ℕ) :
    (cfg.detection (bars.take count)).bars = (cfg.detection bars).bars.take count ∧
      (cfg.detection (bars.take count)).body = (cfg.detection bars).body.take count :=
  ⟨rfl, List.map_take⟩

theorem avgBody_take (inside : count ≤ bars.length) (known : i + 10 ≤ count) :
    (cfg.detection (bars.take count)).avgBody[i]? = (cfg.detection bars).avgBody[i]? := by
  have same := averageBody_take (cfg.detection bars).body (by simpa [detection] using inside) known
  rw [← (cfg.detection_take bars count).2] at same
  exact same

theorem impulseMask_take (inside : count ≤ bars.length) (known : i + 10 ≤ count) :
    (cfg.detection (bars.take count)).impulseMask[i]? = (cfg.detection bars).impulseMask[i]? := by
  have below : i < count := by omega
  have average : (averageBody ((bars.take count).map fun (bar : Bar F) =>
      PyMath.abs (bar.close - bar.open_)))[i]? = _ := cfg.avgBody_take inside known
  have threshold := causal_atr cfg.atrPeriod bars count
  simp only [detection, List.getElem?_zipWith, average, List.getElem?_map, threshold,
    List.getElem?_take_of_lt below, Nat.sub_zero]

def marked (bars : List (Bar F)) (entries : List (ℕ × ℕ)) : List (Origin F) :=
  entries.filterMap fun entry => zoneAt (fun _ => "") (cfg.detection bars) entry.1 entry.2

theorem marked_inj {entries others : List (ℕ × ℕ)}
    (found : ∀ entry ∈ entries ++ others, entry.1 < bars.length ∧ entry.2 ≠ 0) :
    cfg.marked bars entries = cfg.marked bars others ↔ entries = others := by
  have read (list : List (ℕ × ℕ)) (each : ∀ entry ∈ list, entry.1 < bars.length ∧ entry.2 ≠ 0) :
      (cfg.marked bars list).map (fun origin => (origin.index, origin.zone.score.toNat)) =
        list := by
    induction list with
    | nil => rfl
    | cons entry rest ih =>
        rw [List.forall_mem_cons] at each
        obtain ⟨origin, here, index, score⟩ :=
          zoneAt_marks (fun _ => "") (cfg.detection bars) each.1.1 each.1.2
        rw [marked, List.filterMap_cons, here, List.map_cons, index, score, Int.toNat_natCast]
        exact congrArg _ (ih each.2)
  refine ⟨fun same => ?_, congrArg _⟩
  rw [List.forall_mem_append] at found
  rw [← read entries found.1, ← read others found.2, same]

theorem marked_filter (bars : List (Bar F)) (entries : List (ℕ × ℕ)) (count : ℕ) :
    (cfg.marked bars entries).filter (fun origin => decide (origin.index + 2 ≤ count)) =
      cfg.marked bars (entries.filter fun entry => decide (entry.1 < count - 1)) := by
  unfold marked
  rw [List.filter_filterMap, List.filterMap_filter]
  refine List.filterMap_congr fun entry _ => ?_
  unfold zoneAt
  by_cases early : entry.1 < count - 1
  · have before : entry.1 + 2 ≤ count := by omega
    cases (cfg.detection bars).bars[entry.1]? with
    | none => simp
    | some impulse => by_cases none : entry.2 = 0 <;> simp [none, early, before]
  · have after : ¬entry.1 + 2 ≤ count := by omega
    cases (cfg.detection bars).bars[entry.1]? with
    | none => simp
    | some impulse =>
        by_cases none : entry.2 = 0
        · simp [none]
        · simpa [none, early] using after

end Averages

/-! The scan as a loop that leaps -/

variable [LE F] [DecidableLE F] (cfg : ZoneEngineConfig F)

/-- How many base candles the scan skips at candle `i`. -/
def leap (arrays : Detection F) (i : ℕ) : ℕ :=
  if arrays.impulseMask.getD i false then baseLength arrays i cfg.maxBaseCandles 0 else 0

theorem scan_eq (fuel i : ℕ) : cfg.scan mint arrays fuel i =
    (LeapScan.emitted (cfg.leap arrays) (arrays.bars.length - 1) fuel i).filterMap
      fun entry => zoneAt mint arrays entry.1 entry.2 := by
  induction fuel generalizing i with
  | zero => rfl
  | succ fuel ih =>
      rw [scan, LeapScan.emitted]
      by_cases inside : i + 1 < arrays.bars.length
      rotate_left
      · rw [if_neg inside, if_neg (show ¬i < arrays.bars.length - 1 by omega), List.filterMap_nil]
      · rw [if_pos inside, if_pos (show i < arrays.bars.length - 1 by omega)]
        by_cases impulse : arrays.impulseMask.getD i false = true
        · have leaps : cfg.leap arrays i = baseLength arrays i cfg.maxBaseCandles 0 :=
            if_pos impulse
          rw [if_pos impulse, leaps]
          generalize baseLength arrays i cfg.maxBaseCandles 0 = baseLen
          by_cases none : baseLen = 0
          · simp only [none, zoneAt_zero, if_true, ih]
            rfl
          · simp only [if_neg none, List.filterMap_cons, ← ih]
            cases zoneAt mint arrays i baseLen <;> rfl
        · have stays : cfg.leap arrays i = 0 := if_neg impulse
          rw [if_neg impulse, if_pos stays]
          exact ih (i + 1)

theorem baseLength_congr
    (body : ∀ j < i, arrays.body.getD j (ofRat 0) = other.body.getD j (ofRat 0))
    (average : ∀ j < i, arrays.avgBody.getD j (ofRat 0) = other.avgBody.getD j (ofRat 0))
    (remaining length : ℕ) :
    baseLength arrays i remaining length = baseLength other i remaining length := by
  induction remaining generalizing length with
  | zero => rfl
  | succ remaining ih =>
      rw [baseLength, baseLength]
      by_cases inside : length < i
      · rw [if_pos inside, if_pos inside]
        simp only [body (i - 1 - length) (by omega), average (i - 1 - length) (by omega), ih]
      · rw [if_neg inside, if_neg inside]

variable [Add F] [Sub F] [Mul F] [Div F]

/-- Up to ten candles before its end a prefix leaps as the whole history does. -/
theorem leap_take (inside : count ≤ bars.length) (known : i + 10 ≤ count) :
    cfg.leap (cfg.detection (bars.take count)) i = cfg.leap (cfg.detection bars) i := by
  have body (j : ℕ) (before : j < i) :
      (cfg.detection (bars.take count)).body.getD j (ofRat 0) =
        (cfg.detection bars).body.getD j (ofRat 0) := by
    rw [(cfg.detection_take bars count).2, List.getD_eq_getElem?_getD, List.getD_eq_getElem?_getD,
      List.getElem?_take_of_lt (by omega)]
  have average (j : ℕ) (before : j < i) :
      (cfg.detection (bars.take count)).avgBody.getD j (ofRat 0) =
        (cfg.detection bars).avgBody.getD j (ofRat 0) := by
    rw [List.getD_eq_getElem?_getD, List.getD_eq_getElem?_getD,
      cfg.avgBody_take inside (show j + 10 ≤ count by omega)]
  rw [leap, leap, List.getD_eq_getElem?_getD, List.getD_eq_getElem?_getD,
    cfg.impulseMask_take inside known, baseLength_congr body average]

def origins (mint : ℕ → String) (bars : List (Bar F)) : List (Origin F) :=
  cfg.scan mint (cfg.detection bars) bars.length (cfg.atrPeriod + 1)

def visited (bars : List (Bar F)) : List ℕ :=
  LeapScan.visited (cfg.leap (cfg.detection bars)) (bars.length - 1) bars.length
    (cfg.atrPeriod + 1)

theorem origins_unnamed (mint : ℕ → String) (inside : count ≤ bars.length) :
    (cfg.origins mint (bars.take count)).map Origin.unnamed = cfg.marked bars
      (LeapScan.emitted (cfg.leap (cfg.detection (bars.take count))) (count - 1) count
        (cfg.atrPeriod + 1)) := by
  have length : (bars.take count).length = count := by simp [inside]
  rw [origins, scan_eq, List.map_filterMap, marked, (cfg.detection_take bars count).1]
  change List.filterMap _ (LeapScan.emitted _ ((bars.take count).length - 1) _ _) = _
  rw [length]
  refine List.filterMap_congr fun entry member => unnamed_zoneAt ?_
  have early := LeapScan.emitted_lt entry member
  change (bars.take count).take (entry.1 + 1) = bars.take (entry.1 + 1)
  rw [List.take_take, Nat.min_eq_left (by omega)]

theorem origins_filter (mint : ℕ → String) (bars : List (Bar F)) (count : ℕ) :
    ((cfg.origins mint bars).filter fun origin => origin.index + 2 ≤ count).map Origin.unnamed =
      cfg.marked bars ((LeapScan.emitted (cfg.leap (cfg.detection bars)) (bars.length - 1)
        bars.length (cfg.atrPeriod + 1)).filter fun entry => decide (entry.1 < count - 1)) := by
  have named := cfg.origins_unnamed mint (Nat.le_refl bars.length)
  rw [List.take_length] at named
  rw [← marked_filter, ← named, List.filter_map]
  rfl

theorem detectZones_few (mint : ℕ → String) (bars : List (Bar F))
    (enough : cfg.atrPeriod + 5 ≤ bars.length)
    (few : (cfg.origins mint bars).length ≤ cfg.maxZones) : cfg.detectZones mint bars =
      if bars.length < 20 then .error (.valueError "operands could not be broadcast together")
      else .ok (cfg.origins mint bars) := by
  unfold detectZones
  rw [if_neg (by omega)]
  congr 1
  change Except.ok (if cfg.maxZones = 0 then cfg.origins mint bars else _) = _
  rw [show (cfg.scan mint (cfg.detection bars) bars.length (cfg.atrPeriod + 1)) =
    cfg.origins mint bars from rfl, Nat.sub_eq_zero_of_le few, List.drop_zero, ite_self]

/-- The zones of the first `count` bars are those of the whole history that start there, up to
their ids. -/
def SameZones (mint later : ℕ → String) (bars : List (Bar F)) (count : ℕ) : Prop :=
  ∃ found foundLater, cfg.detectZones mint (bars.take count) = .ok found ∧
    cfg.detectZones later bars = .ok foundLater ∧
    found.map Origin.unnamed =
      (foundLater.filter fun origin => origin.index + 2 ≤ count).map Origin.unnamed

instance [DecidableEq F] (mint later : ℕ → String) (bars : List (Bar F)) (count : ℕ) :
    Decidable (cfg.SameZones mint later bars count) :=
  match found : cfg.detectZones mint (bars.take count), foundLater : cfg.detectZones later bars with
  | .ok zones, .ok zonesLater =>
      decidable_of_iff (zones.map Origin.unnamed =
        (zonesLater.filter fun origin => origin.index + 2 ≤ count).map Origin.unnamed)
        (by simp [SameZones, found, foundLater])
  | .error _, _ => isFalse (by simp [SameZones, found])
  | .ok _, .error _ => isFalse (by simp [SameZones, foundLater])

/-- The zones of the first `count` bars stay when further bars come exactly when there are twenty of
them and the scan over all bars leaps no differently at the last nine candles it judges there:
further back an average that is centred on a candle does not reach over the end. -/
theorem zones_no_lookahead_iff (mint later : ℕ → String) (bars : List (Bar F)) (count : ℕ)
    (warm : cfg.atrPeriod + 6 ≤ count) (inside : count ≤ bars.length)
    (few : (cfg.origins mint (bars.take count)).length ≤ cfg.maxZones)
    (fewLater : (cfg.origins later bars).length ≤ cfg.maxZones) :
    cfg.SameZones mint later bars count ↔ 20 ≤ count ∧ ∀ i ∈ cfg.visited bars,
      i + 2 ≤ count → count < i + 10 →
        cfg.leap (cfg.detection (bars.take count)) i = cfg.leap (cfg.detection bars) i := by
  have length : (bars.take count).length = count := by simp [inside]
  have found := cfg.detectZones_few mint (bars.take count) (by omega) few
  have foundLater := cfg.detectZones_few later bars (by omega) fewLater
  rw [length] at found
  by_cases short : count < 20
  · rw [if_pos short] at found
    refine iff_of_false (fun ⟨_, _, ok, _⟩ => ?_) fun holds => by omega
    rw [found] at ok
    cases ok
  · rw [if_neg short] at found
    rw [if_neg (by omega)] at foundLater
    have scanned : LeapScan.emitted (cfg.leap (cfg.detection (bars.take count))) (count - 1) count
          (cfg.atrPeriod + 1) = (LeapScan.emitted (cfg.leap (cfg.detection bars)) (bars.length - 1)
            bars.length (cfg.atrPeriod + 1)).filter (·.1 < count - 1) ↔ _ :=
      LeapScan.emitted_eq_filter_iff (by omega) (by omega) (by omega)
    have zones : cfg.SameZones mint later bars count ↔
        (cfg.origins mint (bars.take count)).map Origin.unnamed =
          ((cfg.origins later bars).filter fun origin => origin.index + 2 ≤ count).map
            Origin.unnamed := by
      simp only [SameZones, found, foundLater, Except.ok.injEq, exists_and_left, exists_eq_left']
    rw [zones, cfg.origins_unnamed mint inside, origins_filter, marked_inj, scanned]
    · refine ⟨fun same => ⟨by omega, fun i member near _ => same i member (by omega)⟩,
        fun ⟨_, same⟩ i member near => ?_⟩
      by_cases known : i + 10 ≤ count
      · exact cfg.leap_take inside known
      · exact same i member (by omega) (by omega)
    · intro entry member
      rcases List.mem_append.mp member with early | late
      · exact ⟨by have := LeapScan.emitted_lt entry early; omega,
          LeapScan.emitted_leap entry early⟩
      · have scannedLater := (List.mem_filter.mp late).1
        exact ⟨by have := LeapScan.emitted_lt entry scannedLater; omega,
          LeapScan.emitted_leap entry scannedLater⟩

end ZoneEngineConfig

namespace Sample

def candles (bodies : List ℚ) : List (Bar ℚ) :=
  bodies.mapIdx fun index body => ⟨index * 900000000, 100, 101 + body, 99, 100 + body⟩

def stillZones : List (Bar ℚ) :=
  candles (List.replicate 16 0 ++ [5] ++ List.replicate 23 0)

def dwarfedImpulse : List (Bar ℚ) :=
  candles (List.replicate 19 0 ++ [5, 0] ++ List.replicate 8 100)

end Sample

theorem zones_no_lookahead_iff_still :
    (zoneEngineConfig : ZoneEngineConfig ℚ).SameZones (fun _ => "old") (fun _ => "new")
      Sample.stillZones 30 :=
  (zoneEngineConfig.zones_no_lookahead_iff _ _ Sample.stillZones 30 (by decide) (by decide)
    (by decide +kernel) (by decide +kernel)).mpr (by decide +kernel)

/-- The zone of the small impulse is there for 21 bars and gone once eight more are known. -/
theorem zones_repaint : ¬∀ (cfg : ZoneEngineConfig ℚ) (mint later : ℕ → String)
    (bars : List (Bar ℚ)) (count : ℕ), cfg.atrPeriod + 6 ≤ count → count ≤ bars.length →
      (cfg.origins mint (bars.take count)).length ≤ cfg.maxZones →
        (cfg.origins later bars).length ≤ cfg.maxZones → cfg.SameZones mint later bars count := by
  intro claim
  have same := claim zoneEngineConfig (fun _ => "") (fun _ => "") Sample.dwarfedImpulse 21
    (by decide) (by decide) (by decide +kernel) (by decide +kernel)
  revert same
  decide +kernel

end Vix75
