import Vix75.FeatureStore
import Vix75.IndicatorChecks
import Vix75.ZoneChecks

/-! Which bar the features of a bar event are those of: the consumer reads the newest bars of the
key, whatever bar it was told of. -/

namespace Vix75

open EffectProgram PyMath

variable {F : Type} {symbol timeframe correlationId : String}

section Snapshots

variable [Add F] [Sub F] [Mul F] [Div F] [LT F] [LE F] [DecidableLT F] [DecidableLE F] [PyMath F]

theorem ZoneEngineConfig.buildZones_ok (cfg : ZoneEngineConfig F) (mint : ℕ → String)
    {bars : List (Bar F)} (long : 20 ≤ bars.length) :
    ∃ zones, cfg.buildZones mint bars = .ok zones := by
  unfold buildZones detectZones
  by_cases short : bars.length < cfg.atrPeriod + 5
  · rw [if_pos short]
    exact ⟨_, rfl⟩
  · rw [if_neg short, if_neg (by omega)]
    exact ⟨_, rfl⟩

variable [DecidableEq F] {numerics : Numerics F} {mint : ℕ → String} {bars : List (Bar F)}
variable {latest : Bar F}

theorem snapshotFromBars_eq (long : warmupIndex < bars.length)
    (last : bars.getLast? = some latest) :
    snapshotFromBars numerics mint bars symbol timeframe =
      if frameIsComplete bars.length (buildFrame numerics bars) then do
        let zones ← (zoneEngineConfig : ZoneEngineConfig F).buildZones mint bars
        .ok ((buildFrame numerics bars).row
          (latestPivots numerics (bars.map Bar.high) (bars.map Bar.low) 5)
          (zones.filter fun zone => zone.state ≠ .broken) symbol timeframe latest
          fun series => series.getLast?.join)
      else .error (.valueError "feature window incomplete; refusing to publish NaNs") := by
  unfold snapshotFromBars
  rw [last]
  simp only
  rw [if_neg (by omega)]
  rfl

theorem snapshotFromBars_cases (numerics : Numerics F) (mint : ℕ → String)
    (symbol timeframe : String) (long : warmupIndex < bars.length)
    (last : bars.getLast? = some latest) :
    if frameIsComplete bars.length (buildFrame numerics bars) then
      ∃ snapshot, snapshotFromBars numerics mint bars symbol timeframe = .ok snapshot ∧
        snapshot.key = (symbol, timeframe, latest.ts)
    else ∃ error, snapshotFromBars numerics mint bars symbol timeframe = .error error := by
  rw [snapshotFromBars_eq long last]
  have enough : 20 ≤ bars.length := by
    unfold warmupIndex at long
    omega
  obtain ⟨zones, built⟩ := (zoneEngineConfig : ZoneEngineConfig F).buildZones_ok mint enough
  split
  · rw [built]
    exact ⟨_, rfl, rfl⟩
  · exact ⟨_, rfl⟩

end Snapshots

/-! One bar event -/

namespace FeatureStore

variable (store after : FeatureStore F)

def Settles (symbol timeframe correlationId : String) :
    Except PyError (Snapshot F) → Except PyError Unit → FeatureStore F → Prop
  | .ok snapshot, result, after => result = .ok () ∧ after = { store with
      features := store.features.put snapshot
      computed := store.computed ++ [⟨symbol, timeframe, snapshot.ts, correlationId⟩] }
  | .error error, result, after => result = .error error ∧ after = store

variable {store after}

theorem exists_settles (taken : Except PyError (Snapshot F)) :
    ∃ result after, store.Settles symbol timeframe correlationId taken result after := by
  cases taken with
  | ok snapshot => exact ⟨_, _, rfl, rfl⟩
  | error error => exact ⟨_, _, rfl, rfl⟩

theorem enough_fetched {bar : Bar F} (enough : 250 ≤ ((store.history symbol timeframe).filter
    fun other => other.ts ≤ bar.ts).length) :
    Feature.minBars ≤ (store.fetchBars symbol timeframe featureWindow).length := by
  have shorter := List.length_filter_le (fun other => decide (other.ts ≤ bar.ts))
    (store.history symbol timeframe)
  rw [length_fetchBars, featureWindow, Feature.minBars]
  omega

variable [Add F] [Sub F] [Mul F] [Div F] [LT F] [LE F] [DecidableLT F] [DecidableLE F]
variable [DecidableEq F] [PyMath F]
variable {consumer : Feature.FeatureConsumer F} {result : Except PyError Unit}

/-- The event of bar `ts` has had its effect: its row is stored and announced, taken of bars that
were stored and are not newer. -/
def Yields (store after : FeatureStore F) (numerics : Numerics F)
    (symbol timeframe correlationId : String) (ts : Timestamp) : Prop :=
  ∃ mint window snapshot, (∀ bar ∈ window, bar ∈ store.history symbol timeframe ∧ bar.ts ≤ ts) ∧
    snapshotFromBars numerics mint window symbol timeframe = .ok snapshot ∧ snapshot.ts = ts ∧
    after.features = store.features.put snapshot ∧
    after.computed = store.computed ++ [⟨symbol, timeframe, ts, correlationId⟩]

theorem runs_processBarEvent
    (enough : Feature.minBars ≤ (store.fetchBars symbol timeframe featureWindow).length) :
    Prog.Runs answer store (consumer.processBarEvent symbol timeframe correlationId) result after ↔
      ∃ mint, store.Settles symbol timeframe correlationId
        (snapshotFromBars consumer.numerics mint (store.fetchBars symbol timeframe featureWindow)
          symbol timeframe) result after := by
  have many : ¬(store.fetchBars symbol timeframe featureWindow).length < Feature.minBars :=
    Nat.not_lt.mpr enough
  unfold Feature.FeatureConsumer.processBarEvent
  constructor
  · intro ran
    rcases Prog.runs_perform_bind.mp ran with ⟨_, _, ⟨fetched, same⟩, ran⟩ | ⟨_, ⟨failed, _⟩, _⟩
    rotate_left
    · cases failed
    rw [Except.ok.inj fetched, same, if_neg many] at ran
    rcases Prog.runs_perform_bind.mp ran with ⟨mint, _, ⟨_, same⟩, ran⟩ | ⟨_, ⟨⟨_, failed⟩, _⟩, _⟩
    rotate_left
    · cases failed
    rw [same] at ran
    refine ⟨mint, ?_⟩
    cases taken : snapshotFromBars consumer.numerics mint
        (store.fetchBars symbol timeframe featureWindow) symbol timeframe with
    | error error =>
        rw [taken] at ran
        exact ran
    | ok snapshot =>
        rw [taken] at ran
        rcases Prog.runs_perform_bind.mp ran with ⟨_, _, ⟨_, rfl⟩, ran⟩ | ⟨_, ⟨failed, _⟩, _⟩
        · exact Prog.runs_perform.mp ran
        · cases failed
  · rintro ⟨mint, ran⟩
    refine Prog.runs_perform_bind.mpr (.inl ⟨_, _, ⟨rfl, rfl⟩, ?_⟩)
    rw [if_neg many]
    refine Prog.runs_perform_bind.mpr (.inl ⟨mint, _, ⟨⟨_, rfl⟩, rfl⟩, ?_⟩)
    cases taken : snapshotFromBars consumer.numerics mint
        (store.fetchBars symbol timeframe featureWindow) symbol timeframe with
    | error error =>
        rw [taken] at ran
        exact ran
    | ok snapshot =>
        rw [taken] at ran
        exact Prog.runs_perform_bind.mpr (.inl ⟨(), _, ⟨rfl, rfl⟩, Prog.runs_perform.mpr ran⟩)

theorem exists_run (consumer : Feature.FeatureConsumer F) (correlationId : String)
    (enough : Feature.minBars ≤ (store.fetchBars symbol timeframe featureWindow).length) :
    ∃ result after, Prog.Runs answer store
      (consumer.processBarEvent symbol timeframe correlationId) result after := by
  obtain ⟨result, after, settled⟩ := store.exists_settles (snapshotFromBars consumer.numerics
    (fun _ => "") (store.fetchBars symbol timeframe featureWindow) symbol timeframe)
  exact ⟨result, after, (runs_processBarEvent enough).mpr ⟨_, settled⟩⟩

theorem settles_newest {newest : Bar F}
    (last : (store.history symbol timeframe).getLast? = some newest)
    (enough : Feature.minBars ≤ (store.fetchBars symbol timeframe featureWindow).length)
    (ran : Prog.Runs answer store (consumer.processBarEvent symbol timeframe correlationId) result
      after) :
    if frameIsComplete (store.fetchBars symbol timeframe featureWindow).length
        (buildFrame consumer.numerics (store.fetchBars symbol timeframe featureWindow)) then
      ∃ mint snapshot, snapshotFromBars consumer.numerics mint
          (store.fetchBars symbol timeframe featureWindow) symbol timeframe = .ok snapshot ∧
        snapshot.ts = newest.ts ∧ after.features = store.features.put snapshot ∧
        after.computed = store.computed ++ [⟨symbol, timeframe, newest.ts, correlationId⟩]
    else after = store := by
  obtain ⟨mint, settled⟩ := (runs_processBarEvent enough).mp ran
  have long : warmupIndex < (store.fetchBars symbol timeframe featureWindow).length := by
    rw [Feature.minBars] at enough
    rw [warmupIndex]
    omega
  have taken := snapshotFromBars_cases consumer.numerics mint symbol timeframe long
    ((store.getLast?_fetchBars (show 0 < featureWindow by decide)).trans last)
  split at taken
  · rename_i complete
    obtain ⟨snapshot, taken, key⟩ := taken
    have time : snapshot.ts = newest.ts := congrArg (fun key => key.2.2) key
    rw [taken] at settled
    obtain ⟨_, rfl⟩ := settled
    rw [if_pos complete]
    exact ⟨mint, snapshot, taken, time, rfl, by rw [time]⟩
  · rename_i incomplete
    obtain ⟨error, taken⟩ := taken
    rw [taken] at settled
    rw [if_neg incomplete]
    exact settled.2

theorem newest_of_yields {ts : Timestamp} {newest : Bar F}
    (last : (store.history symbol timeframe).getLast? = some newest)
    (enough : Feature.minBars ≤ (store.fetchBars symbol timeframe featureWindow).length)
    (ran : Prog.Runs answer store (consumer.processBarEvent symbol timeframe correlationId) result
      after)
    (yields : store.Yields after consumer.numerics symbol timeframe correlationId ts) :
    newest.ts = ts ∧ frameIsComplete (store.fetchBars symbol timeframe featureWindow).length
      (buildFrame consumer.numerics (store.fetchBars symbol timeframe featureWindow)) := by
  obtain ⟨_, _, _, _, _, _, _, announced⟩ := yields
  have settled := settles_newest last enough ran
  split at settled
  · rename_i complete
    obtain ⟨_, _, _, _, _, computed⟩ := settled
    rw [computed] at announced
    have same := List.singleton_inj.mp (List.append_cancel_left announced)
    exact ⟨congrArg FeatureComputed.ts same, complete⟩
  · rw [settled] at announced
    simp at announced

/-- A bar event has its effect exactly when no later bar of its key is stored, and no indicator of
the last five hundred bars is missing once warm. -/
theorem bar_event_yields_iff (consumer : Feature.FeatureConsumer F) (store : FeatureStore F)
    (symbol timeframe correlationId : String) (bar : Bar F)
    (stored : bar ∈ store.history symbol timeframe)
    (enough : 250 ≤ ((store.history symbol timeframe).filter fun other =>
      other.ts ≤ bar.ts).length) :
    (∃ result after, Prog.Runs answer store
      (consumer.processBarEvent symbol timeframe correlationId) result after) ∧
    ∀ result after, Prog.Runs answer store
        (consumer.processBarEvent symbol timeframe correlationId) result after →
      (store.Yields after consumer.numerics symbol timeframe correlationId bar.ts ↔
        (∀ later ∈ store.history symbol timeframe, later.ts ≤ bar.ts) ∧
          frameIsComplete (store.fetchBars symbol timeframe featureWindow).length
            (buildFrame consumer.numerics (store.fetchBars symbol timeframe featureWindow))) := by
  have many := enough_fetched enough
  obtain ⟨newest, last⟩ : ∃ newest, (store.history symbol timeframe).getLast? = some newest :=
    Option.isSome_iff_exists.mp (by simpa using List.ne_nil_of_mem stored)
  refine ⟨exists_run consumer correlationId many, fun result after ran =>
    ⟨fun yields => ?_, fun ⟨latest, complete⟩ => ?_⟩⟩
  · obtain ⟨same, complete⟩ := newest_of_yields last many ran yields
    exact ⟨fun later member => same ▸ le_newest last member, complete⟩
  · have settled := settles_newest last many ran
    rw [if_pos complete] at settled
    obtain ⟨mint, snapshot, taken, time, features, computed⟩ := settled
    have same : newest.ts = bar.ts :=
      Int.le_antisymm (latest newest (List.mem_of_getLast? last)) (le_newest last stored)
    rw [same] at time computed
    exact ⟨mint, _, snapshot, fun other member => ⟨fetchBars_subset member,
      latest other (fetchBars_subset member)⟩, taken, time, features, computed⟩

end FeatureStore

namespace Sample

def everyFiveMinutes (bar : ℕ → Bar ℚ) (times : ∀ index, (bar index).ts = index * 300000000)
    (count : ℕ) : KeyedTable (OhlcvRow ℚ) (String × String × Timestamp) OhlcvRow.key :=
  ⟨(List.range count).map fun index => ⟨"V75", "M5", bar index⟩, by
    rw [List.map_map]
    refine List.nodup_range.map fun first second same => ?_
    have sameTs : (bar first).ts = (bar second).ts := (Prod.ext_iff.mp (Prod.ext_iff.mp same).2).2
    have product : (first : ℤ) * 300000000 = second * 300000000 := by
      rw [← times, ← times, sameTs]
    omega⟩

def calm (count : ℕ) : FeatureStore ℚ where
  ohlcv := everyFiveMinutes (fun index => candle index 100 100) (fun _ => rfl) count

theorem calm_stored : candle 249 100 100 ∈ (calm 250).history "V75" "M5" ∧
    candle 249 100 100 ∈ (calm 251).history "V75" "M5" := by
  simp only [FeatureStore.mem_history, calm, everyFiveMinutes, List.mem_map, List.mem_range]
  exact ⟨⟨249, by decide, rfl⟩, ⟨249, by decide, rfl⟩⟩

theorem calm_enough :
    250 ≤ (((calm 250).history "V75" "M5").filter fun other =>
      other.ts ≤ (candle 249 100 100).ts).length ∧
    250 ≤ (((calm 251).history "V75" "M5").filter fun other =>
      other.ts ≤ (candle 249 100 100).ts).length := by
  decide +kernel

theorem calm_complete :
    (∀ later ∈ (calm 250).history "V75" "M5", later.ts ≤ (candle 249 100 100).ts) ∧
      frameIsComplete ((calm 250).fetchBars "V75" "M5" featureWindow).length
        (buildFrame approximate ((calm 250).fetchBars "V75" "M5" featureWindow)) := by
  decide +kernel

end Sample

namespace FeatureStore

theorem bar_event_yields_newest : ∃ after,
    (Sample.calm 250).Yields after Sample.approximate "V75" "M5" "c-1"
      (Sample.candle 249 100 100).ts := by
  obtain ⟨⟨result, after, ran⟩, yields⟩ := bar_event_yields_iff ⟨Sample.approximate, true⟩
    (Sample.calm 250) "V75" "M5" "c-1" _ Sample.calm_stored.1 Sample.calm_enough.1
  exact ⟨after, (yields result after ran).mpr Sample.calm_complete⟩

/-- With one later bar stored the event of the bar before it announces the later one. -/
theorem bar_event_overtaken : ¬∀ (consumer : Feature.FeatureConsumer ℚ) (store : FeatureStore ℚ)
    (symbol timeframe correlationId : String) (bar : Bar ℚ),
    bar ∈ store.history symbol timeframe →
    250 ≤ ((store.history symbol timeframe).filter fun other => other.ts ≤ bar.ts).length →
    ∀ result after, Prog.Runs answer store
        (consumer.processBarEvent symbol timeframe correlationId) result after →
      store.Yields after consumer.numerics symbol timeframe correlationId bar.ts := by
  intro claim
  have enough := enough_fetched Sample.calm_enough.2
  have last : ((Sample.calm 251).history "V75" "M5").getLast?.map Bar.ts =
      some (Sample.candle 250 100 100).ts := by decide +kernel
  obtain ⟨newest, last, time⟩ := Option.map_eq_some_iff.mp last
  obtain ⟨result, after, ran⟩ := exists_run ⟨Sample.approximate, true⟩ "c-1" enough
  have yields := claim _ _ "V75" "M5" "c-1" _ Sample.calm_stored.2 Sample.calm_enough.2 _ _ ran
  have same := (newest_of_yields last enough ran yields).1
  rw [time] at same
  exact absurd same (by decide)

end FeatureStore

end Vix75
