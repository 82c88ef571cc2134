import Mathlib.Data.List.Sort
import Vix75.FeatureConsumer
import Vix75.IngestCore
import Vix75.ProgramRuns

/-! feature-service: the bars it reads, the rows it stores and the entries it publishes, as the
tables and the stream hold them. -/

namespace Vix75

open EffectProgram

theorem le_of_getLast? {α : Type} {time : α → Timestamp} {values : List α} {last value : α}
    (sorted : values.Pairwise fun first second => time first ≤ time second)
    (ends : values.getLast? = some last) (member : value ∈ values) : time value ≤ time last := by
  rw [← List.dropLast_append_getLast? last ends] at sorted member
  rcases List.mem_append.mp member with earlier | same
  · exact (List.pairwise_append.mp sorted).2.2 _ earlier _ (List.mem_singleton_self _)
  · rw [List.mem_singleton.mp same]

def Snapshot.key {F : Type} (row : Snapshot F) : String × String × Timestamp :=
  (row.symbol, row.timeframe, row.ts)

structure FeatureComputed where
  symbol : String
  timeframe : String
  ts : Timestamp
  correlationId : String
deriving DecidableEq

structure FeatureStore (F : Type) where
  ohlcv : KeyedTable (OhlcvRow F) (String × String × Timestamp) OhlcvRow.key := KeyedTable.empty
  features : KeyedTable (Snapshot F) (String × String × Timestamp) Snapshot.key :=
    KeyedTable.empty
  computed : List FeatureComputed := []

/-- The row of one bar, with `entry` the place of its indicators in the frame. -/
def FeatureFrame.row {F : Type} (frame : FeatureFrame F) (pivots : Option F × Option F)
    (zones : List (Zone F)) (symbol timeframe : String) (bar : Bar F)
    (entry : Series F → Option F) : Snapshot F where
  symbol := symbol
  timeframe := timeframe
  ts := bar.ts
  close := bar.close
  atr := entry frame.atr
  atrNorm := entry frame.atrNorm
  rsi := entry frame.rsi
  ema50 := entry frame.ema50
  ema200 := entry frame.ema200
  bbUpper := entry frame.bands.upper
  bbMid := entry frame.bands.mid
  bbLower := entry frame.bands.lower
  stochK := entry frame.oscillator.k
  stochD := entry frame.oscillator.d
  logReturn := entry frame.logReturn
  realizedVol := entry frame.realizedVol
  swingHigh := pivots.1
  swingLow := pivots.2
  zones := zones

namespace FeatureStore

variable {F : Type} (store : FeatureStore F)

def history (symbol timeframe : String) : List (Bar F) :=
  ((store.ohlcv.rows.filter fun row => row.symbol = symbol ∧ row.timeframe = timeframe).map
    OhlcvRow.bar).insertionSort fun first second => first.ts ≤ second.ts

/-- `ORDER BY ts DESC LIMIT %s`, reversed; no two bars of a key share a time. -/
def fetchBars (symbol timeframe : String) (limit : ℕ) : List (Bar F) :=
  ((store.history symbol timeframe).reverse.take limit).reverse

def answer : FeatureStore F → (effect : FeatureEffect F) → Except PyError effect.Reply →
    FeatureStore F → Prop
  | store, .fetchBars symbol timeframe limit, reply, after =>
      reply = .ok (store.fetchBars symbol timeframe limit) ∧ after = store
  | store, .upsertFeatureRow row, reply, after =>
      reply = .ok () ∧ after = { store with features := store.features.put row }
  | store, .xaddComputed symbol timeframe ts correlationId, reply, after =>
      reply = .ok () ∧ after = { store with
        computed := store.computed ++ [⟨symbol, timeframe, ts, correlationId⟩] }
  | store, _, reply, after => (∃ value, reply = .ok value) ∧ after = store

/-! The bars of a key -/

variable {store} {symbol timeframe : String} {bar : Bar F} {limit : ℕ}

theorem mem_history : bar ∈ store.history symbol timeframe ↔
    (⟨symbol, timeframe, bar⟩ : OhlcvRow F) ∈ store.ohlcv.rows := by
  simp only [history, List.mem_insertionSort, List.mem_map, List.mem_filter, decide_eq_true_eq]
  constructor
  · rintro ⟨row, ⟨member, rfl, rfl⟩, rfl⟩
    exact member
  · exact fun member => ⟨_, ⟨member, rfl, rfl⟩, rfl⟩

theorem sorted_history (store : FeatureStore F) (symbol timeframe : String) :
    (store.history symbol timeframe).Pairwise fun first second => first.ts ≤ second.ts :=
  List.pairwise_insertionSort _ _

theorem history_unique (store : FeatureStore F) (symbol timeframe : String) :
    ((store.history symbol timeframe).map Bar.ts).Nodup := by
  have bars : ((store.ohlcv.rows.filter fun row => row.symbol = symbol ∧
      row.timeframe = timeframe).map fun row => row.bar.ts).Nodup := by
    refine List.Nodup.of_map (fun ts => (symbol, timeframe, ts)) ?_
    rw [List.map_map]
    have keys := store.ohlcv.unique.sublist
      ((List.filter_sublist (p := fun row => row.symbol = symbol ∧ row.timeframe = timeframe)).map
        OhlcvRow.key)
    rwa [List.map_congr_left (g := OhlcvRow.key)]
    intro row member
    simp only [List.mem_filter, decide_eq_true_eq] at member
    obtain ⟨-, rfl, rfl⟩ := member
    rfl
  rw [history, ((List.perm_insertionSort _ _).map Bar.ts).nodup_iff, List.map_map]
  exact bars

theorem fetchBars_eq : store.fetchBars symbol timeframe limit =
    (store.history symbol timeframe).drop
      ((store.history symbol timeframe).length - limit) := by
  rw [fetchBars, List.take_reverse, List.reverse_reverse]

theorem length_fetchBars : (store.fetchBars symbol timeframe limit).length =
    min limit (store.history symbol timeframe).length := by
  rw [fetchBars_eq, List.length_drop]
  omega

theorem fetchBars_subset : store.fetchBars symbol timeframe limit ⊆
    store.history symbol timeframe := by
  rw [fetchBars_eq]
  exact List.drop_subset _ _

theorem getLast?_fetchBars (some : 0 < limit) :
    (store.fetchBars symbol timeframe limit).getLast? =
      (store.history symbol timeframe).getLast? := by
  rw [fetchBars, List.getLast?_reverse, List.head?_take, if_neg (by omega), List.head?_reverse]

theorem le_newest {newest : Bar F} (last : (store.history symbol timeframe).getLast? = some newest)
    (stored : bar ∈ store.history symbol timeframe) : bar.ts ≤ newest.ts :=
  le_of_getLast? (store.sorted_history symbol timeframe) last stored

end FeatureStore

end Vix75
