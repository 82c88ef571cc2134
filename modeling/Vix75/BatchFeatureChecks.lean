import Vix75.BarEventChecks
import Vix75.BatchFeatures
import Vix75.IndicatorMemory

/-! Rows of the features command against the rows that feature-service would have stored: which of
their columns remember what lies before the live window. -/

namespace Vix75

open PyMath CausalSeries

section Windows

variable {α β : Type} {f : List α → List β} {values : List α} {start memory : ℕ}

theorem getLast?_of_forgets (forgets : Forgets memory f) (long : start + memory < values.length)
    (late : (f (values.drop start)).length = (values.drop start).length)
    (full : (f values).length = values.length) :
    (f (values.drop start)).getLast? = (f values).getLast? := by
  have position : start + (values.length - start - 1) = values.length - 1 := by omega
  rw [List.getLast?_eq_getElem?, List.getLast?_eq_getElem?, late, full, List.length_drop,
    forgets.getElem? (by omega), position]

theorem getLast?_replaceHead {γ : Type} (head : γ) (entry : α → γ) (long : 1 < values.length) :
    (replaceHead head entry values).getLast? = values.getLast?.map entry := by
  cases values with
  | nil => simp at long
  | cons value rest =>
      have more : rest ≠ [] := by
        rintro rfl
        simp at long
      obtain ⟨last, ends⟩ := Option.isSome_iff_exists.mp (List.getLast?_isSome.mpr more)
      simp [replaceHead, List.getLast?_cons, ends]

end Windows

section Live

variable {F : Type} {bar : Bar F}

def liveWindow (bars : List (Bar F)) (i : ℕ) : List (Bar F) :=
  (bars.take (i + 1)).drop (i + 1 - featureWindow)

theorem liveWindow_long {bars : List (Bar F)} {i : ℕ} (warm : 249 ≤ i) (inside : i < bars.length) :
    i + 1 - featureWindow + 199 < (bars.take (i + 1)).length ∧
      warmupIndex < (liveWindow bars i).length := by
  rw [liveWindow, List.length_drop, List.length_take, featureWindow, warmupIndex]
  omega

theorem getLast?_upTo {bars : List (Bar F)} {i : ℕ} (here : bars[i]? = some bar) :
    (bars.take (i + 1)).getLast? = some bar ∧ (liveWindow bars i).getLast? = some bar := by
  have inside := (List.getElem?_eq_some_iff.mp here).1
  have last : (bars.take (i + 1)).getLast? = some bar := by
    rw [List.getLast?_take, if_neg (Nat.succ_ne_zero i), Nat.add_sub_cancel, here, Option.some_or]
  refine ⟨last, ?_⟩
  rw [liveWindow, List.getLast?_drop, last, if_neg]
  rw [List.length_take, featureWindow]
  omega

def Zone.unnamed (zone : Zone F) : Zone F := { zone with id := "" }

def Snapshot.unnamed (row : Snapshot F) : Snapshot F :=
  { row with zones := row.zones.map Zone.unnamed }

def SameRefreshed (row live : Snapshot F) : Prop :=
  row.close = live.close ∧ row.atr = live.atr ∧ row.rsi = live.rsi ∧ row.ema50 = live.ema50 ∧
    row.ema200 = live.ema200

theorem refresh_unnamed_iff {old row live : Snapshot F} :
    (old.refresh row).unnamed = live.unnamed ↔
      SameRefreshed row live ∧ (old.refresh live).unnamed = live.unnamed := by
  simp only [Snapshot.refresh, Snapshot.unnamed, Snapshot.mk.injEq, SameRefreshed]
  tauto

variable [Add F] [Sub F] [Mul F] [Div F] [LT F] [DecidableLT F] [DecidableEq F] [PyMath F]

theorem row_upTo (numerics : Numerics F) (bars : List (Bar F)) {i : ℕ} (inside : i < bars.length)
    (pivots : Option F × Option F) (zones : List (Zone F)) (symbol timeframe : String)
    (bar : Bar F) :
    (buildFrame numerics bars).row pivots zones symbol timeframe bar (fun series =>
      series[i]?.join) =
    (buildFrame numerics (bars.take (i + 1))).row pivots zones symbol timeframe bar fun series =>
      series.getLast?.join := by
  have last : ∀ series ∈ (buildFrame numerics bars).series,
      (series.take (i + 1)).getLast?.join = series[i]?.join := by
    intro series member
    have length := length_series numerics bars series member
    rw [List.getLast?_take, if_neg (Nat.succ_ne_zero i), Nat.add_sub_cancel,
      List.getElem?_eq_getElem (length ▸ inside), Option.some_or]
  simp only [FeatureFrame.series, List.forall_mem_cons] at last
  obtain ⟨atr, atrNorm, rsi, ema50, ema200, upper, mid, lower, k, d, logReturn, realizedVol, -⟩ :=
    last
  simp only [buildFrame_take, FeatureFrame.row, FeatureFrame.take, atr, atrNorm, rsi, ema50,
    ema200, upper, mid, lower, k, d, logReturn, realizedVol]

theorem row_sliding (numerics : Numerics F) {upTo : List (Bar F)} {start : ℕ}
    (long : start + 199 < upTo.length) :
    let frame := buildFrame numerics upTo
    let live := buildFrame numerics (upTo.drop start)
    live.bands.upper.getLast? = frame.bands.upper.getLast? ∧
      live.bands.mid.getLast? = frame.bands.mid.getLast? ∧
      live.bands.lower.getLast? = frame.bands.lower.getLast? ∧
      live.oscillator.k.getLast? = frame.oscillator.k.getLast? ∧
      live.oscillator.d.getLast? = frame.oscillator.d.getLast? ∧
      live.logReturn.getLast? = frame.logReturn.getLast? ∧
      live.realizedVol.getLast? = frame.realizedVol.getLast? := by
  have closes : Forgets 0 (List.map Bar.close : List (Bar F) → List F) := forgets_map _
  have returns := (forgets_logReturns numerics).comp closes
  have volatility := (forgets_realizedVolatility numerics (show 0 < 21 by decide)).comp returns
  have band (entry : List F → F) := (forgets_banded (show 0 < 20 by decide) entry).comp closes
  have oscillator := forgets_stochastic (F := F) (show 0 < 14 by decide) (show 0 < 3 by decide)
  have late := length_series numerics (upTo.drop start)
  have full := length_series numerics upTo
  simp only [FeatureFrame.series, List.forall_mem_cons, buildFrame, bollingerBands_eq] at late full
  obtain ⟨-, -, -, -, -, upper, mid, lower, k, d, logReturn, realizedVol, -⟩ := full
  obtain ⟨-, -, -, -, -, upper', mid', lower', k', d', logReturn', realizedVol', -⟩ := late
  simp only [buildFrame, bollingerBands_eq]
  refine ⟨getLast?_of_forgets (band _) (by omega) upper' upper,
    getLast?_of_forgets (band _) (by omega) mid' mid,
    getLast?_of_forgets (band _) (by omega) lower' lower, ?_, ?_, ?_, ?_⟩
  · exact getLast?_of_forgets oscillator.1 (by omega) k' k
  · exact getLast?_of_forgets oscillator.2 (by omega) d' d
  · exact getLast?_of_forgets returns (by omega) logReturn' logReturn
  · exact getLast?_of_forgets volatility (by omega) realizedVol' realizedVol

variable (numerics : Numerics F) {pivots : Option F × Option F} {zones : List (Zone F)}
variable {symbol timeframe : String}

def newestRow (bars : List (Bar F)) (pivots : Option F × Option F) (zones : List (Zone F))
    (symbol timeframe : String) (bar : Bar F) : Snapshot F :=
  (buildFrame numerics bars).row pivots zones symbol timeframe bar fun series =>
    series.getLast?.join

theorem swingHigh_newestRow (bars : List (Bar F)) :
    (newestRow numerics bars pivots zones symbol timeframe bar).unnamed.swingHigh = pivots.1 := rfl

theorem getLast?_atrNorm (bars : List (Bar F)) (last : bars.getLast? = some bar) :
    (buildFrame numerics bars).atrNorm.getLast?.join =
      if ofRat 0 < bar.close then
        (buildFrame numerics bars).atr.getLast?.join.map (· / bar.close)
      else none := by
  have length := length_series numerics bars
  simp only [FeatureFrame.series, List.forall_mem_cons] at length
  obtain ⟨atr, atrNorm, -⟩ := length
  rw [List.getLast?_eq_getElem?] at last ⊢
  rw [List.getLast?_eq_getElem?, atr, atrNorm]
  simp only [buildFrame, List.getElem?_zipWith, List.getElem?_map, last, Option.map_some]
  cases (Vix75.atr (bars.map Bar.high) (bars.map Bar.low) (bars.map Bar.close)
      14)[bars.length - 1]? with
  | none => simp
  | some value => rfl

def pivotsOf (bars : List (Bar F)) : Option F × Option F :=
  latestPivots numerics (bars.map Bar.high) (bars.map Bar.low) 5

theorem payload_unique {bars : List (Bar F)} (distinct : (bars.map Bar.ts).Nodup) :
    ((FeatureStore.payload numerics bars zones symbol timeframe).map Snapshot.key).Nodup := by
  have keys : (FeatureStore.payload numerics bars zones symbol timeframe).map Snapshot.key =
      (((bars.zipIdx.drop (warmupIndex + 1)).map Prod.fst).map Bar.ts).map fun ts =>
        (symbol, timeframe, ts) := by
    simp only [FeatureStore.payload, List.map_map]
    rfl
  rw [keys, List.map_drop, List.zipIdx_map_fst, List.map_drop]
  refine (distinct.sublist (List.drop_sublist _ _)).map fun first second same => ?_
  exact (Prod.ext_iff.mp (Prod.ext_iff.mp same).2).2

theorem mem_payload {bars : List (Bar F)} {i : ℕ} (warm : warmupIndex + 1 ≤ i)
    (here : bars[i]? = some bar) :
    newestRow numerics (bars.take (i + 1))
      (latestPivots numerics (bars.map Bar.high) (bars.map Bar.low) 5) zones symbol timeframe bar ∈
      FeatureStore.payload numerics bars zones symbol timeframe := by
  rw [newestRow, ← row_upTo numerics bars (List.getElem?_eq_some_iff.mp here).1]
  refine List.mem_map.mpr ⟨(bar, i), List.mem_iff_getElem?.mpr ⟨i - (warmupIndex + 1), ?_⟩, rfl⟩
  rw [List.getElem?_drop, List.getElem?_zipIdx, Nat.add_sub_of_le warm, here]
  simp

variable [LE F] [DecidableLE F]

def liveRow (numerics : Numerics F) (mint : ℕ → String) (bars : List (Bar F)) (i : ℕ)
    (symbol timeframe : String) : Except PyError (Snapshot F) :=
  snapshotFromBars numerics mint (liveWindow bars i) symbol timeframe

/-- The row of bar `i` is, up to zone ids, the one that feature-service would have stored. -/
def FeatureStore.LeavesLive (after : FeatureStore F) (numerics : Numerics F) (mint : ℕ → String)
    (symbol timeframe : String) (i : ℕ) : Prop :=
  ∃ live row, liveRow numerics mint (after.history symbol timeframe) i symbol timeframe = .ok live ∧
    after.features.find? live.key = some row ∧ row.unnamed = live.unnamed

theorem leavesLive_iff {liveMint : ℕ → String} {after : FeatureStore F} {bars : List (Bar F)}
    {i : ℕ} {live row : Snapshot F} (kept : after.history symbol timeframe = bars)
    (taken : liveRow numerics liveMint bars i symbol timeframe = .ok live)
    (written : after.features.find? live.key = some row) :
    after.LeavesLive numerics liveMint symbol timeframe i ↔ row.unnamed = live.unnamed := by
  unfold FeatureStore.LeavesLive
  rw [kept, taken]
  constructor
  · rintro ⟨_, _, accepted, stored, equal⟩
    obtain rfl := Except.ok.inj accepted
    rw [written] at stored
    rwa [Option.some.inj stored]
  · exact fun equal => ⟨_, _, rfl, written, equal⟩

def unnamedZones (mint : ℕ → String) (bars : List (Bar F)) : Except PyError (List (Zone F)) :=
  ((zoneEngineConfig : ZoneEngineConfig F).buildZones mint bars).map (List.map Zone.unnamed)

omit [DecidableEq F] in
theorem unnamedZones_eq_iff {mint liveMint : ℕ → String} {bars window : List (Bar F)}
    {found liveFound : List (Zone F)}
    (built : (zoneEngineConfig : ZoneEngineConfig F).buildZones mint bars = .ok found)
    (liveBuilt : (zoneEngineConfig : ZoneEngineConfig F).buildZones liveMint window =
      .ok liveFound) :
    unnamedZones mint bars = unnamedZones liveMint window ↔
      found.map Zone.unnamed = liveFound.map Zone.unnamed := by
  rw [unnamedZones, unnamedZones, built, liveBuilt]
  exact ⟨fun same => Except.ok.inj same, congrArg Except.ok⟩

omit [DecidableEq F] in
theorem buildZones_fresh {mint : ℕ → String} {bars : List (Bar F)} {found : List (Zone F)}
    (built : (zoneEngineConfig : ZoneEngineConfig F).buildZones mint bars = .ok found) :
    (found.filter fun zone => zone.state ≠ .broken) = found := by
  unfold ZoneEngineConfig.buildZones at built
  cases detected : (zoneEngineConfig : ZoneEngineConfig F).detectZones mint bars with
  | error error => simp [detected, bind, Except.bind] at built
  | ok origins =>
      have fresh := zoneEngineConfig.detectZones_fresh detected
      simp only [detected, bind, Except.bind, Except.ok.injEq] at built
      subst built
      refine List.filter_eq_self.mpr fun zone member => ?_
      obtain ⟨origin, known, rfl⟩ := List.mem_map.mp member
      simp [(fresh origin known).1]

theorem cmdFeatures_rows (mint : ℕ → String) (store : FeatureStore F)
    (long : warmupIndex + 1 < (store.history symbol timeframe).length) :
    ∃ found after, (zoneEngineConfig : ZoneEngineConfig F).buildZones mint
        (store.history symbol timeframe) = .ok found ∧
      FeatureStore.cmdFeatures numerics mint symbol timeframe store = .ok (0, after) ∧
      after.history symbol timeframe = store.history symbol timeframe ∧
      ∀ i bar, warmupIndex + 1 ≤ i → (store.history symbol timeframe)[i]? = some bar →
        ∃ row, row = newestRow numerics ((store.history symbol timeframe).take (i + 1))
            (pivotsOf numerics (store.history symbol timeframe)) found symbol timeframe bar ∧
          after.features.find? (symbol, timeframe, bar.ts) = some
            (((store.features.find? (symbol, timeframe, bar.ts)).map fun old =>
              old.refresh row).getD row) := by
  have enough : 20 ≤ (store.history symbol timeframe).length := by
    unfold warmupIndex at long
    omega
  obtain ⟨found, built⟩ := (zoneEngineConfig : ZoneEngineConfig F).buildZones_ok mint enough
  have run : FeatureStore.cmdFeatures numerics mint symbol timeframe store = .ok (0, { store with
      features := store.features.upsertAll Snapshot.refresh (fun _ _ => rfl)
        (FeatureStore.payload numerics (store.history symbol timeframe) found symbol
          timeframe) }) := by
    unfold FeatureStore.cmdFeatures
    simp only
    rw [if_neg (by omega), built]
    simp only [bind, Except.bind, buildZones_fresh built]
  refine ⟨found, _, built, run, rfl, fun i bar warm here => ⟨_, rfl, ?_⟩⟩
  exact KeyedTable.find?_upsertAll
    (payload_unique numerics (store.history_unique symbol timeframe))
    (mem_payload numerics warm here)

theorem liveRow_ok (mint : ℕ → String) (symbol timeframe : String) {bars : List (Bar F)} {i : ℕ}
    (warm : 249 ≤ i)
    (here : bars[i]? = some bar) (complete : frameIsComplete (liveWindow bars i).length
      (buildFrame numerics (liveWindow bars i)) = true) :
    ∃ found, (zoneEngineConfig : ZoneEngineConfig F).buildZones mint (liveWindow bars i) =
        .ok found ∧
      liveRow numerics mint bars i symbol timeframe = .ok (newestRow numerics (liveWindow bars i)
        (pivotsOf numerics (liveWindow bars i)) found symbol timeframe bar) := by
  have inside := (List.getElem?_eq_some_iff.mp here).1
  have long := (liveWindow_long warm inside).2
  have enough : 20 ≤ (liveWindow bars i).length := by
    unfold warmupIndex at long
    omega
  obtain ⟨found, built⟩ := (zoneEngineConfig : ZoneEngineConfig F).buildZones_ok mint enough
  refine ⟨found, built, ?_⟩
  rw [liveRow, snapshotFromBars_eq long (getLast?_upTo here).2, if_pos complete]
  simp only [built, bind, Except.bind, buildZones_fresh built]
  rfl

theorem liveRow_refused (mint : ℕ → String) (symbol timeframe : String) {bars : List (Bar F)}
    {i : ℕ} (warm : 249 ≤ i)
    (here : bars[i]? = some bar) (incomplete : ¬frameIsComplete (liveWindow bars i).length
      (buildFrame numerics (liveWindow bars i)) = true) :
    ∃ error, liveRow numerics mint bars i symbol timeframe = .error error := by
  have inside := (List.getElem?_eq_some_iff.mp here).1
  rw [liveRow, snapshotFromBars_eq (liveWindow_long warm inside).2 (getLast?_upTo here).2,
    if_neg incomplete]
  exact ⟨_, rfl⟩

end Live

section Smoothed

variable {F : Type} [Field F] {values others : List F} {start : ℕ}

theorem getLast?_eq_getD {n : ℕ} (length : values.length = n + 1) :
    values.getLast? = some (values.getD n 0) := by
  rw [List.getLast?_eq_getElem?, length, Nat.add_sub_cancel, getElem?_eq_getD (by omega)]

variable [LinearOrder F] [PyMath F]

/-- What older moves have left in the averages behind the relative strength is in the proportion of
the moves within the window. -/
def Proportionate (close : List F) (period : ℕ+) (start : ℕ) : Prop :=
  let gain := (wilderSmooth (gains (close.drop start)) period).getD (close.length - start - 1) 0
  let loss := (wilderSmooth (losses (close.drop start)) period).getD (close.length - start - 1) 0
  let oldGain := (wilderSmooth (gains close) period).getD start 0
  let oldLoss := (wilderSmooth (losses close) period).getD start 0
  if loss = 0 then oldLoss = 0 else gain * oldLoss = oldGain * loss

theorem getLast?_rsi {close : List F} {n : ℕ} (length : close.length = n + 1) (warm : 14 ≤ n) :
    (rsi close 14).getLast? = some (some (strength ((wilderSmooth (gains close) 14).getD n 0)
      ((wilderSmooth (losses close) 14).getD n 0))) := by
  rw [List.getLast?_eq_getElem?, length_rsi, length, Nat.add_sub_cancel,
    getElem?_rsi warm (by omega)]

variable [ExactMath F]

structure Forgotten (upTo : List (Bar F)) (start : ℕ) : Prop where
  ema50 : (ema (upTo.map Bar.close) 50).getD start 0 = (upTo.map Bar.close).getD start 0
  ema200 : (ema (upTo.map Bar.close) 200).getD start 0 = (upTo.map Bar.close).getD start 0
  atr : (wilderSmooth (trueRange (upTo.map Bar.high) (upTo.map Bar.low) (upTo.map Bar.close))
    14).getD start 0 = (upTo.map fun bar => bar.high - bar.low).getD start 0
  rsi : Proportionate (upTo.map Bar.close) 14 start

theorem forgotten_zero (upTo : List (Bar F)) : Forgotten upTo 0 where
  ema50 := getD_ema_zero _ _
  ema200 := getD_ema_zero _ _
  atr := by
    rw [wilderSmooth, getD_ema_zero]
    cases upTo <;> rfl
  rsi := by
    simp only [Proportionate, wilderSmooth, getD_ema_zero, getD_moves_zero, mul_zero, zero_mul,
      ite_self]

variable [IsStrictOrderedRing F]

theorem getLast?_ema_iff {period : ℕ+} (more : 1 < period) (inside : start < values.length)
    (length : others.length = values.length - start)
    (same : ∀ k, start + (k + 1) < values.length →
      values.getD (start + (k + 1)) 0 = others.getD (k + 1) 0) :
    (ema values period).getLast? = (ema others period).getLast? ↔
      (ema values period).getD start 0 = others.getD 0 0 := by
  obtain ⟨n, rest⟩ : ∃ n, values.length = start + n + 1 := ⟨values.length - start - 1, by omega⟩
  have fading : decay period ^ n ≠ (0 : F) := pow_ne_zero n (decay_pos more).ne'
  rw [getLast?_eq_getD (n := start + n) (by rw [length_ema, rest]),
    getLast?_eq_getD (n := n) (by rw [length_ema]; omega), Option.some_inj, ← sub_eq_zero,
    ema_sub period (by omega) (by omega) fun k _ => same k (by omega),
    mul_eq_zero_iff_left fading, sub_eq_zero]

theorem ema_drop_iff {period : ℕ+} (more : 1 < period) (inside : start < values.length) :
    (ema values period).getLast? = (ema (values.drop start) period).getLast? ↔
      (ema values period).getD start 0 = values.getD start 0 := by
  have entry (k : ℕ) : (values.drop start).getD k 0 = values.getD (start + k) 0 := by
    rw [List.getD_eq_getElem?_getD, List.getElem?_drop, ← List.getD_eq_getElem?_getD]
  rw [getLast?_ema_iff more inside (List.length_drop ..) fun k _ => (entry _).symm, entry,
    Nat.add_zero]

theorem atr_drop_iff {upTo : List (Bar F)} (long : start + 1 < upTo.length) :
    (atr (upTo.map Bar.high) (upTo.map Bar.low) (upTo.map Bar.close) 14).getLast? =
      (atr ((upTo.drop start).map Bar.high) ((upTo.drop start).map Bar.low)
        ((upTo.drop start).map Bar.close) 14).getLast? ↔
      (wilderSmooth (trueRange (upTo.map Bar.high) (upTo.map Bar.low) (upTo.map Bar.close))
        14).getD start 0 = (upTo.map fun bar => bar.high - bar.low).getD start 0 := by
  have first : (trueRange ((upTo.drop start).map Bar.high) ((upTo.drop start).map Bar.low)
      ((upTo.drop start).map Bar.close)).getD 0 0 =
        (upTo.map fun bar => bar.high - bar.low).getD start 0 := by
    rw [trueRange_eq, List.drop_eq_getElem_cons (show start < upTo.length by omega),
      List.getD_eq_getElem _ _ (show start < (upTo.map fun bar => bar.high - bar.low).length by
        rw [List.length_map]; omega), List.getElem_map]
    rfl
  rw [atr_eq, atr_eq, getLast?_replaceHead, getLast?_replaceHead,
    Option.map_inj_right fun _ _ => Option.some.inj, wilderSmooth, wilderSmooth,
    getLast?_ema_iff (by decide), first]
  · rw [length_trueRange]
    omega
  · rw [length_trueRange, length_trueRange, List.length_drop]
  · intro k _
    rw [List.getD_eq_getElem?_getD, List.getD_eq_getElem?_getD,
      ← forgets_trueRange.getElem? (Nat.le_add_left 1 k)]
  · rw [wilderSmooth, length_ema, length_trueRange, List.length_drop]
    omega
  · rw [wilderSmooth, length_ema, length_trueRange]
    omega

theorem rsi_drop_iff {close : List F} (long : start + 14 < close.length) :
    (rsi close 14).getLast? = (rsi (close.drop start) 14).getLast? ↔
      Proportionate close 14 start := by
  obtain ⟨n, length⟩ : ∃ n, close.length = start + n + 1 := ⟨close.length - start - 1, by omega⟩
  have lengthDrop : (close.drop start).length = n + 1 := by
    rw [List.length_drop]
    omega
  -- The averages of the window lack what is left of those before it.
  have whole (moves : List F → List F) (forgets : Forgets 1 moves)
      (aligned : ∀ close, (moves close).length = close.length)
      (none : (moves (close.drop start)).getD 0 0 = 0) :
      (wilderSmooth (moves close) 14).getD (start + n) 0 =
        (wilderSmooth (moves (close.drop start)) 14).getD n 0 +
          decay (2 * 14 - 1) ^ n * (wilderSmooth (moves close) 14).getD start 0 := by
    have same (k : ℕ) : (moves close).getD (start + (k + 1)) 0 =
        (moves (close.drop start)).getD (k + 1) 0 := by
      rw [List.getD_eq_getElem?_getD, List.getD_eq_getElem?_getD,
        ← forgets.getElem? (Nat.le_add_left 1 k)]
    have difference := ema_sub (2 * 14 - 1) (n := n) (show start + n < (moves close).length by
      rw [aligned]; omega) (by rw [aligned]; omega) fun k _ => same k
    rw [none, sub_zero] at difference
    rw [wilderSmooth, wilderSmooth]
    linear_combination difference
  have gain := whole gains forgets_gains length_gains (getD_moves_zero _).1
  have loss := whole losses forgets_losses length_losses (getD_moves_zero _).2
  have nonneg {values : List F} (each : ∀ value ∈ values, 0 ≤ value) (k : ℕ) :
      0 ≤ (wilderSmooth values 14).getD k 0 := ema_nonneg each k
  rw [getLast?_rsi length (by omega), getLast?_rsi lengthDrop (by omega), Option.some_inj,
    Option.some_inj, gain, loss, strength_add_iff (nonneg (gains_nonneg _) n)
      (nonneg (losses_nonneg _) n) (nonneg (gains_nonneg _) start)
      (nonneg (losses_nonneg _) start) (pow_pos (decay_pos (by decide)) n), Proportionate]
  have position : close.length - start - 1 = n := by omega
  simp only [position]

theorem row_smoothed_iff (numerics : Numerics F) {upTo : List (Bar F)}
    (long : start + 199 < upTo.length) :
    let frame := buildFrame numerics upTo
    let live := buildFrame numerics (upTo.drop start)
    (frame.atr.getLast? = live.atr.getLast? ∧ frame.rsi.getLast? = live.rsi.getLast? ∧
      frame.ema50.getLast? = live.ema50.getLast? ∧ frame.ema200.getLast? = live.ema200.getLast?) ↔
      Forgotten upTo start := by
  have closes : (upTo.drop start).map Bar.close = (upTo.map Bar.close).drop start := List.map_drop
  have smoothed {period : ℕ+} (more : 1 < period) :
      ((ema (upTo.map Bar.close) period).map some).getLast? =
        ((ema ((upTo.map Bar.close).drop start) period).map some).getLast? ↔
      (ema (upTo.map Bar.close) period).getD start 0 = (upTo.map Bar.close).getD start 0 := by
    rw [List.getLast?_map, List.getLast?_map, Option.map_inj_right fun _ _ => Option.some.inj,
      ema_drop_iff more (by rw [List.length_map]; omega)]
  simp only [buildFrame]
  rw [closes, smoothed (by decide), smoothed (by decide), rsi_drop_iff, ← closes, atr_drop_iff]
  · constructor
    · rintro ⟨atr, rsi, ema50, ema200⟩
      exact ⟨ema50, ema200, atr, rsi⟩
    · rintro ⟨ema50, ema200, atr, rsi⟩
      exact ⟨atr, rsi, ema50, ema200⟩
  · omega
  · rw [List.length_map]
    omega

/-! The command -/

variable (numerics : Numerics F) {upTo : List (Bar F)} {pivots livePivots : Option F × Option F}
variable {zones liveZones : List (Zone F)} {symbol timeframe : String} {bar : Bar F}

theorem newestRow_refreshed_iff (long : start + 199 < upTo.length) :
    SameRefreshed (newestRow numerics upTo pivots zones symbol timeframe bar)
      (newestRow numerics (upTo.drop start) livePivots liveZones symbol timeframe bar) ↔
      Forgotten upTo start := by
  have join {first second : Series F} (some : first ≠ []) (other : second ≠ []) :
      first.getLast?.join = second.getLast?.join ↔ first.getLast? = second.getLast? := by
    obtain ⟨value, last⟩ := Option.isSome_iff_exists.mp (List.getLast?_isSome.mpr some)
    obtain ⟨otherValue, otherLast⟩ := Option.isSome_iff_exists.mp (List.getLast?_isSome.mpr other)
    rw [last, otherLast]
    exact Option.some_inj.symm
  have present (bars : List (Bar F)) (more : 0 < bars.length) :
      ∀ series ∈ (buildFrame numerics bars).series, series ≠ [] := fun series member =>
    List.ne_nil_of_length_pos (length_series numerics bars series member ▸ more)
  have late := present (upTo.drop start) (by rw [List.length_drop]; omega)
  have full := present upTo (by omega)
  simp only [FeatureFrame.series, List.forall_mem_cons] at late full
  obtain ⟨atr, -, rsi, ema50, ema200, -⟩ := full
  obtain ⟨atr', -, rsi', ema50', ema200', -⟩ := late
  simp only [SameRefreshed, newestRow, FeatureFrame.row, true_and, join atr atr', join rsi rsi',
    join ema50 ema50', join ema200 ema200']
  exact row_smoothed_iff numerics long

theorem newestRow_unnamed_iff (long : start + 199 < upTo.length)
    (last : upTo.getLast? = some bar) :
    (newestRow numerics upTo pivots zones symbol timeframe bar).unnamed =
        (newestRow numerics (upTo.drop start) livePivots liveZones symbol timeframe bar).unnamed ↔
      Forgotten upTo start ∧ pivots = livePivots ∧
        zones.map Zone.unnamed = liveZones.map Zone.unnamed := by
  have refreshed : SameRefreshed (newestRow numerics upTo pivots zones symbol timeframe bar)
      (newestRow numerics (upTo.drop start) livePivots liveZones symbol timeframe bar) ↔
      Forgotten upTo start := newestRow_refreshed_iff numerics long
  obtain ⟨upper, mid, lower, k, d, logReturn, realizedVol⟩ := row_sliding numerics long
  have lastLive : (upTo.drop start).getLast? = some bar := by
    rw [List.getLast?_drop, if_neg (by omega), last]
  have atrNorm := getLast?_atrNorm numerics upTo last
  have atrNormLive := getLast?_atrNorm numerics (upTo.drop start) lastLive
  simp only [SameRefreshed, newestRow, FeatureFrame.row, true_and] at refreshed
  rw [← refreshed, Prod.ext_iff]
  simp only [newestRow, FeatureFrame.row, Snapshot.unnamed, Snapshot.mk.injEq, true_and, upper,
    mid, lower, k, d, logReturn, realizedVol, atrNorm, atrNormLive]
  constructor
  · rintro ⟨atr, _, rsi, ema50, ema200, high, low, same⟩
    exact ⟨⟨atr, rsi, ema50, ema200⟩, ⟨high, low⟩, same⟩
  · rintro ⟨⟨atr, rsi, ema50, ema200⟩, ⟨high, low⟩, same⟩
    exact ⟨atr, by rw [atr], rsi, ema50, ema200, high, low, same⟩

/-- When the row of bar `i` is that of feature-service: its smoothed columns have forgotten what
lies before the live window, and of the columns that a new row takes from the whole history, or that
an earlier row keeps, each is that of the live window. -/
structure BatchAgrees (mint liveMint : ℕ → String) (store : FeatureStore F)
    (symbol timeframe : String) (i : ℕ) (bar : Bar F) : Prop where
  complete : frameIsComplete (liveWindow (store.history symbol timeframe) i).length
    (buildFrame numerics (liveWindow (store.history symbol timeframe) i))
  forgotten : Forgotten ((store.history symbol timeframe).take (i + 1)) (i + 1 - featureWindow)
  fresh : store.features.find? (symbol, timeframe, bar.ts) = none →
    pivotsOf numerics (store.history symbol timeframe) =
        pivotsOf numerics (liveWindow (store.history symbol timeframe) i) ∧
      unnamedZones mint (store.history symbol timeframe) =
        unnamedZones liveMint (liveWindow (store.history symbol timeframe) i)
  earlier : ∀ old live, store.features.find? (symbol, timeframe, bar.ts) = some old →
    liveRow numerics liveMint (store.history symbol timeframe) i symbol timeframe = .ok live →
      (old.refresh live).unnamed = live.unnamed

/-- The row that the command leaves for a bar is that of feature-service, up to zone ids, exactly
when the columns agree that see more than the live window or less than the new row. -/
theorem batch_equals_live_iff (mint liveMint : ℕ → String) (store : FeatureStore F)
    (symbol timeframe : String) (i : ℕ) (bar : Bar F) (warm : 249 ≤ i)
    (here : (store.history symbol timeframe)[i]? = some bar) :
    ∃ after, FeatureStore.cmdFeatures numerics mint symbol timeframe store = .ok (0, after) ∧
      (after.LeavesLive numerics liveMint symbol timeframe i ↔
        BatchAgrees numerics mint liveMint store symbol timeframe i bar) := by
  have inside := (List.getElem?_eq_some_iff.mp here).1
  have more : warmupIndex + 1 < (store.history symbol timeframe).length := by
    rw [warmupIndex]
    omega
  have behind : warmupIndex + 1 ≤ i := by
    rw [warmupIndex]
    omega
  obtain ⟨found, after, built, run, kept, rows⟩ := cmdFeatures_rows numerics mint store more
  obtain ⟨row, same, written⟩ := rows i bar behind here
  refine ⟨after, run, ?_⟩
  have long := (liveWindow_long warm inside).1
  have last := (getLast?_upTo here).1
  by_cases complete : frameIsComplete (liveWindow (store.history symbol timeframe) i).length
      (buildFrame numerics (liveWindow (store.history symbol timeframe) i)) = true
  rotate_left
  · obtain ⟨error, refused⟩ := liveRow_refused numerics liveMint symbol timeframe warm here
      complete
    refine iff_of_false ?_ fun agrees => complete agrees.complete
    rintro ⟨_, _, taken, _⟩
    rw [kept, refused] at taken
    cases taken
  obtain ⟨liveFound, liveBuilt, taken⟩ := liveRow_ok numerics liveMint symbol timeframe warm here
    complete
  have zones := unnamedZones_eq_iff built liveBuilt
  rw [leavesLive_iff numerics kept taken written]
  cases present : store.features.find? (symbol, timeframe, bar.ts) with
  | none =>
      rw [Option.map_none, Option.getD_none, same, liveWindow, newestRow_unnamed_iff numerics long
        last]
      constructor
      · rintro ⟨forgotten, pivots, named⟩
        exact ⟨complete, forgotten, fun _ => ⟨pivots, zones.mpr named⟩, fun old _ known => by
          rw [present] at known
          cases known⟩
      · intro agrees
        obtain ⟨pivots, named⟩ := agrees.fresh present
        exact ⟨agrees.forgotten, pivots, zones.mp named⟩
  | some old =>
      rw [Option.map_some, Option.getD_some, refresh_unnamed_iff, same, liveWindow,
        newestRow_refreshed_iff numerics long]
      constructor
      · rintro ⟨forgotten, kept⟩
        refine ⟨complete, forgotten, fun none => ?_, fun other live known accepted => ?_⟩
        · rw [present] at none
          cases none
        · rw [present] at known
          rw [taken] at accepted
          obtain rfl := Option.some.inj known
          obtain rfl := Except.ok.inj accepted
          exact kept
      · intro agrees
        exact ⟨agrees.forgotten, agrees.earlier old _ present taken⟩

end Smoothed

namespace Sample

def spiked : FeatureStore ℚ where
  ohlcv := everyFiveMinutes (fun index =>
    { candle index 100 100 with high := if index = 250 then 102 else 201 / 2 }) (fun _ => rfl) 252

theorem calm_window : ((calm 250).history "V75" "M5").length = 250 ∧
    ((calm 250).history "V75" "M5")[249]? = some (candle 249 100 100) := by
  decide +kernel

end Sample

theorem batch_equals_live_calm : ∃ after, FeatureStore.cmdFeatures Sample.approximate
    Sample.mint "V75" "M5" (Sample.calm 250) = .ok (0, after) ∧
      after.LeavesLive Sample.approximate Sample.mint "V75" "M5" 249 := by
  obtain ⟨after, run, agrees⟩ := batch_equals_live_iff Sample.approximate Sample.mint Sample.mint
    (Sample.calm 250) "V75" "M5" 249 _ (le_refl _) Sample.calm_window.2
  have window : liveWindow ((Sample.calm 250).history "V75" "M5") 249 =
      (Sample.calm 250).history "V75" "M5" := by
    rw [liveWindow, List.take_of_length_le Sample.calm_window.1.le]
    rfl
  refine ⟨after, run, agrees.mpr ⟨?_, forgotten_zero _, fun _ => ?_, fun old _ known => ?_⟩⟩
  · decide +kernel
  · rw [window]
    exact ⟨rfl, rfl⟩
  · cases known

namespace Sample

def maxima (index : ℕ) : List ℚ → List ℕ
  | before :: here :: after :: rest =>
      if before < here ∧ after < here then (index + 1) :: maxima (index + 1) (here :: after :: rest)
      else maxima (index + 1) (here :: after :: rest)
  | _ => []

def peaking : Numerics ℚ := { approximate with findPeaks := fun _ => maxima 0 }

theorem spiked_bar : warmupIndex + 1 < (spiked.history "V75" "M5").length ∧
    (spiked.history "V75" "M5")[249]? = some (candle 249 100 100) ∧
    frameIsComplete (liveWindow (spiked.history "V75" "M5") 249).length
      (buildFrame peaking (liveWindow (spiked.history "V75" "M5") 249)) := by
  decide +kernel

theorem spiked_pivots : pivotsOf peaking (spiked.history "V75" "M5") = (some 102, none) ∧
    pivotsOf peaking (liveWindow (spiked.history "V75" "M5") 249) = (none, none) := by
  decide +kernel

end Sample

/-- The row of the 250th bar gets the spike of a later bar as its swing high. -/
theorem batch_looks_ahead : ¬∀ (numerics : Numerics ℚ) (mint liveMint : ℕ → String)
    (store : FeatureStore ℚ) (symbol timeframe : String) (i : ℕ) (bar : Bar ℚ), 249 ≤ i →
    (store.history symbol timeframe)[i]? = some bar →
    ∃ after, FeatureStore.cmdFeatures numerics mint symbol timeframe store = .ok (0, after) ∧
      after.LeavesLive numerics liveMint symbol timeframe i := by
  intro claim
  obtain ⟨long, here, complete⟩ := Sample.spiked_bar
  obtain ⟨whole, window⟩ := Sample.spiked_pivots
  obtain ⟨after, run, live, row, taken, stored, same⟩ := claim Sample.peaking Sample.mint
    Sample.mint Sample.spiked "V75" "M5" 249 _ (le_refl _) here
  obtain ⟨found, other, built, ran, kept, rows⟩ :=
    cmdFeatures_rows Sample.peaking Sample.mint Sample.spiked long
  obtain rfl : after = other := congrArg Prod.snd (Except.ok.inj (run.symm.trans ran))
  obtain ⟨_, rfl, written⟩ := rows 249 _ (by decide) here
  obtain ⟨liveFound, liveBuilt, accepted⟩ := liveRow_ok Sample.peaking Sample.mint "V75" "M5"
    (le_refl _) here complete
  rw [kept, accepted] at taken
  obtain rfl := Except.ok.inj taken
  have absent : Sample.spiked.features.find? ("V75", "M5", (Sample.candle 249 100 100).ts) =
      none := rfl
  rw [absent, Option.map_none, Option.getD_none] at written
  obtain rfl := Option.some.inj (written.symm.trans stored)
  have high := congrArg Snapshot.swingHigh same
  rw [swingHigh_newestRow, swingHigh_newestRow, whole, window] at high
  cases high

end Vix75
