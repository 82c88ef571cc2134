import Mathlib.Tactic.Linarith
import Vix75.SignalGateChecks

/-! The side of a fired signal: whether its stop belongs to the zone that it trades, and whether
its probability is that of its own direction. -/

namespace Vix75

open PyMath Signalling

section Stops

variable {F : Type} [LE F] [DecidableLE F]

namespace SignalEngine

/-- The first zone that is neither broken nor mitigated and contains the close. -/
def tradedZone (ltf : LtfSnapshot F) : Option (Zone F) :=
  ltf.zones.find? fun zone => decide (Active zone ltf.close)

/-- The first zone of that kind that contains the close, in any state. -/
def edgeZone (kind : ZoneKind) (ltf : LtfSnapshot F) : Option (Zone F) :=
  ltf.zones.find? fun zone => decide (zone.kind = kind) && contains zone ltf.close

theorem zoneTouch_eq (ltf : LtfSnapshot F) : zoneTouch ltf = (tradedZone ltf).map Zone.kind := by
  have same (zone : Zone F) : (decide (zone.state ≠ .broken ∧ zone.state ≠ .mitigated) &&
      contains zone ltf.close) = decide (Active zone ltf.close) := by
    rw [Bool.eq_iff_iff, decide_eq_true_eq]
    simp [contains, Active, and_assoc]
  unfold zoneTouch tradedZone
  simp only [same]

theorem edgeZone_exists {ltf : LtfSnapshot F} {zone : Zone F}
    (traded : tradedZone ltf = some zone) :
    ∃ holder, edgeZone zone.kind ltf = some holder ∧ holder.kind = zone.kind := by
  have member := List.mem_of_find?_eq_some traded
  have active : Active zone ltf.close :=
    of_decide_eq_true (List.find?_some (p := fun zone => decide (Active zone ltf.close)) traded)
  obtain ⟨_, _, above, below⟩ := active
  have found : (edgeZone zone.kind ltf).isSome = true := by
    rw [edgeZone, List.find?_isSome]
    exact ⟨zone, member, by simp [contains, above, below]⟩
  obtain ⟨holder, held⟩ := Option.isSome_iff_exists.mp found
  unfold edgeZone at held
  have kinds := List.find?_some held
  simp only [Bool.and_eq_true, decide_eq_true_eq] at kinds
  exact ⟨holder, held, kinds.1⟩

variable [Add F] [Sub F] [Mul F] [LT F] [DecidableLT F] [PyMath F]
variable (engine : SignalEngine F) {ltf : LtfSnapshot F}

def stopOf (ltf : LtfSnapshot F) (zone : Zone F) : F :=
  match zone.kind with
  | .demand => roundTo 5 (pyMin (zone.bottom - engine.slAtrBuffer * ltf.atr)
      (ltf.close - ofRat (1 / 10) * ltf.atr))
  | .supply => roundTo 5 (pyMax (zone.top + engine.slAtrBuffer * ltf.atr)
      (ltf.close + ofRat (1 / 10) * ltf.atr))

theorem levels_stop {kind : ZoneKind} {holder : Zone F}
    (held : edgeZone kind ltf = some holder) (kinds : holder.kind = kind) :
    roundTo 5 (engine.levels ltf (directionOf kind) kind).1 = engine.stopOf ltf holder := by
  unfold edgeZone at held
  subst kinds
  cases kind : holder.kind <;> rw [kind] at held <;>
    simp only [levels, zoneEdge, directionOf, held, stopOf, kind]

variable {engine} {market : MarketContext F} {id : String} {signal : Signal F} {zone : Zone F}

theorem fired_side (fired : (engine.evaluate id ltf market).signal = some signal)
    (traded : tradedZone ltf = some zone) : signal.direction = directionOf zone.kind ∧
      ∃ holder, edgeZone zone.kind ltf = some holder ∧ signal.sl = engine.stopOf ltf holder := by
  obtain ⟨kind, score, components, touched, rfl⟩ := evaluate_builds fired
  rw [zoneTouch_eq, traded] at touched
  obtain rfl := Option.some.inj touched
  obtain ⟨holder, held, kinds⟩ := edgeZone_exists traded
  exact ⟨rfl, holder, held, levels_stop engine held kinds⟩

/-- The scan for the edge does not skip dead zones, so the stop is that of the traded zone unless
an earlier zone of its kind holds the close and sets another one. -/
theorem stop_of_traded_iff (fired : (engine.evaluate id ltf market).signal = some signal)
    (traded : tradedZone ltf = some zone) :
    (signal.direction = directionOf zone.kind ∧ signal.sl = engine.stopOf ltf zone) ↔
      ∀ holder, edgeZone zone.kind ltf = some holder →
        engine.stopOf ltf holder = engine.stopOf ltf zone := by
  obtain ⟨side, holder, held, stop⟩ := fired_side fired traded
  rw [stop]
  constructor
  · rintro ⟨_, same⟩ other found
    obtain rfl := Option.some.inj (held.symm.trans found)
    exact same
  · intro same
    exact ⟨side, same holder held⟩

end SignalEngine

end Stops

/-! The probability of the direction -/

namespace Signalling

def ownProbability (pUp pDown : ℚ) : Direction → ℚ
  | .buy => pUp / (pUp + pDown)
  | .sell => pDown / (pUp + pDown)

structure Cached (codec : SignalDecoders ℚ) (raw : String) (pUp pDown : ℚ) : Prop where
  pair : ∃ data up down, document codec.loads raw = .ok data ∧ data.item? "p_up" = some up ∧
    data.item? "p_down" = some down ∧ up.isNumber = true ∧ down.isNumber = true ∧
      codec.floatOf up = .ok pUp ∧ codec.floatOf down = .ok pDown

variable {codec : SignalDecoders ℚ} {raw : String} {regimeRaw : Option String} {htfTrend : String}
variable {pUp pDown : ℚ} {market : MarketContext ℚ}

theorem pWinOf_cached (cached : Cached codec raw pUp pDown) :
    pWinOf codec (some raw) = .ok (some (pUp / max (pUp + pDown) (1 / 10 ^ 9))) := by
  obtain ⟨data, up, down, parsed, hasUp, hasDown, upNumber, downNumber, upFloat, downFloat⟩ :=
    cached.pair
  simp only [pWinOf, parsed, hasUp, hasDown, upNumber, downNumber, upFloat, downFloat, bind,
    Except.bind, Bool.and_self, if_true, pyMax_eq_max]
  rfl

theorem marketOf_cached (cached : Cached codec raw pUp pDown)
    (read : marketOf codec regimeRaw (some raw) htfTrend = .ok market) :
    market.pWin = some (pUp / max (pUp + pDown) (1 / 10 ^ 9)) := by
  unfold marketOf at read
  cases regime : regimeOf codec.loads regimeRaw with
  | error error => simp [regime, bind, Except.bind] at read
  | ok value =>
      simp only [regime, pWinOf_cached cached, bind, Except.bind, Except.ok.injEq] at read
      rw [← read]

theorem floored_le (up : 0 ≤ pUp) (mass : 0 < pUp + pDown) :
    pUp / max (pUp + pDown) (1 / 10 ^ 9) ≤ ownProbability pUp pDown .buy :=
  div_le_div_of_nonneg_left up mass (le_max_left _ _)

/-- The gate compares the probability of a rise, so a sale passes it without its own. -/
theorem own_probability_iff (engine : SignalEngine ℚ) (id : String) (ltf : LtfSnapshot ℚ)
    (cached : Cached codec raw pUp pDown) (up : 0 ≤ pUp)
    (mass : 0 < pUp + pDown)
    (read : marketOf codec regimeRaw (some raw) htfTrend = .ok market) :
    (∀ signal, (engine.evaluate id ltf market).signal = some signal →
      engine.minPWin < ownProbability pUp pDown signal.direction) ↔
      ¬(OtherGates engine ltf market .sell ∧
        engine.minPWin < pUp / max (pUp + pDown) (1 / 10 ^ 9) ∧
          pDown / (pUp + pDown) ≤ engine.minPWin) := by
  have label := marketOf_cached cached read
  constructor
  · rintro own ⟨others, passes, low⟩
    obtain ⟨signal, fired, side⟩ := (fires_iff engine ltf market id .sell).mpr
      ⟨others, _, label, not_le.mpr passes⟩
    have high := own signal fired
    rw [side] at high
    exact absurd high (not_lt.mpr low)
  · intro open_ signal fired
    obtain ⟨others, pWin, same, passes⟩ :=
      (fires_iff engine ltf market id signal.direction).mp ⟨signal, fired, rfl⟩
    obtain rfl := Option.some.inj (label.symm.trans same)
    cases side : signal.direction with
    | buy => exact (not_le.mp passes).trans_le (floored_le up mass)
    | sell =>
        rw [side] at others
        by_contra low
        exact open_ ⟨others, not_le.mp passes, not_lt.mp low⟩

end Signalling

namespace Sample

def liveDemand : Zone ℚ where
  id := "z1"
  kind := .demand
  top := 101
  bottom := 95
  createdTs := 0

def brokenDemand : Zone ℚ := { liveDemand with id := "z0", bottom := 90, state := .broken }

def touchingDemand (zones : List (Zone ℚ)) : LtfSnapshot ℚ where
  symbol := "Volatility 75 Index"
  timeframe := "M15"
  ts := 0
  close := 100
  atr := 2
  rsi := 50
  ema50 := 99
  ema200 := 98
  zones := zones

def upMarket : MarketContext ℚ where
  htfTrend := "up"
  regime := "S1_trend_up"
  pWin := some (9 / 10)

end Sample

namespace SignalEngine

theorem stop_of_traded_alone : ∃ signal,
    ((engineOf {}).evaluate "" (Sample.touchingDemand [Sample.liveDemand])
      Sample.upMarket).signal = some signal ∧ signal.direction = .buy ∧ signal.sl = 94 := by
  have fires : ((engineOf {}).evaluate "" (Sample.touchingDemand [Sample.liveDemand])
      Sample.upMarket).signal.isSome = true := by decide +kernel
  obtain ⟨signal, fired⟩ := Option.isSome_iff_exists.mp fires
  have traded : tradedZone (Sample.touchingDemand [Sample.liveDemand]) =
      some Sample.liveDemand := rfl
  obtain ⟨side, stop⟩ := (stop_of_traded_iff fired traded).mpr fun holder held => by
    obtain rfl := Option.some.inj held
    rfl
  refine ⟨signal, fired, side, stop.trans ?_⟩
  decide +kernel

/-- A broken zone above the traded one takes the stop with it. -/
theorem stop_of_broken : ¬∀ signal zone,
    ((engineOf {}).evaluate "" (Sample.touchingDemand [Sample.brokenDemand, Sample.liveDemand])
      Sample.upMarket).signal = some signal →
        tradedZone (Sample.touchingDemand [Sample.brokenDemand, Sample.liveDemand]) = some zone →
          signal.direction = directionOf zone.kind ∧ signal.sl = (engineOf {}).stopOf
            (Sample.touchingDemand [Sample.brokenDemand, Sample.liveDemand]) zone := by
  intro belongs
  have fires : ((engineOf {}).evaluate ""
      (Sample.touchingDemand [Sample.brokenDemand, Sample.liveDemand])
      Sample.upMarket).signal.isSome = true := by decide +kernel
  obtain ⟨signal, fired⟩ := Option.isSome_iff_exists.mp fires
  have traded : tradedZone (Sample.touchingDemand [Sample.brokenDemand, Sample.liveDemand]) =
      some Sample.liveDemand := rfl
  obtain ⟨_, own⟩ := belongs signal Sample.liveDemand fired traded
  obtain ⟨_, holder, held, stop⟩ := fired_side fired traded
  obtain rfl : Sample.brokenDemand = holder := Option.some.inj held
  exact absurd (stop.symm.trans own) (by decide +kernel)

end SignalEngine

namespace Signalling

namespace Sample

def pairText : String := "\x7b\"p_up\": 0.9, \"p_down\": 0.1\x7d"

def downText : String := "\x7b\"regime\": \"S2_trend_down\"\x7d"

def pairLoads (raw : String) : Except PyError Json :=
  if raw = pairText then
    .ok (.dict [("p_up", .float (.finite (9 / 10))), ("p_down", .float (.finite (1 / 10)))])
  else if raw = downText then .ok (.dict [("regime", .str "S2_trend_down")])
  else loads raw

def exactFloat : Json → Except PyError ℚ
  | .int value => .ok value
  | .float (.finite value) => .ok value
  | _ => .error (.typeError "float() argument must be a string or a real number")

def exactDecoders : SignalDecoders ℚ := ⟨pairLoads, exactFloat⟩

theorem pair_cached : Cached exactDecoders pairText (9 / 10) (1 / 10) :=
  ⟨_, _, _, rfl, rfl, rfl, rfl, rfl, rfl, rfl⟩

def touchingSupply : LtfSnapshot ℚ :=
  { Vix75.Sample.touchingDemand [] with
    zones := [{ Vix75.Sample.liveDemand with kind := .supply }] }

theorem marketOf_up :
    marketOf exactDecoders (some regimeText) (some pairText) "up" = .ok Vix75.Sample.upMarket := by
  decide +kernel

def downMarket : MarketContext ℚ where
  htfTrend := "down"
  regime := "S2_trend_down"
  pWin := some (9 / 10)

theorem marketOf_down :
    marketOf exactDecoders (some downText) (some pairText) "down" = .ok downMarket := by
  decide +kernel

end Sample

theorem own_probability_bought : ∃ signal,
    ((engineOf {}).evaluate "" (Vix75.Sample.touchingDemand [Vix75.Sample.liveDemand])
      Vix75.Sample.upMarket).signal = some signal ∧
        (engineOf {} : SignalEngine ℚ).minPWin <
          ownProbability (9 / 10) (1 / 10) signal.direction := by
  have fires : ((engineOf {}).evaluate "" (Vix75.Sample.touchingDemand [Vix75.Sample.liveDemand])
      Vix75.Sample.upMarket).signal.isSome = true := by decide +kernel
  obtain ⟨signal, fired⟩ := Option.isSome_iff_exists.mp fires
  refine ⟨signal, fired, (own_probability_iff (engineOf {}) "" _ Sample.pair_cached
    (by norm_num) (by norm_num) Sample.marketOf_up).mpr ?_ signal fired⟩
  rintro ⟨⟨⟨kind, first, side⟩, _⟩, _⟩
  have touched := (zoneTouch_eq_some_iff _ kind).mpr first
  obtain rfl : ZoneKind.demand = kind := Option.some.inj touched
  cases side

/-- A sale fires on nine chances in ten of a rise. -/
theorem own_probability_sold : ¬∀ market signal,
    marketOf Sample.exactDecoders (some Sample.downText) (some Sample.pairText) "down" =
        .ok market →
      ((engineOf {}).evaluate "" Sample.touchingSupply market).signal = some signal →
        (engineOf {} : SignalEngine ℚ).minPWin <
          ownProbability (9 / 10) (1 / 10) signal.direction := by
  intro own
  have fires : ((engineOf {}).evaluate "" Sample.touchingSupply
      Sample.downMarket).signal.map Signal.direction = some .sell := by decide +kernel
  obtain ⟨signal, fired, side⟩ := Option.map_eq_some_iff.mp fires
  have high := own Sample.downMarket signal Sample.marketOf_down fired
  rw [side] at high
  exact absurd high (by decide +kernel)

end Signalling

end Vix75
