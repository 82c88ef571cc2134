import Mathlib.Data.Finset.Max
import Vix75.SignalConsumer

/-! Which timeframe decides the macro trend when the rows of two of them disagree. -/

namespace Vix75

namespace Signalling

open EffectProgram

variable {F : Type} [LT F] [DecidableLT F]

/-- The vote of a timeframe's row. A row without both averages has none. -/
def voteOf (rows : String → Option (Snapshot F)) (timeframe : String) : Option String :=
  (rows timeframe).bind fun row => row.ema50.bind fun ema50 => row.ema200.map fun ema200 =>
    htfTrendFromEmas ema50 ema200

section Fetch

variable {σ : Type}
variable {respond : σ → (effect : SignalEffect F) → Except PyError effect.Reply × σ}
variable {rows : String → Option (Snapshot F)} {symbol : String}

theorem fetchVotes_eval (stored : ∀ state timeframe,
      (respond state (.fetchFeatureRow symbol timeframe)).1 = .ok (rows timeframe))
    (timeframes : List String) (state : σ) :
    (Prog.eval respond state (fetchVotes symbol timeframes)).1 =
      .ok (timeframes.filterMap (voteOf rows)) := by
  induction timeframes generalizing state with
  | nil => rfl
  | cons timeframe rest ih =>
      have here := stored state timeframe
      rw [fetchVotes, Prog.eval_perform_bind]
      rcases answered : respond state (.fetchFeatureRow symbol timeframe) with ⟨reply, after⟩
      rw [answered] at here
      subst here
      have later := ih after
      simp only
      rw [Prog.eval_bind]
      rcases ran : Prog.eval respond after (fetchVotes symbol rest) with ⟨votes, final⟩
      rw [ran] at later
      subst later
      rw [List.filterMap_cons]
      cases vote : voteOf rows timeframe <;> rw [voteOf] at vote <;> simp only [vote] <;> rfl

theorem fetchHtfTrend_eval (stored : ∀ state timeframe,
      (respond state (.fetchFeatureRow symbol timeframe)).1 = .ok (rows timeframe))
    (timeframes : List String) (state : σ) :
    (Prog.eval respond state (fetchHtfTrend symbol timeframes)).1 =
      .ok (trendOf (timeframes.filterMap (voteOf rows))) := by
  have voted := fetchVotes_eval stored timeframes state
  rw [fetchHtfTrend, Prog.eval_bind]
  rcases ran : Prog.eval respond state (fetchVotes symbol timeframes) with ⟨votes, final⟩
  rw [ran] at voted
  subst voted
  rfl

end Fetch

/-! The timeframes by their length -/

section Heights

variable (rows : String → Option (Snapshot F)) (minutes : String → ℕ) (timeframes : List String)

def Votes (direction : String) : Prop :=
  ∃ timeframe ∈ timeframes, voteOf rows timeframe = some direction

def Directional (timeframe : String) : Prop :=
  voteOf rows timeframe = some "up" ∨ voteOf rows timeframe = some "down"

instance (timeframe : String) : Decidable (Directional rows timeframe) :=
  inferInstanceAs (Decidable (_ ∨ _))

/-- The shortest timeframe whose row has both averages. -/
structure LowestStored (timeframe : String) : Prop where
  member : timeframe ∈ timeframes
  stored : (voteOf rows timeframe).isSome
  least : ∀ other ∈ timeframes, (voteOf rows other).isSome → minutes timeframe ≤ minutes other

/-- The longest timeframe whose row is not flat. -/
structure HighestDirectional (timeframe : String) : Prop where
  member : timeframe ∈ timeframes
  directional : Directional rows timeframe
  greatest : ∀ other ∈ timeframes, Directional rows other → minutes other ≤ minutes timeframe

structure HigherWins (trend : String) : Prop where
  up : Votes rows timeframes "up" → ¬Votes rows timeframes "down" → trend = "up"
  down : Votes rows timeframes "down" → ¬Votes rows timeframes "up" → trend = "down"
  conflict : Votes rows timeframes "up" → Votes rows timeframes "down" →
    ∀ highest, HighestDirectional rows minutes timeframes highest →
      voteOf rows highest = some trend

variable {rows} {minutes} {timeframes}

theorem mem_votes {direction : String} :
    direction ∈ timeframes.filterMap (voteOf rows) ↔ Votes rows timeframes direction :=
  List.mem_filterMap

theorem exists_lowest {direction : String} (voted : Votes rows timeframes direction) :
    ∃ timeframe, LowestStored rows minutes timeframes timeframe := by
  obtain ⟨first, member, vote⟩ := voted
  have inhabited : (timeframes.toFinset.filter fun tf => (voteOf rows tf).isSome).Nonempty :=
    ⟨first, by simpa using ⟨member, by simp [vote]⟩⟩
  obtain ⟨lowest, among, least⟩ := Finset.exists_min_image _ minutes inhabited
  rw [Finset.mem_filter, List.mem_toFinset] at among
  refine ⟨lowest, among.1, among.2, fun other member stored => least other ?_⟩
  rw [Finset.mem_filter, List.mem_toFinset]
  exact ⟨member, stored⟩

theorem LowestStored.head_eq {timeframe : String}
    (ascending : timeframes.Pairwise fun lower higher => minutes lower < minutes higher)
    (lowest : LowestStored rows minutes timeframes timeframe) :
    (timeframes.filterMap (voteOf rows)).head? = voteOf rows timeframe := by
  induction timeframes with
  | nil => exact absurd lowest.member List.not_mem_nil
  | cons first rest ih =>
      have above := (List.pairwise_cons.mp ascending).1
      rw [List.filterMap_cons]
      cases vote : voteOf rows first with
      | some value =>
          rcases List.mem_cons.mp lowest.member with rfl | later
          · exact vote.symm
          · have shorter := lowest.least first (by simp) (by simp [vote])
            have longer := above timeframe later
            omega
      | none =>
          have later : timeframe ∈ rest := by
            rcases List.mem_cons.mp lowest.member with rfl | later
            · exact absurd lowest.stored (by simp [vote])
            · exact later
          refine ih (List.Pairwise.of_cons ascending) ⟨later, lowest.stored, ?_⟩
          intro other member stored
          exact lowest.least other (List.mem_cons_of_mem _ member) stored

theorem trendOf_conflict {votes : List String} (up : "up" ∈ votes) (down : "down" ∈ votes) :
    votes.head? = some (trendOf votes) := by
  cases votes with
  | nil => exact absurd up List.not_mem_nil
  | cons first rest =>
      rw [trendOf, if_neg fun only => only.2 down, if_neg fun only => only.2 up]
      rfl

theorem trendOf_one {votes : List String} :
    ("up" ∈ votes → "down" ∉ votes → trendOf votes = "up") ∧
      ("down" ∈ votes → "up" ∉ votes → trendOf votes = "down") := by
  constructor
  · intro up down
    rw [trendOf, if_pos ⟨up, down⟩]
  · intro down up
    rw [trendOf, if_neg fun only => up only.1, if_pos ⟨down, up⟩]

theorem higherWins_trendOf_iff
    (ascending : timeframes.Pairwise fun lower higher => minutes lower < minutes higher) :
    HigherWins rows minutes timeframes (trendOf (timeframes.filterMap (voteOf rows))) ↔
      (Votes rows timeframes "up" → Votes rows timeframes "down" →
        ∀ lowest highest, LowestStored rows minutes timeframes lowest →
          HighestDirectional rows minutes timeframes highest →
            voteOf rows lowest = voteOf rows highest) := by
  constructor
  · intro wins up down lowest highest least greatest
    rw [wins.conflict up down highest greatest, ← least.head_eq ascending]
    exact trendOf_conflict (mem_votes.mpr up) (mem_votes.mpr down)
  · intro agree
    refine ⟨?_, ?_, ?_⟩
    · intro up down
      exact trendOf_one.1 (mem_votes.mpr up) (mt mem_votes.mp down)
    · intro down up
      exact trendOf_one.2 (mem_votes.mpr down) (mt mem_votes.mp up)
    · intro up down highest greatest
      have stored : ∃ lowest, LowestStored rows minutes timeframes lowest := exists_lowest up
      obtain ⟨lowest, least⟩ := stored
      rw [← agree up down lowest highest least greatest, ← least.head_eq ascending]
      exact trendOf_conflict (mem_votes.mpr up) (mem_votes.mpr down)

end Heights

namespace Sample

def row (timeframe : String) (ema50 ema200 : Option ℚ) : Snapshot ℚ where
  symbol := "V75"
  timeframe := timeframe
  ts := 0
  close := 100
  atr := none
  atrNorm := none
  rsi := none
  ema50 := ema50
  ema200 := ema200
  bbUpper := none
  bbMid := none
  bbLower := none
  stochK := none
  stochD := none
  logReturn := none
  realizedVol := none
  swingHigh := none
  swingLow := none
  zones := []

def minutes : String → ℕ
  | "H4" => 240
  | "D1" => 1440
  | _ => 0

def split : String → Option (Snapshot ℚ)
  | "H4" => some (row "H4" (some 102) (some 101))
  | "D1" => some (row "D1" (some 98) (some 99))
  | _ => none

def young : String → Option (Snapshot ℚ)
  | "H4" => some (row "H4" (some 102) none)
  | "D1" => some (row "D1" (some 98) (some 99))
  | _ => none

def database (rows : String → Option (Snapshot ℚ)) :
    Unit → (effect : SignalEffect ℚ) → Except PyError effect.Reply × Unit
  | _, .fetchFeatureRow _ timeframe => (.ok (rows timeframe), ())
  | _, _ => (.error .noGroup, ())

theorem ascending : ["H4", "D1"].Pairwise fun lower higher => minutes lower < minutes higher := by
  decide

end Sample

/-- The trend is the vote of the longest timeframe that has a direction, except where two
directions are stored and the shortest stored timeframe does not vote as that one. -/
theorem fetchHtfTrend_higher_wins_iff {σ : Type}
    (respond : σ → (effect : SignalEffect F) → Except PyError effect.Reply × σ)
    (rows : String → Option (Snapshot F)) (symbol : String)
    (stored : ∀ state timeframe,
      (respond state (.fetchFeatureRow symbol timeframe)).1 = .ok (rows timeframe))
    (minutes : String → ℕ) (timeframes : List String)
    (ascending : timeframes.Pairwise fun lower higher => minutes lower < minutes higher)
    (state : σ) :
    (∃ trend, (Prog.eval respond state (fetchHtfTrend symbol timeframes)).1 = .ok trend ∧
      HigherWins rows minutes timeframes trend) ↔
      (Votes rows timeframes "up" → Votes rows timeframes "down" →
        ∀ lowest highest, LowestStored rows minutes timeframes lowest →
          HighestDirectional rows minutes timeframes highest →
            voteOf rows lowest = voteOf rows highest) := by
  rw [fetchHtfTrend_eval stored, ← higherWins_trendOf_iff ascending]
  constructor
  · rintro ⟨trend, returned, wins⟩
    obtain rfl := Except.ok.inj returned
    exact wins
  · intro wins
    exact ⟨_, rfl, wins⟩

theorem fetchHtfTrend_higher_wins_young :
    ∃ trend, (Prog.eval (Sample.database Sample.young) () (fetchHtfTrend "V75" ["H4", "D1"])).1 =
        .ok trend ∧ HigherWins Sample.young Sample.minutes ["H4", "D1"] trend := by
  apply (fetchHtfTrend_higher_wins_iff (Sample.database Sample.young) Sample.young "V75"
    (fun _ _ => rfl) Sample.minutes ["H4", "D1"] Sample.ascending ()).mpr
  rintro ⟨timeframe, member, up⟩
  have none_up : ∀ timeframe ∈ ["H4", "D1"], voteOf Sample.young timeframe ≠ some "up" := by
    decide +kernel
  exact absurd up (none_up timeframe member)

/-- The configured order puts H4 first, and its vote stands against that of D1. -/
theorem fetchHtfTrend_first_wins :
    ¬∃ trend, (Prog.eval (Sample.database Sample.split) () (fetchHtfTrend "V75" ["H4", "D1"])).1 =
        .ok trend ∧ HigherWins Sample.split Sample.minutes ["H4", "D1"] trend := by
  rintro ⟨trend, returned, wins⟩
  have up : voteOf Sample.split "H4" = some "up" := by decide +kernel
  have down : voteOf Sample.split "D1" = some "down" := by decide +kernel
  have first : (Prog.eval (Sample.database Sample.split) ()
      (fetchHtfTrend "V75" ["H4", "D1"])).1 = .ok "up" := by decide +kernel
  obtain rfl := Except.ok.inj (first.symm.trans returned)
  have highest : HighestDirectional Sample.split Sample.minutes ["H4", "D1"] "D1" :=
    ⟨by simp, .inr down, by decide +kernel⟩
  have wins := wins.conflict ⟨"H4", by simp, up⟩ ⟨"D1", by simp, down⟩ "D1" highest
  rw [down] at wins
  exact absurd wins (by decide)

end Signalling

end Vix75
