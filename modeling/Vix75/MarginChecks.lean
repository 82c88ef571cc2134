import Mathlib.Order.Bounds.Basic
import Vix75.DescendingOrbit
import Vix75.SizingChecks

/-! The margin loop of the sizing in exact arithmetic: on a broker's step grid it skips no size
that fits, and on any other input it may never end. -/

namespace Vix75

open WhileLoop DecimalRounding

def snap (step value : ℚ) : ℚ := roundDigits 10 (⌊roundDigits 10 (value / step)⌋ * step)

def reduce (step lots : ℚ) : ℚ := max (snap step (lots - step)) 0

namespace SizingArgs

variable (args : SizingArgs ℚ)

def riskLots : ℚ := snap args.constraints.volumeStep (args.riskAmount / args.lossPerLot)

def startLots : ℚ := min args.constraints.volumeMax args.riskLots

def Fitting (freeMargin : ℚ) : Set ℚ :=
  {lots | WholeSteps args.constraints.volumeStep lots ∧ args.constraints.volumeMin ≤ lots ∧
    lots ≤ args.startLots ∧ lots * args.constraints.marginPerLot ≤ freeMargin * args.marginBuffer}

end SizingArgs

theorem WholeSteps.add_step_le {step lower upper : ℚ} (stepPos : 0 < step)
    (lowerWhole : WholeSteps step lower) (upperWhole : WholeSteps step upper)
    (below : lower < upper) : lower + step ≤ upper := by
  obtain ⟨fewer, rfl⟩ := lowerWhole
  obtain ⟨more, rfl⟩ := upperWhole
  have counts : fewer + 1 ≤ more := by
    have apart := lt_of_mul_lt_mul_right below stepPos.le
    exact_mod_cast apart
  have scaled : ((fewer + 1 : ℤ) : ℚ) * step ≤ more * step :=
    mul_le_mul_of_nonneg_right (by exact_mod_cast counts) stepPos.le
  calc fewer * step + step = ((fewer + 1 : ℤ) : ℚ) * step := by
        push_cast
        ring
    _ ≤ more * step := scaled

/-- The loop has passed over every larger size, and none of them fits. -/
structure Searched (constraints : SymbolConstraints ℚ) (budget start : ℚ)
    (state : MarginState ℚ) : Prop where
  held : MarginInvariant constraints start state
  minLe : constraints.volumeMin ≤ state.lots
  passed : ∀ lots, WholeSteps constraints.volumeStep lots → state.lots < lots → lots ≤ start →
    budget < lots * constraints.marginPerLot

section Search

variable {constraints : SymbolConstraints ℚ} {budget start : ℚ} {state : MarginState ℚ}

theorem Searched.step (broker : BrokerSnapshot constraints)
    (minWhole : WholeSteps constraints.volumeStep constraints.volumeMin) (nonneg : 0 ≤ start)
    (searched : Searched constraints budget start state) (dear : budget < state.required)
    (above : constraints.volumeMin < state.lots) :
    Searched constraints budget start (marginStep constraints state) := by
  have room := WholeSteps.add_step_le broker.stepPos minWhole searched.held.whole above
  have positive : ¬state.lots - constraints.volumeStep < 0 := by
    linarith [broker.minPos]
  have lots : (marginStep constraints state).lots = state.lots - constraints.volumeStep := by
    rw [marginStep, pyMax, if_neg positive]
  refine ⟨searched.held.step broker nonneg, ?_, ?_⟩
  · rw [lots]
    linarith
  · intro other whole larger atMost
    rw [lots] at larger
    rcases lt_trichotomy state.lots other with greater | same | under
    · exact searched.passed other whole greater atMost
    · rw [← same, ← searched.held.required]
      exact dear
    · have gap := WholeSteps.add_step_le broker.stepPos whole searched.held.whole under
      linarith

theorem marginLoop_searched {fuel : ℕ} {final : MarginState ℚ}
    (broker : BrokerSnapshot constraints)
    (minWhole : WholeSteps constraints.volumeStep constraints.volumeMin) (nonneg : 0 ≤ start)
    (searched : Searched constraints budget start state)
    (returned : marginLoop constraints budget fuel state = .returned final) :
    Searched constraints budget start final ∧
      (budget < final.required → final.lots ≤ constraints.volumeMin) := by
  have ended := whileLoop_invariant (Searched constraints budget start) searched ?_ returned
  · refine ⟨ended.1, fun dear => ?_⟩
    have stopped := ended.2
    rw [← Bool.not_eq_true, Bool.and_eq_true, decide_eq_true_iff, decide_eq_true_iff] at stopped
    exact not_lt.mp fun above => stopped ⟨dear, above⟩
  · intro current next searched go stepped
    rw [marginBody_eq broker searched.held.whole] at stepped
    cases stepped
    rw [Bool.and_eq_true, decide_eq_true_iff, decide_eq_true_iff] at go
    exact searched.step broker minWhole nonneg go.1 go.2

end Search

section Maximal

variable {args : SizingArgs ℚ} {freeMargin : ℚ}

theorem riskLots_eq (broker : BrokerSnapshot args.constraints) :
    floorToStep (args.riskAmount / args.lossPerLot) args.constraints.volumeStep =
      .ok args.riskLots := by
  have notLe : ¬args.constraints.volumeStep ≤ (PyMath.ofRat 0 : ℚ) := not_le.mpr broker.stepPos
  rw [floorToStep, if_neg notLe]
  rfl

theorem riskLots_whole (broker : BrokerSnapshot args.constraints) :
    WholeSteps args.constraints.volumeStep args.riskLots := by
  refine ⟨⌊roundDigits 10
    (args.riskAmount / args.lossPerLot / args.constraints.volumeStep)⌋, ?_⟩
  exact roundTen_of_grid (broker.stepGrid.intMul _)

theorem SizingStatus.Accepted.ne_rejectMargin {status : SizingStatus}
    (accepted : status.Accepted) : status ≠ .rejectMargin := by
  rintro rfl
  revert accepted
  decide

def ChoosesGreatest (args : SizingArgs ℚ) (freeMargin : ℚ) (result : LotSizingResult ℚ) : Prop :=
  ((args.Fitting freeMargin).Nonempty →
    result.status.Accepted ∧ IsGreatest (args.Fitting freeMargin) result.lots) ∧
  (result.status = .rejectMargin ↔ args.Fitting freeMargin = ∅)

theorem applyMargin_greatest {fuel : ℕ} {status : SizingStatus} {result : LotSizingResult ℚ}
    (broker : BrokerSnapshot args.constraints)
    (minWhole : WholeSteps args.constraints.volumeStep args.constraints.volumeMin)
    (given : args.freeMargin = some freeMargin) (accepted : status.Accepted)
    (whole : WholeSteps args.constraints.volumeStep args.startLots)
    (minLe : args.constraints.volumeMin ≤ args.startLots)
    (returned : applyMargin args fuel status args.startLots = .returned result) :
    ChoosesGreatest args freeMargin result := by
  have nonneg : 0 ≤ args.startLots := broker.minPos.le.trans minLe
  unfold applyMargin at returned
  rw [given] at returned
  obtain ⟨final, looped, returned⟩ := Outcome.bind_eq_returned.mp returned
  have begun : Searched args.constraints (args.budget freeMargin) args.startLots
      ⟨args.startLots, args.startLots * args.constraints.marginPerLot⟩ :=
    ⟨⟨whole, le_rfl, rfl⟩, minLe, fun lots _ above atMost => absurd above (not_lt.mpr atMost)⟩
  obtain ⟨searched, stopped⟩ := marginLoop_searched broker minWhole nonneg begun looped
  have passed : ∀ lots ∈ args.Fitting freeMargin, lots ≤ final.lots := by
    rintro lots ⟨wholeLots, _, atMost, fits⟩
    by_contra larger
    exact not_lt.mpr fits (searched.passed lots wholeLots (not_le.mp larger) atMost)
  split at returned
  · rename_i dear
    cases returned
    have none : args.Fitting freeMargin = ∅ := by
      refine Set.eq_empty_of_forall_notMem fun lots fitting => not_lt.mpr fitting.2.2.2 ?_
      have same : lots = final.lots :=
        le_antisymm (passed lots fitting) ((stopped dear).trans fitting.2.1)
      rw [same, ← searched.held.required]
      exact dear
    exact ⟨fun some => absurd none some.ne_empty, iff_of_true rfl none⟩
  · rename_i affordable
    have fitting : final.lots ∈ args.Fitting freeMargin := by
      refine ⟨searched.held.whole, searched.minLe, searched.held.le, ?_⟩
      rw [← searched.held.required]
      exact not_lt.mp affordable
    rw [if_neg (not_lt.mpr searched.minLe)] at returned
    cases returned
    have some := Set.nonempty_of_mem fitting
    have kept := accepted.ne_rejectMargin
    exact ⟨fun _ => ⟨accepted, fitting, passed⟩, iff_of_false kept some.ne_empty⟩

/-- The margin clamp is maximal: it returns the largest size on the grid that fits. -/
theorem computeLots_margin_maximal (broker : BrokerSnapshot args.constraints)
    (minWhole : WholeSteps args.constraints.volumeStep args.constraints.volumeMin)
    (checked : args.Checked) (given : args.freeMargin = some freeMargin) :
    (∃ fuel result, computeLots args fuel = .returned result) ∧
    ∀ fuel result, computeLots args fuel = .returned result →
      (args.startLots < args.constraints.volumeMin → result.status = .rejectRiskTooSmall) ∧
      (args.constraints.volumeMin ≤ args.startLots →
        ((args.Fitting freeMargin).Nonempty →
          result.status.Accepted ∧ IsGreatest (args.Fitting freeMargin) result.lots) ∧
        (result.status = .rejectMargin ↔ args.Fitting freeMargin = ∅)) := by
  refine ⟨⟨_, computeLots_returns broker le_rfl⟩, fun fuel result returned => ?_⟩
  rcases computeLots_cases args with ⟨_, sized⟩ | ⟨refused, _⟩
  · simp only [sized, sizeLots, riskLots_eq broker, Outcome.ofExcept_ok,
      Outcome.returned_bind] at returned
    split at returned
    · rename_i small
      cases returned
      have below : args.startLots < args.constraints.volumeMin := (min_le_right _ _).trans_lt small
      exact ⟨fun _ => rfl, fun least => absurd below (not_lt.mpr least)⟩
    · rename_i large
      have least : args.constraints.volumeMin ≤ args.startLots :=
        le_min broker.minLeMax (not_lt.mp large)
      refine ⟨fun below => absurd below (not_lt.mpr least), fun _ => ?_⟩
      split at returned
      · rename_i capped
        have start : args.startLots = args.constraints.volumeMax := min_eq_left capped.le
        rw [← start] at returned
        exact applyMargin_greatest broker minWhole given (.inr rfl) (start ▸ broker.maxSteps) least
          returned
      · rename_i uncapped
        have start : args.startLots = args.riskLots := min_eq_right (not_lt.mp uncapped)
        rw [← start] at returned
        exact applyMargin_greatest broker minWhole given (.inl rfl)
          (start ▸ riskLots_whole broker) least returned
  · exact absurd checked refused

theorem computeLots_margin_maximal_bound :
    (∃ fuel result, computeLots marginBound fuel = .returned result) ∧
    ∀ fuel result, computeLots marginBound fuel = .returned result →
      (marginBound.startLots < vix75Spec.volumeMin → result.status = .rejectRiskTooSmall) ∧
      (vix75Spec.volumeMin ≤ marginBound.startLots →
        ((marginBound.Fitting 30).Nonempty →
          result.status.Accepted ∧ IsGreatest (marginBound.Fitting 30) result.lots) ∧
        (result.status = .rejectMargin ↔ marginBound.Fitting 30 = ∅)) := by
  have checked : marginBound.Checked := by
    constructor <;> decide +kernel
  exact computeLots_margin_maximal vix75Spec_broker ⟨1, by norm_num [marginBound, vix75Spec]⟩
    checked rfl

end Maximal

/-! Whether the loop ends, for any numbers -/

theorem OnGrid.snap (step value : ℚ) : OnGrid (snap step value) := by
  refine ⟨halfEven (⌊roundDigits 10 (value / step)⌋ * step * 10 ^ 10), ?_⟩
  rw [Vix75.snap, roundDigits]
  field_simp

theorem OnGrid.reduce (step lots : ℚ) : OnGrid (reduce step lots) := by
  rw [Vix75.reduce]
  rcases max_choice (Vix75.snap step (lots - step)) 0 with first | second
  · rw [first]
    exact OnGrid.snap step _
  · exact ⟨0, by rw [second]; simp⟩

theorem snap_mono {step lower upper : ℚ} (stepPos : 0 < step) (ordered : lower ≤ upper) :
    snap step lower ≤ snap step upper := by
  have steps : ⌊roundDigits 10 (lower / step)⌋ ≤ ⌊roundDigits 10 (upper / step)⌋ :=
    Int.floor_mono (roundDigits_mono 10 (div_le_div_of_nonneg_right ordered stepPos.le))
  exact roundDigits_mono 10 (mul_le_mul_of_nonneg_right (Int.cast_le.mpr steps) stepPos.le)

theorem snap_sub_le {step lots : ℚ} (stepPos : 0 < step) (grid : OnGrid lots) :
    snap step (lots - step) ≤ lots := by
  have below : (⌊roundDigits 10 ((lots - step) / step)⌋ : ℚ) * step ≤ lots := by
    have floored := floorToStep_le (lots - step) stepPos
    linarith
  have rounded := roundDigits_mono 10 below
  rwa [roundTen_of_grid grid] at rounded

theorem reduce_falls {step : ℚ} (stepPos : 0 < step) :
    DescendingOrbit.Falls (reduce step) (fun lots => ⌊lots * 10 ^ 10⌋.toNat) where
  mono := fun lower upper ordered =>
    max_le_max_right 0 (snap_mono stepPos (sub_le_sub_right ordered step))
  falls := fun lots => max_le (snap_sub_le stepPos (OnGrid.reduce step lots)) (le_max_right _ _)
  counts := by
    intro lots lower
    obtain ⟨units, gridded⟩ := OnGrid.reduce step lots
    obtain ⟨fewer, lowerGridded⟩ := OnGrid.reduce step (reduce step lots)
    have nonneg : (0 : ℚ) ≤ reduce step (reduce step lots) := le_max_right _ _
    have apart : (fewer : ℚ) < units := by
      rw [← gridded, ← lowerGridded]
      exact mul_lt_mul_of_pos_right lower (by positivity)
    have fewerNonneg : (0 : ℚ) ≤ fewer := by
      rw [← lowerGridded]
      positivity
    simp only [gridded, lowerGridded, Int.floor_intCast]
    have : fewer < units := by exact_mod_cast apart
    have : 0 ≤ fewer := by exact_mod_cast fewerNonneg
    omega

/-- The loop goes on at its first two sizes, and at a smaller one that it never leaves. -/
def MarginHangs (constraints : SymbolConstraints ℚ) (budget lots : ℚ) : Prop :=
  lots ∈ GoesOn constraints budget ∧
    reduce constraints.volumeStep lots ∈ GoesOn constraints budget ∧
    ∃ rest ≤ reduce constraints.volumeStep lots,
      reduce constraints.volumeStep rest = rest ∧ rest ∈ GoesOn constraints budget

section Ends

variable {constraints : SymbolConstraints ℚ} {budget : ℚ}

theorem goesOn_ordConnected (constraints : SymbolConstraints ℚ) (budget : ℚ) :
    (GoesOn constraints budget).OrdConnected := by
  constructor
  rintro low ⟨lowDear, lowAbove⟩ high ⟨highDear, _⟩ mid ⟨lowMid, midHigh⟩
  refine ⟨?_, lowAbove.trans_le lowMid⟩
  rcases le_total 0 constraints.marginPerLot with positive | negative
  · exact lowDear.trans_le (mul_le_mul_of_nonneg_right lowMid positive)
  · exact highDear.trans_le (mul_le_mul_of_nonpos_right midHigh negative)

theorem floorToStep_snap {step : ℚ} (stepPos : 0 < step) (value : ℚ) :
    floorToStep value step = .ok (snap step value) := by
  have positive : ¬step ≤ (PyMath.ofRat 0 : ℚ) := not_le.mpr stepPos
  rw [floorToStep, if_neg positive]
  rfl

theorem marginLoop_ends_iff (stepPos : 0 < constraints.volumeStep) (lots : ℚ) :
    (∃ fuel final, marginLoop constraints budget fuel ⟨lots, lots * constraints.marginPerLot⟩ =
        .returned final) ↔ ¬MarginHangs constraints budget lots := by
  let state (size : ℚ) : MarginState ℚ := ⟨size, size * constraints.marginPerLot⟩
  have next (size : ℚ) : (do
      let floored ← Outcome.ofExcept
        (floorToStep ((state size).lots - constraints.volumeStep) constraints.volumeStep)
      let lots := pyMax floored (PyMath.ofRat 0)
      (Outcome.returned ⟨lots, lots * constraints.marginPerLot⟩ :
        Outcome PyError (MarginState ℚ))) =
      .returned (state (reduce constraints.volumeStep size)) := by
    rw [floorToStep_snap stepPos, Outcome.ofExcept_ok, Outcome.returned_bind, pyMax_eq_max]
    rfl
  unfold marginLoop
  rw [whileLoop_returns_iff state fun size _ => next size, MarginHangs,
    ← (reduce_falls stepPos).stays_iff (goesOn_ordConnected constraints budget) lots, not_forall]
  refine exists_congr fun steps => ?_
  rw [← Bool.not_eq_true, Bool.and_eq_true, decide_eq_true_iff, decide_eq_true_iff]
  rfl

end Ends

theorem sizeLots_raises {args : SizingArgs ℚ} (stepless : args.constraints.volumeStep ≤ 0)
    (fuel : ℕ) : sizeLots args fuel = .raised (.valueError "volume_step must be positive") := by
  have low : args.constraints.volumeStep ≤ (PyMath.ofRat 0 : ℚ) := stepless
  rw [sizeLots, floorToStep, if_pos low]
  rfl

/-- `compute_lots` returns for the inputs that it refuses, and for those with a positive step
whose margin loop is skipped or ends. -/
theorem computeLots_total_iff (args : SizingArgs ℚ) :
    (∃ fuel result, computeLots args fuel = .returned result) ↔
      ¬args.Checked ∨ (0 < args.constraints.volumeStep ∧
        ∀ freeMargin, args.freeMargin = some freeMargin →
          args.riskLots < args.constraints.volumeMin ∨
            ¬MarginHangs args.constraints (args.budget freeMargin) args.startLots) := by
  rcases computeLots_cases args with ⟨checked, sized⟩ | ⟨refused, status, reason, risk, _, returned⟩
  · simp only [sized, checked, not_true_eq_false, false_or]
    rcases le_or_gt args.constraints.volumeStep 0 with stepless | stepPos
    · refine iff_of_false ?_ fun positive => absurd positive.1 (not_lt.mpr stepless)
      rintro ⟨fuel, result, returned⟩
      rw [sizeLots_raises stepless] at returned
      cases returned
    · have floored := floorToStep_snap stepPos (args.riskAmount / args.lossPerLot)
      rw [and_iff_right stepPos]
      cases given : args.freeMargin with
      | none =>
          refine iff_of_true ⟨0, ?_⟩ nofun
          simp only [sizeLots, floored, Outcome.ofExcept_ok, Outcome.returned_bind, applyMargin,
            given]
          split_ifs
          all_goals exact ⟨_, rfl⟩
      | some freeMargin =>
          rw [sizeLots_returns_iff given floored, pyMin_eq_min, min_comm,
            marginLoop_ends_iff stepPos]
          simp only [Option.some.injEq, forall_eq']
          rfl
  · exact iff_of_true ⟨0, _, returned 0⟩ (.inl refused)

def stepless : SizingArgs ℚ :=
  { marginBound with constraints := { vix75Spec with volumeStep := 0 } }

def overdrawn : SizingArgs ℚ :=
  { marginBound with
    constraints := { vix75Spec with volumeMin := -1 }
    freeMargin := some (-30) }

theorem overdrawn_hangs :
    MarginHangs overdrawn.constraints (overdrawn.budget (-30)) overdrawn.startLots := by
  have start : overdrawn.startLots = 1 / 5 := by decide +kernel
  have first : reduce (1 / 100) (1 / 5) = 19 / 100 := by decide +kernel
  have rest : reduce (1 / 100) 0 = 0 := by decide +kernel
  have goesOn : ∀ lots : ℚ, 0 ≤ lots →
      lots ∈ GoesOn overdrawn.constraints (overdrawn.budget (-30)) := by
    intro lots nonneg
    have dear : (-30 * (1 / 2) : ℚ) < lots * 100 := by linarith
    have above : (-1 : ℚ) < lots := by linarith
    exact ⟨dear, above⟩
  rw [start]
  refine ⟨goesOn _ (by norm_num), ?_, 0, ?_, rest, goesOn _ le_rfl⟩
  · exact first.symm ▸ goesOn _ (by norm_num)
  · exact (by norm_num : (0 : ℚ) ≤ 19 / 100).trans first.ge

/-- The sizing raises without a volume step, and never ends on the overdrawn account. -/
theorem computeLots_not_total :
    ¬(∀ args : SizingArgs ℚ, ∃ fuel result, computeLots args fuel = .returned result) ∧
    (∀ fuel, computeLots stepless fuel = .raised (.valueError "volume_step must be positive")) ∧
    ¬∃ fuel result, computeLots overdrawn fuel = .returned result := by
  have raises : ∀ fuel, computeLots stepless fuel =
      .raised (.valueError "volume_step must be positive") := by
    have checked : stepless.Checked := by
      constructor <;> decide +kernel
    rcases computeLots_cases stepless with ⟨_, sized⟩ | ⟨refused, _⟩
    · intro fuel
      rw [sized, sizeLots_raises (by decide +kernel)]
    · exact absurd checked refused
  refine ⟨fun total => ?_, raises, ?_⟩
  · obtain ⟨fuel, result, returned⟩ := total stepless
    rw [raises] at returned
    cases returned
  · have checked : overdrawn.Checked := by
      constructor <;> decide +kernel
    have stepPos : 0 < overdrawn.constraints.volumeStep := by decide +kernel
    have large : ¬overdrawn.riskLots < overdrawn.constraints.volumeMin := by decide +kernel
    rcases computeLots_cases overdrawn with ⟨_, sized⟩ | ⟨refused, _⟩
    · simp only [sized]
      rw [sizeLots_returns_iff rfl (floorToStep_snap stepPos _), pyMin_eq_min, min_comm,
        marginLoop_ends_iff stepPos]
      rintro (small | ends)
      · exact large small
      · exact ends overdrawn_hangs
    · exact absurd checked refused

end Vix75
