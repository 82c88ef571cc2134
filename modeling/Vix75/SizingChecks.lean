import Mathlib.Tactic.NormNum
import Mathlib.Tactic.Ring
import Vix75.SizingCore

/-! Sizing in exact arithmetic: lots stay on the step grid, never exceed the risk or the
margin that they were sized for, and the margin loop ends. -/

namespace Vix75

open WhileLoop DecimalRounding

section Checks

variable {F : Type} [Sub F] [Mul F] [Div F] [LT F] [LE F] [DecidableLT F] [DecidableLE F]
variable [PyMath F]

open PyMath

/-- The inputs that `compute_lots` sizes: they pass the validity checks and the stops check. -/
structure SizingArgs.Checked (args : SizingArgs F) : Prop where
  equity : ¬args.equity ≤ ofRat 0
  riskPct : ¬args.riskPct ≤ ofRat 0
  tickSize : ¬args.constraints.tickSize ≤ ofRat 0
  tickValue : ¬args.constraints.tickValue ≤ ofRat 0
  entry : ¬args.entry ≤ ofRat 0
  stopLoss : ¬args.stopLoss ≤ ofRat 0
  stops : validateStopDistances args.entry args.stopLoss args.takeProfit args.constraints = none
  loss : ¬args.lossPerLot ≤ ofRat 0

theorem computeLots_cases (args : SizingArgs F) :
    (args.Checked ∧ ∀ fuel, computeLots args fuel = sizeLots args fuel) ∨
    (¬args.Checked ∧ ∃ status reason riskAmount, ¬status.Accepted ∧
      ∀ fuel, computeLots args fuel = .returned ⟨status, ofRat 0, reason, riskAmount⟩) := by
  by_cases funds : args.equity ≤ ofRat 0 ∨ args.riskPct ≤ ofRat 0
  · exact .inr ⟨fun checked => funds.elim checked.equity checked.riskPct,
      .rejectInvalidInput, _, _, by decide, fun fuel => if_pos funds⟩
  by_cases ticks : args.constraints.tickSize ≤ ofRat 0 ∨ args.constraints.tickValue ≤ ofRat 0
  · exact .inr ⟨fun checked => ticks.elim checked.tickSize checked.tickValue,
      .rejectInvalidInput, _, _, by decide, fun fuel => by
        rw [computeLots, if_neg funds, if_pos ticks]⟩
  by_cases prices : args.entry ≤ ofRat 0 ∨ args.stopLoss ≤ ofRat 0
  · exact .inr ⟨fun checked => prices.elim checked.entry checked.stopLoss,
      .rejectInvalidInput, _, _, by decide, fun fuel => by
        rw [computeLots, if_neg funds, if_neg ticks, if_pos prices]⟩
  cases stops : validateStopDistances args.entry args.stopLoss args.takeProfit args.constraints with
  | some reason =>
      refine .inr ⟨fun checked => ?_, .rejectStopsLevel, reason, args.riskAmount, by decide,
        fun fuel => ?_⟩
      · rw [checked.stops] at stops
        cases stops
      · rw [computeLots, if_neg funds, if_neg ticks, if_neg prices, stops]
  | none =>
      by_cases lossless : args.lossPerLot ≤ ofRat 0
      · refine .inr ⟨fun checked => checked.loss lossless, .rejectInvalidInput,
          "loss_per_lot computed as zero", args.riskAmount, by decide, fun fuel => ?_⟩
        rw [computeLots, if_neg funds, if_neg ticks, if_neg prices, stops]
        exact if_pos lossless
      · rw [not_or] at funds ticks prices
        refine .inl ⟨⟨funds.1, funds.2, ticks.1, ticks.2, prices.1, prices.2, stops, lossless⟩,
          fun fuel => ?_⟩
        rw [computeLots, if_neg (not_or.mpr funds), if_neg (not_or.mpr ticks),
          if_neg (not_or.mpr prices), stops]
        exact if_neg lossless

theorem applyMargin_returns_iff {args : SizingArgs F} {freeMargin : F}
    (known : args.freeMargin = some freeMargin) (status : SizingStatus) (lots : F) :
    (∃ rounds result, applyMargin args rounds status lots = .returned result) ↔
      ∃ rounds final, marginLoop args.constraints (args.budget freeMargin) rounds
        ⟨lots, lots * args.constraints.marginPerLot⟩ = .returned final := by
  unfold applyMargin
  rw [known]
  refine exists_congr fun rounds => Outcome.bind_returns_iff fun final => ?_
  split_ifs
  all_goals exact ⟨_, rfl⟩

def GoesOn (constraints : SymbolConstraints F) (budget : F) : Set F :=
  {lots | budget < lots * constraints.marginPerLot ∧ constraints.volumeMin < lots}

theorem marginLoop_stops {constraints : SymbolConstraints F} {budget : F}
    {start : MarginState F}
    (stops : budget < start.required → ¬constraints.volumeMin < start.lots) :
    ∃ rounds final, marginLoop constraints budget rounds start = .returned final := by
  refine ⟨0, start, ?_⟩
  simp only [marginLoop, whileLoop]
  rw [if_neg]
  simpa using stops

theorem sizeLots_returns_iff {args : SizingArgs F} {freeMargin lots : F}
    (known : args.freeMargin = some freeMargin) (floored : floorToStep
      (args.riskAmount / args.lossPerLot) args.constraints.volumeStep = .ok lots) :
    (∃ rounds result, sizeLots args rounds = .returned result) ↔
      lots < args.constraints.volumeMin ∨
        ∃ rounds final, marginLoop args.constraints (args.budget freeMargin) rounds
          ⟨pyMin lots args.constraints.volumeMax,
            pyMin lots args.constraints.volumeMax * args.constraints.marginPerLot⟩ =
          .returned final := by
  simp only [sizeLots, floored, Outcome.ofExcept_ok, Outcome.returned_bind]
  by_cases small : lots < args.constraints.volumeMin
  · simp [small]
  · by_cases capped : args.constraints.volumeMax < lots <;>
      simp only [small, capped, if_true, if_false, false_or, pyMin]
    · exact applyMargin_returns_iff known _ _
    · exact applyMargin_returns_iff known _ _

end Checks

def OnGrid (value : ℚ) : Prop := ∃ units : ℤ, value * 10 ^ 10 = units

def WholeSteps (step value : ℚ) : Prop := ∃ steps : ℤ, value = steps * step

/-- What a broker snapshot is assumed to satisfy. -/
structure BrokerSnapshot (constraints : SymbolConstraints ℚ) : Prop where
  minPos : 0 < constraints.volumeMin
  minLeMax : constraints.volumeMin ≤ constraints.volumeMax
  stepPos : 0 < constraints.volumeStep
  minGrid : OnGrid constraints.volumeMin
  maxGrid : OnGrid constraints.volumeMax
  stepGrid : OnGrid constraints.volumeStep
  maxSteps : WholeSteps constraints.volumeStep constraints.volumeMax

theorem OnGrid.intMul {step : ℚ} (grid : OnGrid step) (steps : ℤ) : OnGrid (steps * step) := by
  obtain ⟨units, eq⟩ := grid
  refine ⟨steps * units, ?_⟩
  push_cast
  rw [mul_assoc, eq]

theorem roundTen_of_grid {value : ℚ} (grid : OnGrid value) : roundDigits 10 value = value := by
  obtain ⟨units, eq⟩ := grid
  exact roundDigits_of_grid eq

theorem WholeSteps.zero (step : ℚ) : WholeSteps step 0 := ⟨0, by simp⟩

theorem WholeSteps.sub_step {step value : ℚ} (whole : WholeSteps step value) :
    WholeSteps step (value - step) := by
  obtain ⟨steps, eq⟩ := whole
  refine ⟨steps - 1, ?_⟩
  push_cast
  rw [eq]
  ring

theorem WholeSteps.pyMax {step left right : ℚ} (whole : WholeSteps step left)
    (other : WholeSteps step right) : WholeSteps step (pyMax left right) := by
  unfold Vix75.pyMax
  split
  · exact other
  · exact whole

theorem floorToStep_eq {value step : ℚ} (stepPos : 0 < step) (grid : OnGrid step) :
    floorToStep value step = .ok (⌊roundDigits 10 (value / step)⌋ * step) := by
  have notLe : ¬step ≤ (PyMath.ofRat 0 : ℚ) := not_le.mpr stepPos
  have outer := roundTen_of_grid (grid.intMul ⌊roundDigits 10 (value / step)⌋)
  simp only [floorToStep, notLe, if_false]
  exact congrArg Except.ok outer

theorem floorToStep_whole {value step : ℚ} (stepPos : 0 < step) (grid : OnGrid step)
    (whole : WholeSteps step value) : floorToStep value step = .ok value := by
  obtain ⟨steps, eq⟩ := whole
  have quotient : value / step = steps := by
    rw [eq, mul_div_assoc, div_self stepPos.ne', mul_one]
  rw [floorToStep_eq stepPos grid, quotient, roundDigits_intCast, Int.floor_intCast, ← eq]

theorem floorToStep_le (value : ℚ) {step : ℚ} (stepPos : 0 < step) :
    (⌊roundDigits 10 (value / step)⌋ : ℚ) * step ≤ value + 5 / 10 ^ 11 * step := by
  have floored := Int.floor_le (roundDigits 10 (value / step))
  have rounded := roundDigits_le 10 (value / step)
  have steps : (⌊roundDigits 10 (value / step)⌋ : ℚ) ≤ value / step + 5 / 10 ^ 11 := by
    calc (⌊roundDigits 10 (value / step)⌋ : ℚ)
        ≤ value / step + 1 / 2 / 10 ^ 10 := floored.trans rounded
      _ = value / step + 5 / 10 ^ 11 := by norm_num
  calc (⌊roundDigits 10 (value / step)⌋ : ℚ) * step
      ≤ (value / step + 5 / 10 ^ 11) * step := mul_le_mul_of_nonneg_right steps stepPos.le
    _ = value + 5 / 10 ^ 11 * step := by rw [add_mul, div_mul_cancel₀ _ stepPos.ne']

structure MarginInvariant (constraints : SymbolConstraints ℚ) (bound : ℚ)
    (state : MarginState ℚ) : Prop where
  whole : WholeSteps constraints.volumeStep state.lots
  le : state.lots ≤ bound
  required : state.required = state.lots * constraints.marginPerLot

def marginStep (constraints : SymbolConstraints ℚ) (state : MarginState ℚ) : MarginState ℚ :=
  let lots := pyMax (state.lots - constraints.volumeStep) 0
  ⟨lots, lots * constraints.marginPerLot⟩

theorem marginBody_eq {constraints : SymbolConstraints ℚ} (broker : BrokerSnapshot constraints)
    {state : MarginState ℚ} (whole : WholeSteps constraints.volumeStep state.lots) :
    (do
      let floored ← Outcome.ofExcept
        (floorToStep (state.lots - constraints.volumeStep) constraints.volumeStep)
      let lots := pyMax floored (PyMath.ofRat 0)
      (Outcome.returned ⟨lots, lots * constraints.marginPerLot⟩ :
        Outcome PyError (MarginState ℚ))) = .returned (marginStep constraints state) := by
  rw [floorToStep_whole broker.stepPos broker.stepGrid whole.sub_step]
  rfl

theorem MarginInvariant.step {constraints : SymbolConstraints ℚ} {bound : ℚ}
    {state : MarginState ℚ} (broker : BrokerSnapshot constraints) (nonneg : 0 ≤ bound)
    (held : MarginInvariant constraints bound state) :
    MarginInvariant constraints bound (marginStep constraints state) := by
  refine ⟨held.whole.sub_step.pyMax (.zero _), ?_, rfl⟩
  have smaller : state.lots - constraints.volumeStep ≤ bound := by
    linarith [held.le, broker.stepPos]
  simp only [marginStep, pyMax]
  split
  · exact nonneg
  · exact smaller

theorem marginLoop_returned {constraints : SymbolConstraints ℚ} {budget bound : ℚ} {fuel : ℕ}
    {start final : MarginState ℚ} (broker : BrokerSnapshot constraints) (nonneg : 0 ≤ bound)
    (held : MarginInvariant constraints bound start)
    (returned : marginLoop constraints budget fuel start = .returned final) :
    MarginInvariant constraints bound final := by
  refine (whileLoop_invariant _ held ?_ returned).1
  intro current next invariant _ stepped
  rw [marginBody_eq broker invariant.whole] at stepped
  cases stepped
  exact invariant.step broker nonneg

/-- Each round takes one step off the lots, so their step count is a variant. -/
theorem marginLoop_terminates {constraints : SymbolConstraints ℚ} {fuel : ℕ} (budget : ℚ)
    (start : MarginState ℚ) (broker : BrokerSnapshot constraints)
    (whole : WholeSteps constraints.volumeStep start.lots)
    (enough : ⌊start.lots / constraints.volumeStep⌋.toNat ≤ fuel) :
    ∃ final, marginLoop constraints budget fuel start = .returned final := by
  refine whileLoop_terminates
    (fun state => WholeSteps constraints.volumeStep state.lots)
    (fun state => ⌊state.lots / constraints.volumeStep⌋.toNat) whole ?_ enough
  intro current held go
  simp only [Bool.and_eq_true, decide_eq_true_eq] at go
  refine ⟨_, marginBody_eq broker held, held.sub_step.pyMax (.zero _), ?_⟩
  obtain ⟨steps, eq⟩ := held
  have stepPos := broker.stepPos
  have stepNe : constraints.volumeStep ≠ 0 := stepPos.ne'
  have positive : (0 : ℚ) < steps * constraints.volumeStep := by
    rw [← eq]
    exact broker.minPos.trans go.2
  have stepsPos : 0 < steps := by
    have := pos_of_mul_pos_left positive stepPos.le
    exact_mod_cast this
  have oneLe : (1 : ℚ) ≤ steps := by exact_mod_cast stepsPos
  have next : pyMax (current.lots - constraints.volumeStep) 0 =
      (steps - 1 : ℤ) * constraints.volumeStep := by
    have nonneg : ¬current.lots - constraints.volumeStep < 0 := by
      rw [eq, not_lt]
      nlinarith
    rw [pyMax, if_neg nonneg, eq]
    push_cast
    ring
  have before : current.lots / constraints.volumeStep = steps := by
    rw [eq, mul_div_assoc, div_self stepNe, mul_one]
  have after : (marginStep constraints current).lots / constraints.volumeStep =
      (steps - 1 : ℤ) := by
    rw [marginStep, next, mul_div_assoc, div_self stepNe, mul_one]
  rw [before, after, Int.floor_intCast, Int.floor_intCast]
  omega

structure ClampDown (args : SizingArgs ℚ) (lots : ℚ) : Prop where
  minLe : args.constraints.volumeMin ≤ lots
  leMax : lots ≤ args.constraints.volumeMax
  whole : WholeSteps args.constraints.volumeStep lots
  risk : lots * args.lossPerLot ≤
    args.riskAmount + 5 / 10 ^ 11 * args.constraints.volumeStep * args.lossPerLot
  margin : ∀ freeMargin, args.freeMargin = some freeMargin →
    lots * args.constraints.marginPerLot ≤ freeMargin * args.marginBuffer

def SizedSafely (args : SizingArgs ℚ) (result : LotSizingResult ℚ) : Prop :=
  (result.status.Accepted → ClampDown args result.lots) ∧
  (¬result.status.Accepted → result.lots = 0)

theorem SizedSafely.rejected {args : SizingArgs ℚ} {status : SizingStatus} {reason : String}
    {riskAmount : ℚ} (rejects : ¬status.Accepted) :
    SizedSafely args ⟨status, PyMath.ofRat 0, reason, riskAmount⟩ :=
  ⟨fun accepted => (rejects accepted).elim, fun _ => rfl⟩

structure RiskSized (args : SizingArgs ℚ) (lots : ℚ) : Prop where
  minLe : args.constraints.volumeMin ≤ lots
  leMax : lots ≤ args.constraints.volumeMax
  whole : WholeSteps args.constraints.volumeStep lots
  risk : lots * args.lossPerLot ≤
    args.riskAmount + 5 / 10 ^ 11 * args.constraints.volumeStep * args.lossPerLot

theorem applyMargin_safe {args : SizingArgs ℚ} {fuel : ℕ} {status : SizingStatus} {lots : ℚ}
    {result : LotSizingResult ℚ} (broker : BrokerSnapshot args.constraints)
    (accepted : status.Accepted) (lossPos : 0 < args.lossPerLot) (sized : RiskSized args lots)
    (returned : applyMargin args fuel status lots = .returned result) :
    SizedSafely args result := by
  have lotsNonneg : 0 ≤ lots := broker.minPos.le.trans sized.minLe
  unfold applyMargin at returned
  split at returned
  · rename_i noMargin
    cases returned
    exact ⟨fun _ => ⟨sized.minLe, sized.leMax, sized.whole, sized.risk, by simp [noMargin]⟩,
      fun rejected => (rejected accepted).elim⟩
  · rename_i freeMargin given
    obtain ⟨final, looped, returned⟩ := Outcome.bind_eq_returned.mp returned
    have held : MarginInvariant args.constraints lots final :=
      marginLoop_returned broker lotsNonneg ⟨sized.whole, le_rfl, rfl⟩ looped
    split at returned
    · cases returned
      exact .rejected (by decide)
    · rename_i affordable
      split at returned
      · cases returned
        exact .rejected (by decide)
      · rename_i notBelow
        cases returned
        refine ⟨fun _ => ⟨not_lt.mp notBelow, held.le.trans sized.leMax, held.whole, ?_, ?_⟩,
          fun rejected => (rejected accepted).elim⟩
        · exact (mul_le_mul_of_nonneg_right held.le lossPos.le).trans sized.risk
        · intro margin same
          have eq : freeMargin = margin := by simpa [given] using same
          subst eq
          rw [← held.required]
          exact not_lt.mp affordable

theorem sizeLots_safe {args : SizingArgs ℚ} {fuel : ℕ} {result : LotSizingResult ℚ}
    (broker : BrokerSnapshot args.constraints) (lossPos : 0 < args.lossPerLot)
    (returned : sizeLots args fuel = .returned result) : SizedSafely args result := by
  have stepPos := broker.stepPos
  have below := floorToStep_le (args.riskAmount / args.lossPerLot) stepPos
  simp only [sizeLots, floorToStep_eq stepPos broker.stepGrid, Outcome.ofExcept_ok,
    Outcome.returned_bind] at returned
  generalize lotsEq : (⌊roundDigits 10 (args.riskAmount / args.lossPerLot /
    args.constraints.volumeStep)⌋ : ℚ) * args.constraints.volumeStep = lots at returned below
  have whole : WholeSteps args.constraints.volumeStep lots := ⟨_, lotsEq.symm⟩
  have risk : lots * args.lossPerLot ≤
      args.riskAmount + 5 / 10 ^ 11 * args.constraints.volumeStep * args.lossPerLot := by
    calc lots * args.lossPerLot
        ≤ (args.riskAmount / args.lossPerLot + 5 / 10 ^ 11 * args.constraints.volumeStep) *
            args.lossPerLot := mul_le_mul_of_nonneg_right below lossPos.le
      _ = _ := by rw [add_mul, div_mul_cancel₀ _ lossPos.ne']
  split at returned
  · cases returned
    exact .rejected (by decide)
  · rename_i notBelow
    split at returned
    · rename_i above
      refine applyMargin_safe broker (.inr rfl) lossPos ?_ returned
      exact ⟨broker.minLeMax, le_rfl, broker.maxSteps,
        (mul_le_mul_of_nonneg_right above.le lossPos.le).trans risk⟩
    · rename_i notAbove
      exact applyMargin_safe broker (.inl rfl) lossPos
        ⟨not_lt.mp notBelow, not_lt.mp notAbove, whole, risk⟩ returned

theorem applyMargin_returns {args : SizingArgs ℚ} {fuel : ℕ} {status : SizingStatus} {lots : ℚ}
    (broker : BrokerSnapshot args.constraints) (whole : WholeSteps args.constraints.volumeStep lots)
    (leMax : lots ≤ args.constraints.volumeMax)
    (enough : ⌊args.constraints.volumeMax / args.constraints.volumeStep⌋.toNat ≤ fuel) :
    ∃ result, applyMargin args fuel status lots = .returned result := by
  unfold applyMargin
  split
  · exact ⟨_, rfl⟩
  · rename_i freeMargin given
    have steps : ⌊lots / args.constraints.volumeStep⌋.toNat ≤ fuel := by
      have scaled := div_le_div_of_nonneg_right leMax broker.stepPos.le
      have floors := Int.floor_le_floor scaled
      omega
    obtain ⟨final, looped⟩ := marginLoop_terminates (args.budget freeMargin)
      ⟨lots, lots * args.constraints.marginPerLot⟩ broker whole steps
    simp only [looped, Outcome.returned_bind]
    split
    · exact ⟨_, rfl⟩
    split
    · exact ⟨_, rfl⟩
    · exact ⟨_, rfl⟩

theorem computeLots_returns {args : SizingArgs ℚ} {fuel : ℕ}
    (broker : BrokerSnapshot args.constraints)
    (enough : ⌊args.constraints.volumeMax / args.constraints.volumeStep⌋.toNat ≤ fuel) :
    ∃ result, computeLots args fuel = .returned result := by
  rcases computeLots_cases args with ⟨_, sized⟩ | ⟨_, status, reason, risk, _, refused⟩
  · rw [sized]
    simp only [sizeLots, floorToStep_eq broker.stepPos broker.stepGrid, Outcome.ofExcept_ok,
      Outcome.returned_bind]
    split
    · exact ⟨_, rfl⟩
    split
    · exact applyMargin_returns broker broker.maxSteps le_rfl enough
    · rename_i notAbove
      exact applyMargin_returns broker ⟨_, rfl⟩ (not_lt.mp notAbove) enough
  · exact ⟨_, refused fuel⟩

def SizingArgs.ceilingLots (args : SizingArgs ℚ) : ℚ :=
  min (args.riskAmount / args.lossPerLot + 5 / 10 ^ 11 * args.constraints.volumeStep)
    args.constraints.volumeMax + 5 / 10 ^ 11

/-- The most lots that the inputs leave a trade: its risk budget, `volume_max`, the margin. -/
def SizingArgs.mostLots (args : SizingArgs ℚ) : ℚ :=
  match args.freeMargin with
  | some freeMargin =>
      if 0 < args.constraints.marginPerLot then
        min args.ceilingLots (args.budget freeMargin / args.constraints.marginPerLot)
      else args.ceilingLots
  | none => args.ceilingLots

theorem roundTen_idem (value : ℚ) : roundDigits 10 (roundDigits 10 value) = roundDigits 10 value :=
  roundTen_of_grid ⟨halfEven (value * 10 ^ 10), by
    rw [roundDigits, div_mul_cancel₀ _ (by norm_num)]⟩

theorem floorToStep_ok {value step lots : ℚ} (floored : floorToStep value step = .ok lots) :
    0 < step ∧ lots = roundDigits 10 (⌊roundDigits 10 (value / step)⌋ * step) := by
  unfold floorToStep at floored
  split at floored
  · cases floored
  · rename_i positive
    exact ⟨not_le.mp positive, (Except.ok.inj floored).symm⟩

structure WithinLots (constraints : SymbolConstraints ℚ) (bound : ℚ) (state : MarginState ℚ) :
    Prop where
  nonneg : 0 ≤ state.lots
  le : state.lots ≤ bound
  rounded : roundDigits 10 state.lots ≤ bound
  required : state.required = state.lots * constraints.marginPerLot

theorem floorToStep_sub_le {lots step floored : ℚ}
    (result : floorToStep (lots - step) step = .ok floored) : floored ≤ roundDigits 10 lots := by
  obtain ⟨stepPos, rfl⟩ := floorToStep_ok result
  refine roundDigits_mono 10 ((floorToStep_le (lots - step) stepPos).trans ?_)
  linarith

theorem WithinLots.step {constraints : SymbolConstraints ℚ} {bound floored : ℚ}
    {state : MarginState ℚ} (held : WithinLots constraints bound state)
    (result : floorToStep (state.lots - constraints.volumeStep) constraints.volumeStep =
      .ok floored) :
    WithinLots constraints bound
      ⟨pyMax floored 0, pyMax floored 0 * constraints.marginPerLot⟩ := by
  have below := floorToStep_sub_le result
  obtain ⟨_, shape⟩ := floorToStep_ok result
  have boundNonneg := held.nonneg.trans held.le
  have fixed : roundDigits 10 floored = floored := by rw [shape, roundTen_idem]
  unfold pyMax
  split
  · exact ⟨le_rfl, boundNonneg, by rwa [roundDigits_zero], rfl⟩
  · rename_i nonneg
    exact ⟨not_lt.mp nonneg, below.trans held.rounded, by
      rw [fixed]
      exact below.trans held.rounded, rfl⟩

theorem marginLoop_within {constraints : SymbolConstraints ℚ} {budget bound : ℚ} {fuel : ℕ}
    {start final : MarginState ℚ} (held : WithinLots constraints bound start)
    (returned : marginLoop constraints budget fuel start = .returned final) :
    WithinLots constraints bound final := by
  refine (whileLoop_invariant _ held ?_ returned).1
  intro current next invariant _ stepped
  obtain ⟨floored, result, rest⟩ := Outcome.bind_eq_returned.mp stepped
  cases rest
  exact invariant.step (Outcome.ofExcept_eq_returned.mp result)

theorem applyMargin_le {args : SizingArgs ℚ} {fuel : ℕ} {status : SizingStatus} {lots : ℚ}
    {result : LotSizingResult ℚ} (nonneg : 0 ≤ lots) (le : lots ≤ args.ceilingLots)
    (rounded : roundDigits 10 lots ≤ args.ceilingLots)
    (returned : applyMargin args fuel status lots = .returned result)
    (accepted : result.status.Accepted) : 0 ≤ result.lots ∧ result.lots ≤ args.mostLots := by
  unfold applyMargin at returned
  unfold SizingArgs.mostLots
  split at returned
  · rename_i noMargin
    cases returned
    rw [noMargin]
    exact ⟨nonneg, le⟩
  · rename_i freeMargin given
    obtain ⟨final, looped, returned⟩ := Outcome.bind_eq_returned.mp returned
    have begun : WithinLots args.constraints args.ceilingLots
        ⟨lots, lots * args.constraints.marginPerLot⟩ := ⟨nonneg, le, rounded, rfl⟩
    have held := marginLoop_within begun looped
    split at returned
    · cases returned
      simp [SizingStatus.Accepted] at accepted
    · rename_i affordable
      split at returned
      · cases returned
        simp [SizingStatus.Accepted] at accepted
      · cases returned
        refine ⟨held.nonneg, ?_⟩
        simp only [given]
        split
        · rename_i costs
          refine le_min held.le ((le_div_iff₀ costs).mpr ?_)
          rw [← held.required]
          exact not_lt.mp affordable
        · exact held.le

theorem sizeLots_le {args : SizingArgs ℚ} {fuel : ℕ} {result : LotSizingResult ℚ}
    (lossPos : 0 < args.lossPerLot) (riskPos : 0 ≤ args.riskAmount)
    (maxNonneg : 0 ≤ args.constraints.volumeMax)
    (returned : sizeLots args fuel = .returned result) (accepted : result.status.Accepted) :
    0 ≤ result.lots ∧ result.lots ≤ args.mostLots := by
  obtain ⟨lots, floored, returned⟩ := Outcome.bind_eq_returned.mp returned
  obtain ⟨stepPos, shape⟩ := floorToStep_ok (Outcome.ofExcept_eq_returned.mp floored)
  have quotient : 0 ≤ args.riskAmount / args.lossPerLot / args.constraints.volumeStep := by
    positivity
  have steps : 0 ≤ ⌊roundDigits 10 (args.riskAmount / args.lossPerLot /
      args.constraints.volumeStep)⌋ :=
    Int.floor_nonneg.mpr ((roundDigits_zero (α := ℚ) 10).symm.le.trans
      (roundDigits_mono 10 quotient))
  have nonneg : 0 ≤ lots := by
    rw [shape, ← roundDigits_zero (α := ℚ) 10]
    exact roundDigits_mono 10 (mul_nonneg (by exact_mod_cast steps) stepPos.le)
  have fixed : roundDigits 10 lots = lots := by rw [shape, roundTen_idem]
  have budgeted : lots ≤ args.riskAmount / args.lossPerLot +
      5 / 10 ^ 11 * args.constraints.volumeStep + 5 / 10 ^ 11 := by
    calc lots ≤ ⌊roundDigits 10 (args.riskAmount / args.lossPerLot /
          args.constraints.volumeStep)⌋ * args.constraints.volumeStep + 1 / 2 / 10 ^ 10 := by
          rw [shape]
          exact roundDigits_le 10 _
      _ ≤ _ := by linarith [floorToStep_le (args.riskAmount / args.lossPerLot) stepPos]
  split at returned
  · cases returned
    simp [SizingStatus.Accepted] at accepted
  · split at returned
    · rename_i above
      have rounded := roundDigits_le 10 args.constraints.volumeMax
      have lower := roundDigits_mono 10 above.le
      rw [fixed] at lower
      refine applyMargin_le maxNonneg ?_ ?_ returned accepted <;>
        rw [SizingArgs.ceilingLots, ← min_add_add_right, le_min_iff] <;>
        constructor <;> linarith
    · rename_i notAbove
      have within : lots ≤ args.ceilingLots := by
        rw [SizingArgs.ceilingLots, ← min_add_add_right, le_min_iff]
        constructor
        · exact budgeted
        · linarith [not_lt.mp notAbove]
      exact applyMargin_le nonneg within (fixed.le.trans within) returned accepted

theorem computeLots_le_mostLots {args : SizingArgs ℚ} {fuel : ℕ} {result : LotSizingResult ℚ}
    (maxNonneg : 0 ≤ args.constraints.volumeMax)
    (returned : computeLots args fuel = .returned result) (accepted : result.status.Accepted) :
    0 < args.lossPerLot ∧ 0 ≤ result.lots ∧ result.lots ≤ args.mostLots := by
  rcases computeLots_cases args with ⟨checked, sized⟩ | ⟨_, _, _, _, rejects, refused⟩
  · have lossPos := not_le.mp checked.loss
    have equityPos := not_le.mp checked.equity
    have riskPos := not_le.mp checked.riskPct
    have budget : 0 ≤ args.riskAmount := by
      have hundred : (0 : ℚ) ≤ 100 := by norm_num
      exact div_nonneg (mul_pos equityPos riskPos).le hundred
    rw [sized] at returned
    exact ⟨lossPos, sizeLots_le lossPos budget maxNonneg returned accepted⟩
  · rw [refused] at returned
    cases returned
    exact absurd accepted rejects

/-- Clamp-down safety of sizing, for every input and every broker snapshot. -/
theorem computeLots_clampDown {args : SizingArgs ℚ} {fuel : ℕ} {result : LotSizingResult ℚ}
    (broker : BrokerSnapshot args.constraints)
    (returned : computeLots args fuel = .returned result) :
    (result.status.Accepted →
      args.constraints.volumeMin ≤ result.lots ∧ result.lots ≤ args.constraints.volumeMax ∧
      (∃ steps : ℤ, result.lots = steps * args.constraints.volumeStep) ∧
      result.lots * args.lossPerLot ≤
        args.riskAmount + 5 / 10 ^ 11 * args.constraints.volumeStep * args.lossPerLot ∧
      ∀ freeMargin, args.freeMargin = some freeMargin →
        result.lots * args.constraints.marginPerLot ≤ freeMargin * args.marginBuffer) ∧
    (¬result.status.Accepted → result.lots = 0) := by
  have safe : SizedSafely args result := by
    rcases computeLots_cases args with ⟨checked, sized⟩ | ⟨_, _, _, _, rejects, refused⟩
    · rw [sized] at returned
      exact sizeLots_safe broker (not_le.mp checked.loss) returned
    · rw [refused] at returned
      cases returned
      exact .rejected rejects
  refine ⟨fun accepted => ?_, safe.2⟩
  have clamped := safe.1 accepted
  exact ⟨clamped.minLe, clamped.leMax, clamped.whole, clamped.risk, clamped.margin⟩

def vix75Spec : SymbolConstraints ℚ :=
  { volumeMin := 1 / 100, volumeMax := 100, volumeStep := 1 / 100, tickSize := 1 / 100,
    tickValue := 1, point := 1 / 100, stopsLevelPoints := 50, marginPerLot := 100 }

theorem vix75Spec_broker : BrokerSnapshot vix75Spec := by
  constructor
  · norm_num [vix75Spec]
  · norm_num [vix75Spec]
  · norm_num [vix75Spec]
  · exact ⟨10 ^ 8, by norm_num [vix75Spec]⟩
  · exact ⟨10 ^ 12, by norm_num [vix75Spec]⟩
  · exact ⟨10 ^ 8, by norm_num [vix75Spec]⟩
  · exact ⟨10000, by norm_num [vix75Spec]⟩

def marginBound : SizingArgs ℚ :=
  { equity := 10000, riskPct := 1, entry := 100, stopLoss := 95, takeProfit := 110,
    constraints := vix75Spec, freeMargin := some 30, marginBuffer := 1 / 2 }

theorem computeLots_clampDown_marginBound :
    computeLots marginBound 10 = .returned ⟨.ok, 15 / 100, "sized", 100⟩ ∧
    vix75Spec.volumeMin ≤ 15 / 100 ∧ 15 / 100 ≤ vix75Spec.volumeMax ∧
    (∃ steps : ℤ, (15 / 100 : ℚ) = steps * vix75Spec.volumeStep) ∧
    15 / 100 * marginBound.lossPerLot ≤ marginBound.riskAmount +
      5 / 10 ^ 11 * vix75Spec.volumeStep * marginBound.lossPerLot ∧
    ∀ freeMargin, marginBound.freeMargin = some freeMargin →
      15 / 100 * vix75Spec.marginPerLot ≤ freeMargin * marginBound.marginBuffer := by
  have returned : computeLots marginBound 10 = .returned ⟨.ok, 15 / 100, "sized", 100⟩ := by
    decide +kernel
  exact ⟨returned, (computeLots_clampDown vix75Spec_broker returned).1 (.inl rfl)⟩

end Vix75
