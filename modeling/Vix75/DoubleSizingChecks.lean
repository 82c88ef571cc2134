import Vix75.MonotoneOrbit
import Vix75.PyFloatMath
import Vix75.SizingChecks

/-! When the sizing of doubles returns: the rounded lots of the margin loop rise or fall until they
rest, and the loop ends unless that happens where it goes on. -/

namespace Vix75

open WhileLoop MonotoneOrbit PyMath

namespace PyFloat

section Turn

variable {step low high : PyFloat}

def steps (step value : PyFloat) : PyFloat := roundTo 10 (value / step)

def lotsOf (step : PyFloat) (count : ℤ) : PyFloat := roundTo 10 (ofInt count * step)

theorem floorToStep_eq_ok_iff {value lots : PyFloat} :
    floorToStep value step = .ok lots ↔ ¬step ≤ .finite 0 ∧ ∃ count,
      steps step value = .finite count ∧ lotsOf step ⌊count⌋ = lots := by
  unfold floorToStep
  rw [ofRat_zero]
  split_ifs with low
  · exact iff_of_false nofun fun positive => positive.1 low
  · change (floor (steps step value) >>= fun count => .ok (lotsOf step count)) = _ ↔ _
    cases steps step value with
    | finite count =>
        simp only [finite.injEq, exists_eq_left', low, not_false_eq_true, true_and]
        exact ⟨Except.ok.inj, congrArg Except.ok⟩
    | _ =>
        refine iff_of_false (by intro equal; cases equal) ?_
        rintro ⟨_, _, unequal, _⟩
        cases unequal

/-- A turn of the loop lowers the lots by a step, to a whole number of them or to zero; it has no
outcome where it raises. -/
def Lowers (step : PyFloat) (lots lower : Number) : Prop :=
  ∃ floored, floorToStep (lots.value - step) step = .ok floored ∧
    lower.value = pyMax floored (ofRat 0)

variable {width : ℚ}

theorem steps_sub_mono (positive : 0 < width) (ordered : low ≤ high) :
    steps (.finite width) (low - .finite width) ≤ steps (.finite width) (high - .finite width) :=
  roundTo_mono 10 (div_mono positive (sub_mono width ordered))

theorem ofInt_mono {fewer more : ℤ} (ordered : fewer ≤ more) :
    (ofInt fewer : PyFloat) ≤ ofInt more :=
  double_mono (finite_le_finite.mpr (Int.cast_le.mpr ordered))

theorem lotsOf_mono (positive : 0 < width) {fewer more : ℤ} (ordered : fewer ≤ more) :
    lotsOf (.finite width) fewer ≤ lotsOf (.finite width) more :=
  roundTo_mono 10 (mul_mono positive (ofInt_mono ordered))

theorem lotsOf_ne_nan (positive : 0 < width) (count : ℤ) : lotsOf (.finite width) count ≠ .nan :=
  (ne_nan_of_le (lotsOf_mono positive (le_refl count))).1

theorem roundTo_double (digits : ℕ) {value : PyFloat} :
    (roundTo digits value : PyFloat).double = roundTo digits value := by
  cases value with
  | finite value => exact double_double _
  | _ => rfl

theorem steps_zero (positive : 0 < width) (real : double (.finite width) = .finite width) :
    steps (.finite width) (.finite 0 - .finite width) = .finite (-1) := by
  have lowered : PyFloat.finite 0 - .finite width = .finite (-width) := by
    change (PyFloat.finite (0 + -width)).double = _
    rw [zero_add, double_finite_neg real]
  have quotient : PyFloat.finite (-width) / .finite width = (PyFloat.finite (-1)).double := by
    change (PyFloat.finite (-width / width)).double = _
    rw [neg_div, div_self positive.ne']
  rw [lowered, steps, quotient]
  decide +kernel

variable {lots lower : Number}

theorem lowers_iff (positive : 0 < width) : Lowers (.finite width) lots lower ↔ ∃ count,
    steps (.finite width) (lots.value - .finite width) = .finite count ∧
      lower.value = pyMax (lotsOf (.finite width) ⌊count⌋) (.finite 0) := by
  have notLe : ¬PyFloat.finite width ≤ .finite 0 := by simpa using positive
  simp only [Lowers, floorToStep_eq_ok_iff, notLe, not_false_eq_true, true_and, ofRat_zero]
  constructor
  · rintro ⟨_, ⟨count, counted, rfl⟩, lowered⟩
    exact ⟨count, counted, lowered⟩
  · rintro ⟨count, counted, lowered⟩
    exact ⟨_, ⟨count, counted, rfl⟩, lowered⟩

theorem exists_lowers (positive : 0 < width) {count : ℚ}
    (counted : steps (.finite width) (lots.value - .finite width) = .finite count) :
    ∃ lower, Lowers (.finite width) lots lower := by
  have kept := le_pyMax (lotsOf_ne_nan positive ⌊count⌋) (show PyFloat.finite 0 ≠ .nan from nofun)
  exact ⟨⟨_, (ne_nan_of_le kept).2⟩, (lowers_iff positive).mpr ⟨count, counted, rfl⟩⟩

theorem finite_of_between {value : PyFloat} {least most : ℚ} (above : .finite least ≤ value)
    (below : value ≤ .finite most) : ∃ number, value = .finite number := by
  cases value with
  | finite number => exact ⟨number, rfl⟩
  | _ => simp at above below

theorem lowers_orderly (positive : 0 < width) (real : double (.finite width) = .finite width) :
    Orderly (Lowers (.finite width)) where
  unique := by
    intro lots first second left right
    obtain ⟨count, counted, lowered⟩ := (lowers_iff positive).mp left
    obtain ⟨other, recounted, relowered⟩ := (lowers_iff positive).mp right
    obtain rfl := finite.inj (counted.symm.trans recounted)
    exact Number.ext (lowered.trans relowered.symm)
  mono := by
    intro low high first second ordered left right
    obtain ⟨fewer, counted, lowered⟩ := (lowers_iff positive).mp left
    obtain ⟨more, recounted, relowered⟩ := (lowers_iff positive).mp right
    have counts := steps_sub_mono positive (show low.value ≤ high.value from ordered)
    rw [counted, recounted, finite_le_finite] at counts
    change first.value ≤ second.value
    rw [lowered, relowered]
    exact pyMax_mono nofun (lotsOf_mono positive (Int.floor_mono counts))
  falls := by
    intro lots lower lowers falls
    obtain ⟨count, counted, lowered⟩ := (lowers_iff positive).mp lowers
    have nonneg : .finite 0 ≤ lower.value := by
      rw [lowered]
      exact le_pyMax (lotsOf_ne_nan positive _) nofun
    have least := steps_sub_mono positive nonneg
    have most := steps_sub_mono positive (show lower.value ≤ lots.value from falls)
    rw [steps_zero positive real] at least
    rw [counted] at most
    obtain ⟨number, recounted⟩ := finite_of_between least most
    exact exists_lowers positive recounted
  finite := by
    refine (finite_doubles.preimage (f := Number.value) fun _ _ _ _ => Number.ext).subset ?_
    rintro lower ⟨lots, lowers⟩
    obtain ⟨count, -, lowered⟩ := (lowers_iff positive).mp lowers
    change lower.value.double = lower.value
    rw [lowered, pyMax]
    split_ifs
    · exact double_zero
    · exact roundTo_double 10

end Turn

section Loop

variable {constraints : SymbolConstraints PyFloat} {budget : PyFloat}

theorem goesOn_ordConnected :
    (Set.preimage Number.value (GoesOn constraints budget)).OrdConnected := by
  constructor
  rintro low ⟨lowDear, lowAbove⟩ high ⟨highDear, _⟩ mid ⟨lower, upper⟩
  exact ⟨lt_mul_of_between lower upper lowDear highDear, lt_of_lt_of_le lowAbove lower⟩

/-- Turn by turn these lots climb to some that raise, or fall to some that rest where the loop goes
on. -/
def Hangs (constraints : SymbolConstraints PyFloat) (budget lots : PyFloat) : Prop :=
  ∃ number : Number, number.value = lots ∧
    Stuck (Lowers constraints.volumeStep) (Set.preimage Number.value (GoesOn constraints budget))
      number

theorem Hangs.goesOn {lots : PyFloat} (hangs : Hangs constraints budget lots) :
    lots ∈ GoesOn constraints budget := by
  obtain ⟨number, rfl, stuck⟩ := hangs
  cases stuck with
  | halts inside => exact inside
  | rests inside => exact inside
  | climbs inside => exact inside

theorem not_hangs_nan : ¬Hangs constraints budget .nan :=
  fun hangs => not_lt_nan hangs.goesOn.2

def marginAt (constraints : SymbolConstraints PyFloat) (lots : Number) : MarginState PyFloat where
  lots := lots.value
  required := lots.value * constraints.marginPerLot

theorem marginLoop_returns_iff {width : ℚ} (positive : 0 < width)
    (real : double (.finite width) = .finite width)
    (stepped : constraints.volumeStep = .finite width) (lots : PyFloat) :
    (∃ rounds final, marginLoop constraints budget rounds
        ⟨lots, lots * constraints.marginPerLot⟩ = .returned final) ↔
      ¬Hangs constraints budget lots := by
  by_cases number : lots = .nan
  · subst number
    exact iff_of_true (marginLoop_stops fun _ => not_lt_nan) not_hangs_nan
  have orderly : Orderly (Lowers constraints.volumeStep) := stepped ▸ lowers_orderly positive real
  have stuck : Hangs constraints budget lots ↔ Stuck (Lowers constraints.volumeStep)
      (Set.preimage Number.value (GoesOn constraints budget)) ⟨lots, number⟩ := by
    refine ⟨?_, fun stuck => ⟨_, rfl, stuck⟩⟩
    rintro ⟨_, rfl, stuck⟩
    exact stuck
  have start : (⟨lots, lots * constraints.marginPerLot⟩ : MarginState PyFloat) =
      marginAt constraints ⟨lots, number⟩ := rfl
  rw [stuck, ← leaves_iff orderly goesOn_ordConnected, start]
  unfold marginLoop
  refine whileLoop_returns_iff_leaves (marginAt constraints)
    (fun current => ?_) fun current _ next => ?_
  · rw [Bool.and_eq_true, decide_eq_true_iff, decide_eq_true_iff]
    rfl
  · rw [Outcome.bind_eq_returned]
    constructor
    · rintro ⟨floored, lowered, same⟩
      cases same
      rw [Outcome.ofExcept_eq_returned] at lowered
      have counted := lowered
      simp only [marginAt, stepped, floorToStep_eq_ok_iff] at counted
      obtain ⟨_, count, _, rfl⟩ := counted
      have zero : (ofRat 0 : PyFloat) ≠ .nan := by simp
      have kept := le_pyMax (lotsOf_ne_nan positive ⌊count⌋) zero
      exact ⟨⟨_, (ne_nan_of_le kept).2⟩, ⟨_, lowered, rfl⟩, rfl⟩
    · rintro ⟨later, ⟨floored, lowered, value⟩, rfl⟩
      refine ⟨floored, Outcome.ofExcept_eq_returned.mpr lowered, ?_⟩
      rw [← value]
      rfl

theorem not_le_zero_iff {value : PyFloat} : ¬value ≤ .finite 0 ↔
    (∃ number, 0 < number ∧ value = .finite number) ∨ value = .posInf ∨ value = .nan := by
  cases value <;> simp

theorem pyMin_le {lots most : PyFloat} (number : pyMin lots most ≠ .nan) :
    lots = .nan ∨ pyMin lots most ≤ lots := by
  unfold pyMin at *
  split_ifs at * with capped
  · exact .inr (lt_iff_le_not_ge.mp capped).1
  · exact .inr (le_self_iff.mpr number)

theorem lotsOf_infinite {value : PyFloat} {count : ℚ}
    (counted : steps .posInf value = .finite count) : lotsOf .posInf ⌊count⌋ = .nan := by
  have none : lotsOf .posInf ⌊(0 : ℚ)⌋ = .nan := by decide +kernel
  cases value with
  | finite value =>
      have zero : steps .posInf (.finite value) = roundTo 10 (double (.finite 0)) := rfl
      have rounded : roundTo 10 (double (.finite 0)) = .finite 0 := by decide +kernel
      obtain rfl := finite.inj (rounded.symm.trans (zero.symm.trans counted))
      exact none
  | _ => cases counted

theorem capped_returns_iff {value : PyFloat} {count : ℚ}
    (real : constraints.volumeStep.double = constraints.volumeStep)
    (high : ¬constraints.volumeStep ≤ .finite 0)
    (counted : steps constraints.volumeStep value = .finite count) {lots : PyFloat}
    (sized : lotsOf constraints.volumeStep ⌊count⌋ = lots) :
    (lots < constraints.volumeMin ∨
        ∃ rounds final, marginLoop constraints budget rounds
          ⟨pyMin lots constraints.volumeMax,
            pyMin lots constraints.volumeMax * constraints.marginPerLot⟩ = .returned final) ↔
      ¬Hangs constraints budget (pyMin lots constraints.volumeMax) := by
  have below : lots < constraints.volumeMin →
      ¬Hangs constraints budget (pyMin lots constraints.volumeMax) := by
    intro small hangs
    have above := hangs.goesOn.2
    have capped := (pyMin_le (ne_nan_of_lt above).2).resolve_left (ne_nan_of_lt small).1
    have turned := lt_of_lt_of_le above (le_trans capped (lt_iff_le_not_ge.mp small).1)
    exact (lt_iff_le_not_ge.mp turned).2 (lt_iff_le_not_ge.mp turned).1
  rcases not_le_zero_iff.mp high with ⟨width, positive, stepped⟩ | wide | none
  · rw [marginLoop_returns_iff positive (stepped ▸ real) stepped (pyMin lots constraints.volumeMax)]
    exact ⟨fun ended => ended.elim below id, .inr⟩
  · rw [wide] at counted sized
    have capped : pyMin lots constraints.volumeMax = .nan := by
      rw [← sized, lotsOf_infinite counted, pyMin, if_neg not_lt_nan]
    rw [capped]
    exact iff_of_true (.inr (marginLoop_stops fun _ => not_lt_nan)) not_hangs_nan
  · rw [none] at counted
    cases value <;> cases counted

end Loop

/-! Which inputs are sized -/

section Sizing

variable {args : SizingArgs PyFloat} {freeMargin : PyFloat}

/-- There are steps to count, their number is finite, and the margin loop has an end from the lots
that the risk pays for. -/
structure Sizable (args : SizingArgs PyFloat) (freeMargin : PyFloat) : Prop where
  step : ¬args.constraints.volumeStep ≤ .finite 0
  counts : ∃ count, steps args.constraints.volumeStep (args.riskAmount / args.lossPerLot) =
    .finite count
  settles : ∀ count,
    steps args.constraints.volumeStep (args.riskAmount / args.lossPerLot) = .finite count →
      ¬Hangs args.constraints (args.budget freeMargin)
        (pyMin (lotsOf args.constraints.volumeStep ⌊count⌋) args.constraints.volumeMax)

theorem sized_iff (known : args.freeMargin = some freeMargin)
    (real : args.constraints.volumeStep.double = args.constraints.volumeStep) :
    (∃ rounds result, sizeLots args rounds = .returned result) ↔ Sizable args freeMargin := by
  constructor
  · rintro ⟨rounds, result, returned⟩
    obtain ⟨lots, floored, _⟩ := Outcome.bind_eq_returned.mp returned
    rw [Outcome.ofExcept_eq_returned] at floored
    obtain ⟨high, count, counted, sized⟩ := floorToStep_eq_ok_iff.mp floored
    refine ⟨high, ⟨count, counted⟩, fun other recounted => ?_⟩
    obtain rfl := finite.inj (counted.symm.trans recounted)
    rw [sized]
    exact (capped_returns_iff real high counted sized).mp
      ((sizeLots_returns_iff known floored).mp ⟨rounds, result, returned⟩)
  · rintro ⟨high, ⟨count, counted⟩, settles⟩
    have floored := floorToStep_eq_ok_iff.mpr ⟨high, count, counted, rfl⟩
    exact (sizeLots_returns_iff known floored).mpr
      ((capped_returns_iff real high counted rfl).mpr (settles count counted))

theorem computeLots_returns_iff (known : args.freeMargin = some freeMargin)
    (real : args.constraints.volumeStep.double = args.constraints.volumeStep) :
    (∃ rounds result, computeLots args rounds = .returned result) ↔
      (args.Checked → Sizable args freeMargin) := by
  rcases computeLots_cases args with ⟨checked, sized⟩ | ⟨refused, status, reason, risk, _, returned⟩
  · simp only [sized, checked, true_imp_iff]
    exact sized_iff known real
  · exact iff_of_true ⟨0, _, returned 0⟩ fun checked => absurd checked refused

example : floorToStep (.finite (10 ^ 17) - (finite (1 / 100)).double) (finite (1 / 100)).double =
    .ok (.finite (10 ^ 17)) := by decide +kernel

end Sizing

end PyFloat

end Vix75
