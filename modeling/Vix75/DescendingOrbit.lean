import Mathlib.Order.Interval.Set.OrdConnected
import Mathlib.Order.Iterate

/-! Iterates of a monotone map that fall towards a fixed point: when all of them stay in an
interval. -/

namespace DescendingOrbit

variable {α : Type} [LinearOrder α] {next : α → α}

/-- A map that falls from its own values on, by steps that a natural number counts down. -/
structure Falls (next : α → α) (rank : α → ℕ) : Prop where
  mono : Monotone next
  falls : ∀ point, next (next point) ≤ next point
  counts : ∀ point, next (next point) < next point →
    rank (next (next point)) < rank (next point)

namespace Falls

variable {rank : α → ℕ} (falling : Falls next rank)

include falling

theorem iterate_le (steps : ℕ) (point : α) : next^[steps] (next point) ≤ next point := by
  induction steps with
  | zero => exact le_rfl
  | succ steps ih =>
      rw [Function.iterate_succ_apply']
      exact (falling.mono ih).trans (falling.falls point)

theorem le_iterate {rest point : α} (fixed : next rest = rest) (below : rest ≤ point)
    (steps : ℕ) : rest ≤ next^[steps] point := by
  induction steps with
  | zero => exact below
  | succ steps ih =>
      rw [Function.iterate_succ_apply', ← fixed]
      exact falling.mono ih

theorem rests (point : α) : ∃ steps, next (next^[steps] (next point)) =
    next^[steps] (next point) := by
  generalize height : rank (next point) = count
  induction count using Nat.strong_induction_on generalizing point with
  | _ count ih =>
      rcases (falling.falls point).lt_or_eq with lower | fixed
      · obtain ⟨steps, rested⟩ := ih _ (height ▸ falling.counts point lower) (next point) rfl
        exact ⟨steps + 1, by rwa [Function.iterate_succ_apply]⟩
      · exact ⟨0, fixed⟩

theorem stays_iff {region : Set α} (connected : region.OrdConnected) (point : α) :
    (∀ steps, next^[steps] point ∈ region) ↔
      point ∈ region ∧ next point ∈ region ∧
        ∃ rest ≤ next point, next rest = rest ∧ rest ∈ region := by
  constructor
  · intro stays
    obtain ⟨steps, rested⟩ := falling.rests point
    refine ⟨stays 0, stays 1, next^[steps] (next point), falling.iterate_le steps point, rested, ?_⟩
    exact stays (steps + 1)
  · rintro ⟨start, first, rest, below, fixed, resting⟩ steps
    cases steps with
    | zero => exact start
    | succ steps =>
        rw [Function.iterate_succ_apply]
        exact connected.out resting first
          ⟨falling.le_iterate fixed below steps, falling.iterate_le steps point⟩

end Falls

end DescendingOrbit
