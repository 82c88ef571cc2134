import Mathlib.Data.Set.Finite.Basic
import Mathlib.Order.Interval.Set.OrdConnected
import Mathlib.Order.WellFoundedSet
import Vix75.WhileLoop

/-! Steps of a partial monotone map on a linear order: when they never get out of an interval. -/

namespace MonotoneOrbit

open WhileLoop

variable {α : Type} [LinearOrder α] (Next : α → α → Prop) (region : Set α)

/-- No run of steps gets out of the region: it climbs to a point without a step, or to one from
which it falls no further than to a fixed point in the region. -/
inductive Stuck : α → Prop where
  | halts {point : α} (inside : point ∈ region) (halted : ∀ later, ¬Next point later) :
      Stuck point
  | rests {point later rest : α} (inside : point ∈ region) (moves : Next point later)
      (falls : later ≤ point) (below : rest ≤ point) (fixed : Next rest rest)
      (resting : rest ∈ region) : Stuck point
  | climbs {point later : α} (inside : point ∈ region) (moves : Next point later)
      (above : point < later) (stuck : Stuck later) : Stuck point

structure Orderly : Prop where
  unique : ∀ point first second, Next point first → Next point second → first = second
  mono : ∀ lower upper first second, lower ≤ upper → Next lower first → Next upper second →
    first ≤ second
  falls : ∀ point later, Next point later → later ≤ point → ∃ next, Next later next
  finite : {later | ∃ point, Next point later}.Finite

variable {Next region}

theorem Leaves.not_stuck (orderly : Orderly Next) (connected : region.OrdConnected) {point : α}
    (leaves : Leaves Next region point) : ¬Stuck Next region point := by
  induction leaves with
  | outside out =>
      intro stuck
      cases stuck with
      | halts inside => exact out inside
      | rests inside => exact out inside
      | climbs inside => exact out inside
  | @step point later inside moves leaves ih =>
      intro stuck
      cases stuck with
      | halts _ halted => exact halted later moves
      | @rests _ other rest _ moved falls below fixed resting =>
          obtain rfl := orderly.unique _ _ _ moved moves
          obtain ⟨next, onward⟩ := orderly.falls _ _ moves falls
          have above : rest ≤ other := orderly.mono _ _ _ _ below fixed moves
          exact ih (.rests (connected.out resting inside ⟨above, falls⟩) onward
            (orderly.mono _ _ _ _ falls onward moves) above fixed resting)
      | climbs _ moved _ stuck =>
          obtain rfl := orderly.unique _ _ _ moved moves
          exact ih stuck

theorem leaves_or_rests (orderly : Orderly Next) {point later : α} (inside : point ∈ region)
    (moves : Next point later) (falls : later ≤ point) :
    Leaves Next region point ∨ ∃ rest ≤ point, Next rest rest ∧ rest ∈ region := by
  have value : later ∈ {later | ∃ point, Next point later} := ⟨point, moves⟩
  refine orderly.finite.isWF.induction (P := fun later => ∀ point ∈ region, Next point later →
    later ≤ point → Leaves Next region point ∨ ∃ rest ≤ point, Next rest rest ∧ rest ∈ region)
    value (fun later _ ih point inside moves falls => ?_) point inside moves falls
  by_cases within : later ∈ region
  · obtain ⟨next, onward⟩ := orderly.falls _ _ moves falls
    have descends := orderly.mono _ _ _ _ falls onward moves
    rcases descends.eq_or_lt with rfl | lower
    · exact .inr ⟨_, falls, onward, within⟩
    · rcases ih next ⟨_, onward⟩ lower _ within onward descends with leaves | ⟨rest, below, rested⟩
      · exact .inl (.step inside moves leaves)
      · exact .inr ⟨rest, below.trans falls, rested⟩
  · exact .inl (.step inside moves (.outside within))

theorem leaves_of_step (orderly : Orderly Next) {point : α} (free : ¬Stuck Next region point)
    (climbed : ∀ later, Next point later → point < later → ¬Stuck Next region later →
      Leaves Next region later) : Leaves Next region point := by
  by_cases inside : point ∈ region
  · by_cases moves : ∃ later, Next point later
    · obtain ⟨later, moves⟩ := moves
      rcases lt_or_ge point later with above | falls
      · exact .step inside moves
          (climbed later moves above fun stuck => free (.climbs inside moves above stuck))
      · rcases leaves_or_rests orderly inside moves falls with
          leaves | ⟨rest, below, fixed, resting⟩
        · exact leaves
        · exact absurd (.rests inside moves falls below fixed resting) free
    · exact absurd (.halts inside (not_exists.mp moves)) free
  · exact .outside inside

theorem leaves_iff (orderly : Orderly Next) (connected : region.OrdConnected) (point : α) :
    Leaves Next region point ↔ ¬Stuck Next region point := by
  refine ⟨Leaves.not_stuck orderly connected, fun free => ?_⟩
  have above : {later | ∃ point, Next point later}.WellFoundedOn (· > ·) :=
    orderly.finite.wellFoundedOn
  have values : ∀ later ∈ {later | ∃ point, Next point later},
      ¬Stuck Next region later → Leaves Next region later := by
    intro later reached
    refine above.induction (P := fun later => ¬Stuck Next region later → Leaves Next region later)
      reached fun later _ ih free => ?_
    exact leaves_of_step orderly free fun next moves higher => ih next ⟨_, moves⟩ higher
  exact leaves_of_step orderly free fun later moves _ => values later ⟨_, moves⟩

end MonotoneOrbit
