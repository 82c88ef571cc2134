import Mathlib.Data.Set.Basic
import Mathlib.Order.Basic
import Mathlib.Logic.Function.Iterate
import Mathlib.Tactic.Common

/-! A `while` loop run with bounded fuel: its partial correctness rule, its
termination rule, and independence of the fuel once it returns. -/

namespace WhileLoop

/-- How far a computation got: it returned, it raised, or it is still running. -/
inductive Outcome (Error α : Type) : Type where
  | returned (value : α)
  | raised (error : Error)
  | running
deriving DecidableEq

namespace Outcome

variable {Error α β : Type}

def bind : Outcome Error α → (α → Outcome Error β) → Outcome Error β
  | .returned value, rest => rest value
  | .raised error, _ => .raised error
  | .running, _ => .running

instance : Monad (Outcome Error) where
  pure := .returned
  bind := bind

def ofExcept : Except Error α → Outcome Error α
  | .ok value => .returned value
  | .error error => .raised error

@[simp] theorem returned_bind (value : α) (rest : α → Outcome Error β) :
    (Outcome.returned value >>= rest) = rest value := rfl

@[simp] theorem raised_bind (error : Error) (rest : α → Outcome Error β) :
    (Outcome.raised error >>= rest) = .raised error := rfl

@[simp] theorem running_bind (rest : α → Outcome Error β) :
    ((Outcome.running : Outcome Error α) >>= rest) = .running := rfl

@[simp] theorem ofExcept_ok (value : α) :
    ofExcept (.ok value : Except Error α) = .returned value := rfl

theorem ofExcept_eq_returned {result : Except Error α} {value : α} :
    ofExcept result = .returned value ↔ result = .ok value := by
  cases result <;> simp [ofExcept]

theorem bind_eq_returned {first : Outcome Error α} {rest : α → Outcome Error β} {result : β} :
    (first >>= rest) = .returned result ↔
      ∃ value, first = .returned value ∧ rest value = .returned result := by
  cases first <;> simp

theorem bind_returns_iff {first : Outcome Error α} {rest : α → Outcome Error β}
    (total : ∀ value, ∃ result, rest value = .returned result) :
    (∃ result, (first >>= rest) = .returned result) ↔ ∃ value, first = .returned value := by
  simp only [bind_eq_returned]
  constructor
  · rintro ⟨_, value, returned, _⟩
    exact ⟨value, returned⟩
  · rintro ⟨value, returned⟩
    obtain ⟨result, ended⟩ := total value
    exact ⟨result, value, returned, ended⟩

end Outcome

variable {Error σ : Type} (condition : σ → Bool) (body : σ → Outcome Error σ)

def whileLoop : ℕ → σ → Outcome Error σ
  | 0, state => if condition state then .running else .returned state
  | fuel + 1, state =>
      if condition state then body state >>= whileLoop fuel else .returned state

variable {condition body}

theorem whileLoop_invariant (invariant : σ → Prop) {fuel : ℕ} {state final : σ}
    (start : invariant state)
    (step : ∀ current next, invariant current → condition current = true →
      body current = .returned next → invariant next)
    (returned : whileLoop condition body fuel state = .returned final) :
    invariant final ∧ condition final = false := by
  induction fuel generalizing state with
  | zero =>
      simp only [whileLoop] at returned
      split at returned
      · simp at returned
      · rename_i stop
        simp only [Outcome.returned.injEq] at returned
        subst returned
        exact ⟨start, by simpa using stop⟩
  | succ fuel ih =>
      simp only [whileLoop] at returned
      split at returned
      · rename_i go
        obtain ⟨next, stepped, returned⟩ := Outcome.bind_eq_returned.mp returned
        exact ih (step state next start go stepped) returned
      · rename_i stop
        simp only [Outcome.returned.injEq] at returned
        subst returned
        exact ⟨start, by simpa using stop⟩

theorem whileLoop_terminates (invariant : σ → Prop) (variant : σ → ℕ) {fuel : ℕ} {state : σ}
    (start : invariant state)
    (step : ∀ current, invariant current → condition current = true →
      ∃ next, body current = .returned next ∧ invariant next ∧ variant next < variant current)
    (enough : variant state ≤ fuel) :
    ∃ final, whileLoop condition body fuel state = .returned final := by
  induction fuel generalizing state with
  | zero =>
      by_cases go : condition state = true
      · obtain ⟨next, _, _, smaller⟩ := step state start go
        omega
      · exact ⟨state, by simp [whileLoop, go]⟩
  | succ fuel ih =>
      by_cases go : condition state = true
      · obtain ⟨next, stepped, held, smaller⟩ := step state start go
        obtain ⟨final, returned⟩ := ih held (by omega)
        exact ⟨final, by simp [whileLoop, go, stepped, returned]⟩
      · exact ⟨state, by simp [whileLoop, go]⟩

theorem whileLoop_returns_iff {α : Type} (state : α → σ) {next : α → α} {point : α}
    (step : ∀ current, condition (state current) = true →
      body (state current) = .returned (state (next current))) :
    (∃ fuel final, whileLoop condition body fuel (state point) = .returned final) ↔
      ∃ steps, condition (state (next^[steps] point)) = false := by
  constructor
  · rintro ⟨fuel, final, returned⟩
    induction fuel generalizing point with
    | zero =>
        by_cases go : condition (state point) = true
        · simp [whileLoop, go] at returned
        · exact ⟨0, by simpa using go⟩
    | succ fuel ih =>
        by_cases go : condition (state point) = true
        · rw [whileLoop, if_pos go, step point go, Outcome.returned_bind] at returned
          obtain ⟨steps, stopped⟩ := ih returned
          exact ⟨steps + 1, stopped⟩
        · exact ⟨0, by simpa using go⟩
  · rintro ⟨steps, stopped⟩
    induction steps generalizing point with
    | zero => exact ⟨0, state point, by simpa [whileLoop] using stopped⟩
    | succ steps ih =>
        by_cases go : condition (state point) = true
        · obtain ⟨fuel, final, returned⟩ := ih stopped
          exact ⟨fuel + 1, final, by
            rw [whileLoop, if_pos go, step point go, Outcome.returned_bind, returned]⟩
        · exact ⟨0, state point, by simp [whileLoop, go]⟩

/-- A run of steps gets out of a region. -/
inductive Leaves {α : Type} (Next : α → α → Prop) (region : Set α) : α → Prop where
  | outside {point : α} (out : point ∉ region) : Leaves Next region point
  | step {point later : α} (inside : point ∈ region) (moves : Next point later)
      (leaves : Leaves Next region later) : Leaves Next region point

theorem whileLoop_returns_iff_leaves {α : Type} {Next : α → α → Prop} {region : Set α}
    (state : α → σ) {point : α}
    (going : ∀ current, condition (state current) = true ↔ current ∈ region)
    (moving : ∀ current ∈ region, ∀ next, body (state current) = .returned next ↔
      ∃ later, Next current later ∧ next = state later) :
    (∃ fuel final, whileLoop condition body fuel (state point) = .returned final) ↔
      Leaves Next region point := by
  constructor
  · rintro ⟨fuel, final, returned⟩
    induction fuel generalizing point with
    | zero =>
        by_cases go : condition (state point) = true
        · simp [whileLoop, go] at returned
        · exact .outside (mt (going point).mpr go)
    | succ fuel ih =>
        by_cases go : condition (state point) = true
        · rw [whileLoop, if_pos go] at returned
          obtain ⟨next, stepped, returned⟩ := Outcome.bind_eq_returned.mp returned
          obtain ⟨later, moves, rfl⟩ := (moving point ((going point).mp go) next).mp stepped
          exact .step ((going point).mp go) moves (ih returned)
        · exact .outside (mt (going point).mpr go)
  · intro leaves
    induction leaves with
    | @outside point out =>
        exact ⟨0, state point, by simp [whileLoop, mt (going point).mp out]⟩
    | @step point later inside moves leaves ih =>
        obtain ⟨fuel, final, returned⟩ := ih
        refine ⟨fuel + 1, final, ?_⟩
        rw [whileLoop, if_pos ((going point).mpr inside),
          (moving point inside _).mpr ⟨later, moves, rfl⟩, Outcome.returned_bind, returned]

end WhileLoop
