import Mathlib.Data.Set.Basic
import Vix75.CausalSeries

/-! Series whose first entries may be missing: after a warm-up every entry is there. -/

namespace WarmSeries

open CausalSeries

variable {α β γ : Type}

theorem exists_of_mem_zipWith {entry : α → β → γ} {values : List α} {others : List β} {result : γ}
    (member : result ∈ List.zipWith entry values others) :
    ∃ value ∈ values, ∃ other ∈ others, entry value other = result := by
  obtain ⟨i, here⟩ := List.mem_iff_getElem?.mp member
  obtain ⟨value, other, first, second, same⟩ := List.getElem?_zipWith_eq_some.mp here
  exact ⟨value, List.mem_of_getElem? first, other, List.mem_of_getElem? second, same⟩

/-- After `warmup` entries every entry is there and lies in the set. -/
def Warm (warmup : ℕ) (s : Set α) (series : List (Option α)) : Prop :=
  ∀ entry ∈ series.drop warmup, ∃ value ∈ s, entry = some value

variable {warmup later n : ℕ} {s t : Set α} {series : List (Option α)} {value : α}

theorem Warm.mono (warm : Warm warmup s series) (longer : warmup ≤ later) (wider : s ⊆ t) :
    Warm later t series := by
  intro entry member
  obtain ⟨extra, rfl⟩ := Nat.exists_eq_add_of_le longer
  rw [← List.drop_drop] at member
  obtain ⟨value, inside, same⟩ := warm entry (List.mem_of_mem_drop member)
  exact ⟨value, wider inside, same⟩

theorem Warm.getElem? (warm : Warm warmup s series) (late : warmup ≤ n)
    (inside : n < series.length) : ∃ value ∈ s, series[n]? = some (some value) := by
  obtain ⟨extra, rfl⟩ := Nat.exists_eq_add_of_le late
  rw [List.getElem?_eq_getElem inside]
  have member : series[warmup + extra] ∈ series.drop warmup := by
    rw [List.mem_iff_getElem?]
    exact ⟨extra, by rw [List.getElem?_drop, List.getElem?_eq_getElem inside]⟩
  obtain ⟨value, within, same⟩ := warm _ member
  exact ⟨value, within, by rw [same]⟩

theorem Warm.mem (warm : Warm warmup s series) (late : warmup ≤ n)
    (here : series[n]? = some (some value)) : value ∈ s := by
  obtain ⟨other, inside, same⟩ := warm.getElem? late (List.getElem?_eq_some_iff.mp here).1
  rw [here, Option.some_inj, Option.some_inj] at same
  rwa [same]

theorem Warm.all_isSome (warm : Warm warmup s series) :
    (series.drop warmup).all Option.isSome = true := by
  refine List.all_eq_true.mpr fun entry member => ?_
  obtain ⟨value, -, rfl⟩ := warm entry member
  rfl

/-! What is warm -/

theorem warm_short (short : series.length ≤ warmup) : Warm warmup s series := by
  intro entry member
  rw [List.drop_of_length_le short] at member
  exact absurd member List.not_mem_nil

theorem warm_append {padding outputs : List (Option α)} (short : padding.length ≤ warmup)
    (warm : Warm 0 s outputs) : Warm warmup s (padding ++ outputs) := by
  intro entry member
  rw [List.drop_append, List.drop_of_length_le short, List.nil_append] at member
  exact warm entry (List.mem_of_mem_drop member)

theorem warm_map {values : List β} {entry : β → Option α}
    (each : ∀ value ∈ values, ∃ result ∈ s, entry value = some result) :
    Warm 0 s (values.map entry) := by
  intro result member
  obtain ⟨value, inside, rfl⟩ := List.mem_map.mp member
  exact each value inside

theorem warm_map_some {values : List α} (inside : ∀ value ∈ values, value ∈ s) :
    Warm 0 s (values.map some) := warm_map fun value member => ⟨value, inside value member, rfl⟩

theorem warm_replaceHead {values : List α} (inside : ∀ value ∈ values, value ∈ s) :
    Warm 1 s (replaceHead none some values) := by
  cases values with
  | nil => exact warm_short (Nat.zero_le 1)
  | cons first rest =>
      have later : ∀ value ∈ rest, value ∈ s := fun value member =>
        inside value (List.mem_cons_of_mem first member)
      have padded : replaceHead none some (first :: rest) = [none] ++ rest.map some := rfl
      rw [padded]
      exact warm_append le_rfl (warm_map_some later)

end WarmSeries
