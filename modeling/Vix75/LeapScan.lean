import Mathlib.Data.List.Basic
import Mathlib.Data.List.Nodup
import Mathlib.Data.List.Perm.Subperm

/-! A loop over positions that leaps ahead: at every position where it stands it may find a
stretch of some length, and then goes on behind it. -/

namespace LeapScan

/-- The positions below `bound` at which the loop stands, from `i` on. -/
def visited (leap : ℕ → ℕ) (bound : ℕ) : ℕ → ℕ → List ℕ
  | 0, _ => []
  | fuel + 1, i => if i < bound then i :: visited leap bound fuel (i + leap i + 1) else []

def emitted (leap : ℕ → ℕ) (bound : ℕ) : ℕ → ℕ → List (ℕ × ℕ)
  | 0, _ => []
  | fuel + 1, i =>
      if i < bound then
        if leap i = 0 then emitted leap bound fuel (i + 1)
        else (i, leap i) :: emitted leap bound fuel (i + leap i + 1)
      else []

variable {leap other : ℕ → ℕ} {bound further fuel more i : ℕ}

theorem emitted_eq_map (fuel i : ℕ) : emitted leap bound fuel i =
    ((visited leap bound fuel i).filter fun position => leap position ≠ 0).map
      fun position => (position, leap position) := by
  induction fuel generalizing i with
  | zero => rfl
  | succ fuel ih =>
      rw [emitted, visited]
      split
      · by_cases none : leap i = 0
        · rw [if_pos none, List.filter_cons_of_neg (by simpa using none), ih, none]
        · rw [if_neg none, List.filter_cons_of_pos (by simpa using none), ih, List.map_cons]
      · rfl

theorem range_sublist {first later : ℕ} (ordered : first ≤ later) (bound : ℕ) :
    (List.range' later (bound - later)).Sublist (List.range' first (bound - first)) := by
  by_cases inside : later ≤ bound
  · obtain ⟨gap, rfl⟩ := Nat.exists_eq_add_of_le ordered
    have span : bound - first = gap + (bound - (first + gap)) := by omega
    rw [span, ← List.range'_append_1]
    exact List.sublist_append_right _ _
  · have past : bound - later = 0 := by omega
    rw [past]
    exact List.nil_sublist _

theorem visited_sublist (fuel i : ℕ) :
    (visited leap bound fuel i).Sublist (List.range' i (bound - i)) := by
  induction fuel generalizing i with
  | zero => exact List.nil_sublist _
  | succ fuel ih =>
      rw [visited]
      split
      · rename_i below
        have span : bound - i = (bound - (i + 1)) + 1 := by omega
        rw [span, List.range'_succ]
        exact ((ih (i + leap i + 1)).trans (range_sublist (by omega) bound)).cons_cons i
      · exact List.nil_sublist _

theorem visited_ge : ∀ position ∈ visited leap bound fuel i, i ≤ position := by
  intro position member
  exact (List.mem_range'_1.mp ((visited_sublist fuel i).subset member)).1

theorem visited_lt : ∀ position ∈ visited leap bound fuel i, position < bound := by
  intro position member
  have inside := List.mem_range'_1.mp ((visited_sublist fuel i).subset member)
  omega

theorem mem_emitted_iff {entry : ℕ × ℕ} : entry ∈ emitted leap bound fuel i ↔
    entry.1 ∈ visited leap bound fuel i ∧ leap entry.1 ≠ 0 ∧ entry.2 = leap entry.1 := by
  rw [emitted_eq_map, List.mem_map]
  constructor
  · rintro ⟨position, member, rfl⟩
    obtain ⟨visits, found⟩ := List.mem_filter.mp member
    exact ⟨visits, by simpa using found, rfl⟩
  · rintro ⟨visits, found, length⟩
    exact ⟨entry.1, List.mem_filter.mpr ⟨visits, by simpa using found⟩, Prod.ext rfl length.symm⟩

theorem emitted_ge : ∀ entry ∈ emitted leap bound fuel i, i ≤ entry.1 :=
  fun _ member => visited_ge _ (mem_emitted_iff.mp member).1

theorem emitted_lt : ∀ entry ∈ emitted leap bound fuel i, entry.1 < bound :=
  fun _ member => visited_lt _ (mem_emitted_iff.mp member).1

theorem emitted_leap : ∀ entry ∈ emitted leap bound fuel i, entry.2 ≠ 0 := by
  intro entry member
  obtain ⟨-, found, length⟩ := mem_emitted_iff.mp member
  rwa [length]

theorem lastEntries_eq_iff {α : Type} {kept all : List α} (sublist : kept.Sublist all)
    (nodup : all.Nodup) (count : ℕ) :
    kept.drop (kept.length - count) = all.drop (all.length - count) ↔
      ∀ entry ∈ all.drop (all.length - count), entry ∈ kept := by
  constructor
  · intro same entry member
    rw [← same] at member
    exact List.mem_of_mem_drop member
  · intro members
    have parts := List.take_append_drop (all.length - count) all
    have lengths : (all.drop (all.length - count)).length = min count all.length := by
      rw [List.length_drop]
      omega
    rw [← parts] at sublist nodup
    obtain ⟨before, after, rfl, early, late⟩ := List.sublist_append_iff.mp sublist
    obtain ⟨_, lastNodup, apart⟩ := List.nodup_append'.mp nodup
    have inAfter : all.drop (all.length - count) ⊆ after := by
      intro entry member
      refine (List.mem_append.mp (members entry member)).resolve_left fun sooner => ?_
      exact apart (early.subset sooner) member
    have whole := late.eq_of_length_le (lastNodup.subperm inAfter).length_le
    rw [whole, List.length_append, lengths]
    by_cases short : all.length ≤ count
    · have none : before = [] := by
        rw [Nat.sub_eq_zero_of_le short, List.take_zero] at early
        exact List.eq_nil_of_sublist_nil early
      have start : before.length + min count all.length - count = 0 := by
        rw [none, List.length_nil]
        omega
      rw [start, none]
      rfl
    · have start : before.length + min count all.length - count = before.length := by omega
      rw [start]
      exact List.drop_left

theorem emitted_ne_cons {entry : ℕ × ℕ} {rest : List (ℕ × ℕ)} (passed : entry.1 < i) :
    emitted leap bound fuel i ≠ entry :: rest := by
  intro same
  have behind := emitted_ge entry (same ▸ List.mem_cons_self)
  omega

/-- A scan that stops earlier finds what a further one finds below its bound exactly when the two
leap the same way wherever the further one stands below that bound. -/
theorem emitted_eq_filter_iff (closer : bound ≤ further) (enough : bound ≤ fuel + i)
    (enoughMore : further ≤ more + i) :
    emitted leap bound fuel i = (emitted other further more i).filter (·.1 < bound) ↔
      ∀ position ∈ visited other further more i, position < bound →
        leap position = other position := by
  induction more generalizing fuel i with
  | zero =>
      have beyond : ¬i < bound := by omega
      cases fuel <;> simp [emitted, visited, beyond]
  | succ more ih =>
      by_cases below : i < bound
      rotate_left
      · have nothing : (emitted other further (more + 1) i).filter (·.1 < bound) = [] := by
          refine List.filter_eq_nil_iff.mpr fun entry member => ?_
          have behind := emitted_ge entry member
          simpa using by omega
        have none : emitted leap bound fuel i = [] := by
          cases fuel <;> simp [emitted, below]
        rw [nothing, none]
        refine iff_of_true rfl fun position member reached => ?_
        have behind := visited_ge position member
        omega
      · have reaches : i < further := by omega
        obtain ⟨fuel, rfl⟩ : ∃ less, fuel = less + 1 := ⟨fuel - 1, by omega⟩
        rw [visited, if_pos reaches, List.forall_mem_cons, emitted, emitted, if_pos below,
          if_pos reaches]
        by_cases same : leap i = other i
        · have rest := @ih fuel (i + other i + 1) (by omega) (by omega)
          rw [same]
          by_cases none : other i = 0
          · rw [if_pos none, if_pos none]
            rw [none] at rest
            simpa [none] using rest
          · rw [if_neg none, if_neg none, List.filter_cons_of_pos (by simpa using below),
              List.cons_inj_right, rest]
            simp
        · refine iff_of_false (fun equal => same ?_) fun all => same (all.1 below)
          by_cases none : leap i = 0
          · rw [if_pos none, if_neg (by omega), List.filter_cons_of_pos (by simpa using below)]
              at equal
            exact absurd equal (emitted_ne_cons (Nat.lt_succ_self i))
          · rw [if_neg none] at equal
            by_cases noneOther : other i = 0
            · rw [if_pos noneOther] at equal
              have member := (List.mem_filter.mp (equal ▸ List.mem_cons_self)).1
              have behind : i + 1 ≤ i := emitted_ge _ member
              omega
            · rw [if_neg noneOther, List.filter_cons_of_pos (by simpa using below)] at equal
              exact congrArg Prod.snd (List.cons.inj equal).1

end LeapScan
