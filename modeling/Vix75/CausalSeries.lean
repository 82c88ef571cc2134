import Mathlib.Data.List.TakeDrop

/-! Functions on series that never look ahead: the outputs for a prefix are a prefix of the outputs.
A delayed function gives its first output only after some entries; one that forgets gives, after
some outputs, what it gives when it starts late. -/

namespace CausalSeries

variable {α β γ δ : Type}

/-- The outputs for the first `count` entries are the first `count - delay` outputs. -/
def Delayed (delay : ℕ) (f : List α → List β) : Prop :=
  ∀ values count, f (values.take count) = (f values).take (count - delay)

abbrev Causal (f : List α → List β) : Prop := Delayed 0 f

/-- Started late, the function has caught up after `memory` outputs. -/
def Forgets (memory : ℕ) (f : List α → List β) : Prop :=
  ∀ values start, (f (values.drop start)).drop memory = (f values).drop (start + memory)

def replaceHead (head : γ) (entry : β → γ) : List β → List γ
  | [] => []
  | _ :: rest => head :: rest.map entry

def firstAs (head : α → β) (f : List α → List β) : List α → List β
  | [] => []
  | first :: rest => head first :: (f (first :: rest)).tail

section Rules

variable {delay more : ℕ} {f : List α → List β} {g : List β → List γ}

theorem causal_map (entry : α → β) : Causal (List.map entry) :=
  fun _ _ => List.map_take

theorem delayed_drop (count : ℕ) : Delayed count (List.drop count : List α → List α) :=
  fun _ _ => List.drop_take

theorem Delayed.comp (later : Delayed more g) (first : Delayed delay f) :
    Delayed (more + delay) fun values => g (f values) := by
  intro values count
  beta_reduce
  rw [first, later, Nat.sub_sub, Nat.add_comm]

theorem Delayed.map (first : Delayed delay f) (entry : β → γ) :
    Delayed delay fun values => (f values).map entry := by
  intro values count
  beta_reduce
  rw [first, List.map_take]

theorem Delayed.zipWith {h : List α → List γ} (first : Delayed delay f) (second : Delayed delay h)
    (entry : β → γ → δ) : Delayed delay fun values => List.zipWith entry (f values) (h values) := by
  intro values count
  beta_reduce
  rw [first, second, List.take_zipWith]

theorem Delayed.zip {h : List α → List γ} (first : Delayed delay f) (second : Delayed delay h) :
    Delayed delay fun values => (f values).zip (h values) :=
  first.zipWith second Prod.mk

theorem Causal.replaceHead (first : Causal f) (head : γ) (entry : β → γ) :
    Causal fun values => replaceHead head entry (f values) := by
  intro values count
  beta_reduce
  rw [first]
  cases f values with
  | nil => simp [CausalSeries.replaceHead]
  | cons value rest => cases count with
    | zero => rfl
    | succ count => simp [CausalSeries.replaceHead, List.map_take]

theorem Causal.firstAs (later : Causal f) (head : α → β) :
    Causal (CausalSeries.firstAs head f) := by
  intro values count
  cases values with
  | nil => simp [CausalSeries.firstAs]
  | cons first rest => cases count with
    | zero => rfl
    | succ count =>
        have same := later (first :: rest) (count + 1)
        rw [List.take_succ_cons] at same
        simp only [CausalSeries.firstAs, List.take_succ_cons, same, List.tail_take_eq_take_tail,
          Nat.sub_zero, Nat.add_sub_cancel]

theorem Delayed.pad (first : Delayed delay f) (filler : β) :
    Causal fun values => if values.length ≤ delay then List.replicate values.length filler
      else List.replicate delay filler ++ f values := by
  intro values count
  simp only [List.length_take, Nat.sub_zero]
  by_cases short : values.length ≤ delay
  · rw [if_pos short, if_pos (by omega), List.take_replicate]
  · rw [if_neg short, List.take_append, List.take_replicate, List.length_replicate]
    by_cases early : count ≤ delay
    · rw [if_pos (by omega), Nat.sub_eq_zero_of_le early, List.take_zero, List.append_nil]
      congr 1
      omega
    · rw [if_neg (by omega), first, Nat.min_eq_right (by omega)]

/-! Late starts -/

theorem forgets_map (entry : α → β) : Forgets 0 (List.map entry) := by
  intro values start
  rw [List.map_drop, List.drop_zero, Nat.add_zero]

theorem forgets_drop (count : ℕ) : Forgets 0 (List.drop count : List α → List α) := by
  intro values start
  rw [List.drop_zero, Nat.add_zero, List.drop_drop, List.drop_drop, Nat.add_comm]

variable {memory later : ℕ}

theorem Forgets.mono (forgets : Forgets memory f) (longer : memory ≤ later) : Forgets later f := by
  intro values start
  obtain ⟨extra, rfl⟩ := Nat.exists_eq_add_of_le longer
  rw [← List.drop_drop, forgets, List.drop_drop, Nat.add_assoc]

theorem Forgets.comp (second : Forgets later g) (first : Forgets memory f) :
    Forgets (memory + later) fun values => g (f values) := by
  intro values start
  beta_reduce
  rw [← second, first, second, Nat.add_assoc]

theorem Forgets.map (forgets : Forgets memory f) (entry : β → γ) :
    Forgets memory fun values => (f values).map entry :=
  (forgets_map entry).comp forgets

theorem Forgets.zipWith {h : List α → List γ} (first : Forgets memory f)
    (second : Forgets memory h) (entry : β → γ → δ) :
    Forgets memory fun values => List.zipWith entry (f values) (h values) := by
  intro values start
  beta_reduce
  rw [List.drop_zipWith, List.drop_zipWith, first, second]

theorem Forgets.zip {h : List α → List γ} (first : Forgets memory f) (second : Forgets memory h) :
    Forgets memory fun values => (f values).zip (h values) :=
  first.zipWith second Prod.mk

theorem Forgets.replaceHead (forgets : Forgets memory f) (head : γ) (entry : β → γ) :
    Forgets (memory + 1) fun values => CausalSeries.replaceHead head entry (f values) := by
  have tail (count : ℕ) (outputs : List β) :
      (CausalSeries.replaceHead head entry outputs).drop (count + 1) =
        (outputs.drop (count + 1)).map entry := by
    cases outputs with
    | nil => simp [CausalSeries.replaceHead]
    | cons output rest => simp [CausalSeries.replaceHead, List.map_drop]
  intro values start
  beta_reduce
  rw [tail, ← Nat.add_assoc, tail, (forgets.mono (Nat.le_succ memory)), Nat.add_assoc]

theorem Forgets.firstAs (forgets : Forgets (memory + 1) f) (head : α → β) (empty : f [] = []) :
    Forgets (memory + 1) (CausalSeries.firstAs head f) := by
  have tail (values : List α) (count : ℕ) :
      (CausalSeries.firstAs head f values).drop (count + 1) = (f values).drop (count + 1) := by
    cases values with
    | nil => rw [CausalSeries.firstAs, empty]
    | cons first rest =>
        rw [CausalSeries.firstAs, List.drop_succ_cons, ← List.drop_one, List.drop_drop,
          Nat.add_comm]
  intro values start
  rw [tail, ← Nat.add_assoc, tail, forgets, Nat.add_assoc]

theorem Forgets.pad (forgets : Forgets memory f) (filler : β)
    (length : ∀ values, (f values).length ≤ values.length - delay) :
    Forgets (delay + memory) fun values =>
      if values.length ≤ delay then List.replicate values.length filler
      else List.replicate delay filler ++ f values := by
  have padded (values : List α) (count : ℕ) : (if values.length ≤ delay then
      List.replicate values.length filler else List.replicate delay filler ++ f values).drop
        (delay + count) = (f values).drop count := by
    by_cases short : values.length ≤ delay
    · have none := length values
      rw [if_pos short, List.drop_of_length_le (by simp; omega),
        List.drop_of_length_le (by omega)]
    · rw [if_neg short, List.drop_append, List.length_replicate,
        List.drop_of_length_le (by simp), List.nil_append, Nat.add_sub_cancel_left]
  intro values start
  beta_reduce
  rw [padded, Nat.add_left_comm, padded, forgets]

theorem Forgets.getElem? (forgets : Forgets memory f) {values : List α} {start i : ℕ}
    (warm : memory ≤ i) : (f (values.drop start))[i]? = (f values)[start + i]? := by
  obtain ⟨extra, rfl⟩ := Nat.exists_eq_add_of_le warm
  rw [← List.getElem?_drop, forgets, List.getElem?_drop, Nat.add_assoc]

end Rules

end CausalSeries
