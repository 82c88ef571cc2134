import Vix75.MetaLabel

/-! The swept triple-barrier labels against the definition row by row. -/

namespace Vix75

namespace MetaLabel

variable {F : Type}

section Sweep

variable {hit : F → F → Bool} {close barrier : List F} {steps : List (Option ℕ)}

def hitAt (hit : F → F → Bool) (close barrier : List F) (t k : ℕ) : Bool :=
  match close[t + k]?, barrier[t]? with
  | some future, some bound => hit future bound
  | _, _ => false

theorem hitAt_iff {t k : ℕ} : hitAt hit close barrier t k = true ↔
    ∃ future bound, close[t + k]? = some future ∧ barrier[t]? = some bound ∧
      hit future bound = true := by
  unfold hitAt
  cases close[t + k]? <;> cases barrier[t]? <;> simp

theorem length_recordHits (k : ℕ) (same : barrier.length = close.length)
    (length : steps.length = close.length) :
    (recordHits hit close barrier k steps).length = close.length := by
  simp only [recordHits, List.length_append, List.length_zipWith, List.length_take,
    List.length_drop]
  omega

theorem getElem?_recordHits (k t : ℕ) (same : barrier.length = close.length)
    (length : steps.length = close.length) :
    (recordHits hit close barrier k steps)[t]? =
      steps[t]?.map fun step => step.or (if hitAt hit close barrier t k then some k else none) := by
  by_cases inside : t < close.length - k
  · have here : t < steps.length := by omega
    have later : t + k < close.length := by omega
    have bounded : t < barrier.length := by omega
    rw [recordHits, List.getElem?_append_left (by
      simp only [List.length_zipWith, List.length_take, List.length_drop]
      omega)]
    have hitEq : hitAt hit close barrier t k = hit close[t + k] barrier[t] := by
      simp [hitAt, later, bounded]
    simp only [List.getElem?_zipWith, List.getElem?_drop, List.getElem?_take, inside, if_true,
      List.getElem?_eq_getElem here, List.getElem?_eq_getElem bounded, Nat.add_comm k t,
      List.getElem?_eq_getElem later, Option.map_some, hitEq]
    cases steps[t] <;> cases hit close[t + k] barrier[t] <;> rfl
  · have missing : hitAt hit close barrier t k = false := by
      have past : close[t + k]? = none := List.getElem?_eq_none (by omega)
      simp [hitAt, past]
    rw [recordHits, List.getElem?_append_right (by
      simp only [List.length_zipWith, List.length_take, List.length_drop]
      omega)]
    simp only [List.length_zipWith, List.length_take, List.length_drop, List.getElem?_drop,
      missing, Bool.false_eq_true, if_false, Option.or_none, Option.map_id']
    congr 1
    omega

/-- The steps hold the first contact of every row within the offsets up to `done`. -/
structure Holds (hit : F → F → Bool) (close barrier : List F) (done : ℕ)
    (steps : List (Option ℕ)) : Prop where
  length : steps.length = close.length
  first : ∀ t < close.length,
    steps[t]? = some ((List.range' 1 done).find? (hitAt hit close barrier t))

theorem Holds.start : Holds hit close barrier 0 (List.replicate close.length none) where
  length := List.length_replicate
  first := by
    intro t inside
    simp [inside]

theorem Holds.record {done : ℕ} (same : barrier.length = close.length)
    (held : Holds hit close barrier done steps) :
    Holds hit close barrier (done + 1) (recordHits hit close barrier (done + 1) steps) where
  length := length_recordHits _ same held.length
  first := by
    intro t inside
    rw [getElem?_recordHits _ _ same held.length, held.first t inside, Option.map_some,
      List.range'_concat, List.find?_append, List.find?_singleton, Nat.one_mul,
      Nat.add_comm 1 done]

theorem Holds.extend {done last : ℕ} (past : close.length ≤ done + 1) (more : done ≤ last)
    (held : Holds hit close barrier done steps) : Holds hit close barrier last steps where
  length := held.length
  first := by
    intro t inside
    rw [held.first t inside]
    obtain ⟨rest, rfl⟩ := Nat.exists_eq_add_of_le more
    have none : (List.range' (1 + done) rest).find? (hitAt hit close barrier t) = none := by
      refine List.find?_eq_none.mpr fun k member found => ?_
      rw [List.mem_range'_1] at member
      obtain ⟨future, _, ahead, _⟩ := hitAt_iff.mp found
      have short := (List.getElem?_eq_some_iff.mp ahead).1
      omega
    rw [← List.range'_append_1, List.find?_append, none, Option.or_none]

end Sweep

section Sweep

variable [LE F] [DecidableLE F] {close upper lower : List F}

theorem sweep_holds (upperLength : upper.length = close.length)
    (lowerLength : lower.length = close.length) (rounds done : ℕ) (steps : FirstSteps)
    (up : Holds (fun future bound => decide (bound ≤ future)) close upper done steps.up)
    (dn : Holds (fun future bound => decide (future ≤ bound)) close lower done steps.dn) :
    let final := sweep close upper lower (List.range' (done + 1) rounds) steps
    Holds (fun future bound => decide (bound ≤ future)) close upper (done + rounds) final.up ∧
      Holds (fun future bound => decide (future ≤ bound)) close lower (done + rounds) final.dn := by
  induction rounds generalizing done steps with
  | zero => exact ⟨up, dn⟩
  | succ rounds ih =>
      rw [List.range'_succ, sweep]
      split
      · rename_i past
        exact ⟨up.extend past (by omega), dn.extend past (by omega)⟩
      · have count : done + (rounds + 1) = done + 1 + rounds := by omega
        rw [count]
        exact ih (done + 1) _ (up.record upperLength) (dn.record lowerLength)

end Sweep

/-! The label of a row -/

section Rows

variable {p q : ℕ → Bool} {horizon : ℕ}

theorem label_none (untouched : ∀ k, 1 ≤ k → k ≤ horizon → p k = false ∧ q k = false) :
    Training.Hits.label ⟨(List.range' 1 horizon).find? p, (List.range' 1 horizon).find? q⟩ = 0 := by
  have up : (List.range' 1 horizon).find? p = none := by
    refine List.find?_eq_none.mpr fun k member => ?_
    rw [List.mem_range'_1] at member
    simp [(untouched k member.1 (by omega)).1]
  have dn : (List.range' 1 horizon).find? q = none := by
    refine List.find?_eq_none.mpr fun k member => ?_
    rw [List.mem_range'_1] at member
    simp [(untouched k member.1 (by omega)).2]
  rw [up, dn]
  rfl

theorem label_first {k : ℕ} (positive : 1 ≤ k) (within : k ≤ horizon)
    (touched : p k = true ∨ q k = true)
    (before : ∀ j, 1 ≤ j → j < k → p j = false ∧ q j = false) :
    Training.Hits.label ⟨(List.range' 1 horizon).find? p, (List.range' 1 horizon).find? q⟩ =
      if p k = true then 1 else -1 := by
  have member : k ∈ List.range' 1 horizon := by
    rw [List.mem_range'_1]
    omega
  have later (r : ℕ → Bool) (quiet : ∀ j, 1 ≤ j → j < k → r j = false) (step : ℕ)
      (found : (List.range' 1 horizon).find? r = some step) : k ≤ step := by
    obtain ⟨hit, inside, _⟩ := List.find?_range'_eq_some.mp found
    rw [List.mem_range'_1] at inside
    by_contra sooner
    simp [quiet step inside.1 (by omega)] at hit
  have atK (r : ℕ → Bool) (hit : r k = true) (quiet : ∀ j, 1 ≤ j → j < k → r j = false) :
      (List.range' 1 horizon).find? r = some k := by
    refine List.find?_range'_eq_some.mpr ⟨hit, member, fun j lower upper => ?_⟩
    simp [quiet j lower upper]
  have quietUp := fun j lower upper => (before j lower upper).1
  have quietDn := fun j lower upper => (before j lower upper).2
  by_cases up : p k = true
  · rw [if_pos up, atK p up quietUp]
    cases dn : (List.range' 1 horizon).find? q with
    | none => rfl
    | some step => exact if_pos (later q quietDn step dn)
  · rw [if_neg up, atK q (touched.resolve_left up) quietDn]
    cases found : (List.range' 1 horizon).find? p with
    | none => rfl
    | some step =>
        have after := later p quietUp step found
        have hit := (List.find?_range'_eq_some.mp found).1
        have apart : step ≠ k := by
          rintro rfl
          exact up hit
        exact if_neg (by omega)

end Rows

section Labels

variable [Add F] [Sub F] [Mul F] [LE F] [DecidableLE F]

def UpperHit (close atrValues : List F) (atrMult : F) (t k : ℕ) : Prop :=
  ∃ entry atr future, close[t]? = some entry ∧ atrValues[t]? = some atr ∧
    close[t + k]? = some future ∧ entry + atrMult * atr ≤ future

def LowerHit (close atrValues : List F) (atrMult : F) (t k : ℕ) : Prop :=
  ∃ entry atr future, close[t]? = some entry ∧ atrValues[t]? = some atr ∧
    close[t + k]? = some future ∧ future ≤ entry - atrMult * atr

variable {close atrValues : List F} {atrMult : F}

omit [Add F] [Sub F] [Mul F] [LE F] [DecidableLE F] in
theorem hitAt_zipWith (hit : F → F → Bool) (bound : F → F → F) (t k : ℕ) :
    hitAt hit close (List.zipWith bound close atrValues) t k = true ↔
      ∃ entry atr future, close[t]? = some entry ∧ atrValues[t]? = some atr ∧
        close[t + k]? = some future ∧ hit future (bound entry atr) = true := by
  rw [hitAt_iff]
  constructor
  · rintro ⟨future, _, ahead, barrier, reached⟩
    obtain ⟨entry, atr, here, width, rfl⟩ := List.getElem?_zipWith_eq_some.mp barrier
    exact ⟨entry, atr, future, here, width, ahead, reached⟩
  · rintro ⟨entry, atr, future, here, width, ahead, reached⟩
    exact ⟨future, _, ahead, List.getElem?_zipWith_eq_some.mpr ⟨entry, atr, here, width, rfl⟩,
      reached⟩

def upAt (close atrValues : List F) (atrMult : F) (t k : ℕ) : Bool :=
  hitAt (fun future bound => decide (bound ≤ future)) close
    (upperBarriers close atrValues atrMult) t k

def dnAt (close atrValues : List F) (atrMult : F) (t k : ℕ) : Bool :=
  hitAt (fun future bound => decide (future ≤ bound)) close
    (lowerBarriers close atrValues atrMult) t k

omit [Sub F] in
theorem upAt_iff (t k : ℕ) :
    upAt close atrValues atrMult t k = true ↔ UpperHit close atrValues atrMult t k := by
  simp only [upAt, upperBarriers, hitAt_zipWith, decide_eq_true_iff, UpperHit]

omit [Add F] in
theorem dnAt_iff (t k : ℕ) :
    dnAt close atrValues atrMult t k = true ↔ LowerHit close atrValues atrMult t k := by
  simp only [dnAt, lowerBarriers, hitAt_zipWith, decide_eq_true_iff, LowerHit]

theorem applyTripleBarrier_eq (same : close.length = atrValues.length) (horizon : ℤ) :
    applyTripleBarrier close atrValues horizon atrMult =
      .ok ((List.range close.length).map fun t => Training.Hits.label
        ⟨(List.range' 1 horizon.toNat).find? (upAt close atrValues atrMult t),
          (List.range' 1 horizon.toNat).find? (dnAt close atrValues atrMult t)⟩) := by
  have upperLength : (upperBarriers close atrValues atrMult).length = close.length := by
    simp [upperBarriers, same]
  have lowerLength : (lowerBarriers close atrValues atrMult).length = close.length := by
    simp [lowerBarriers, same]
  obtain ⟨up, dn⟩ := sweep_holds upperLength lowerLength horizon.toNat 0 ⟨_, _⟩ .start .start
  rw [Nat.zero_add] at up dn
  rw [applyTripleBarrier, if_neg (not_not.mpr same)]
  refine congrArg Except.ok (List.ext_getElem? fun t => ?_)
  rw [List.getElem?_zipWith, List.getElem?_map]
  by_cases inside : t < close.length
  · rw [up.first t inside, dn.first t inside, List.getElem?_range inside]
    rfl
  · have past (steps : List (Option ℕ)) (length : steps.length = close.length) :
        steps[t]? = none := List.getElem?_eq_none (by omega)
    have beyond : (List.range close.length)[t]? = none := by
      refine List.getElem?_eq_none ?_
      rw [List.length_range]
      omega
    rw [past _ up.length, beyond]
    rfl

section Training

variable [PyMath F]

omit [Sub F] in
theorem upAt_prices {prices : List (F × F)} {t k : ℕ} {entry : F × F}
    (here : prices[t]? = some entry) :
    upAt (prices.map Prod.fst) (prices.map Prod.snd) (PyMath.ofRat 2) t k =
      match prices[t + k]? with
      | none => false
      | some future => decide (entry.1 + PyMath.ofRat 2 * entry.2 ≤ future.1) := by
  simp only [upAt, hitAt, upperBarriers, List.getElem?_zipWith, List.getElem?_map, here,
    Option.map_some]
  cases prices[t + k]? <;> rfl

omit [Add F] in
theorem dnAt_prices {prices : List (F × F)} {t k : ℕ} {entry : F × F}
    (here : prices[t]? = some entry) :
    dnAt (prices.map Prod.fst) (prices.map Prod.snd) (PyMath.ofRat 2) t k =
      match prices[t + k]? with
      | none => false
      | some future => decide (future.1 ≤ entry.1 - PyMath.ofRat 2 * entry.2) := by
  simp only [dnAt, hitAt, lowerBarriers, List.getElem?_zipWith, List.getElem?_map, here,
    Option.map_some]
  cases prices[t + k]? <;> rfl

theorem scanStep_first (prices : List (F × F)) (rounds : ℕ) :
    (List.range' 1 rounds).foldl (Training.scanStep prices)
      (List.replicate prices.length {}) = (List.range prices.length).map fun t => {
        up := (List.range' 1 rounds).find?
          (upAt (prices.map Prod.fst) (prices.map Prod.snd) (PyMath.ofRat 2) t)
        down := (List.range' 1 rounds).find?
          (dnAt (prices.map Prod.fst) (prices.map Prod.snd) (PyMath.ofRat 2) t) } := by
  induction rounds with
  | zero => exact List.ext_getElem (by simp) fun t _ _ => by simp
  | succ rounds ih =>
      rw [List.range'_concat, List.foldl_append, ih]
      refine List.ext_getElem? fun t => ?_
      simp only [List.foldl_cons, List.foldl_nil, Training.scanStep, List.getElem?_zipWith,
        List.getElem?_map, List.getElem?_zipIdx, List.find?_append, List.find?_singleton]
      by_cases inside : t < prices.length
      · have here := List.getElem?_eq_getElem inside
        rw [List.getElem?_range inside, here]
        simp only [Option.map_some, upAt_prices here, dnAt_prices here, Nat.zero_add]
        cases prices[t + (1 + 1 * rounds)]? with
        | none => simp
        | some future => simp
      · have beyond : (List.range prices.length)[t]? = none := by
          refine List.getElem?_eq_none ?_
          rw [List.length_range]
          omega
        rw [beyond]
        rfl

theorem applyTripleBarrier_training (prices : List (F × F)) :
    applyTripleBarrier (prices.map Prod.fst) (prices.map Prod.snd) Training.verticalBars
      (PyMath.ofRat 2) = .ok (Training.applyTripleBarrier prices) := by
  rw [applyTripleBarrier_eq (by simp), Training.applyTripleBarrier, scanStep_first,
    List.length_map, List.map_map]
  rfl

end Training

/-- What the label of row `t` says of the offsets up to the horizon. -/
structure LabelsRow (close atrValues : List F) (atrMult : F) (horizon : ℤ) (t : ℕ) (label : ℤ) :
    Prop where
  first : ∀ k : ℕ, 1 ≤ k → k ≤ horizon →
    UpperHit close atrValues atrMult t k ∨ LowerHit close atrValues atrMult t k →
    (∀ j : ℕ, 1 ≤ j → j < k →
      ¬UpperHit close atrValues atrMult t j ∧ ¬LowerHit close atrValues atrMult t j) →
    (UpperHit close atrValues atrMult t k → label = 1) ∧
      (¬UpperHit close atrValues atrMult t k → label = -1)
  none : (∀ k : ℕ, 1 ≤ k → k ≤ horizon →
    ¬UpperHit close atrValues atrMult t k ∧ ¬LowerHit close atrValues atrMult t k) → label = 0

theorem labelsRow (horizon : ℤ) (t : ℕ) :
    LabelsRow close atrValues atrMult horizon t (Training.Hits.label
      ⟨(List.range' 1 horizon.toNat).find? (upAt close atrValues atrMult t),
        (List.range' 1 horizon.toNat).find? (dnAt close atrValues atrMult t)⟩) where
  first := by
    intro k positive within touched before
    rw [← upAt_iff, ← dnAt_iff] at touched
    have quiet : ∀ j, 1 ≤ j → j < k → upAt close atrValues atrMult t j = false ∧
        dnAt close atrValues atrMult t j = false := by
      intro j lower upper
      have untouched := before j lower upper
      rwa [← upAt_iff, ← dnAt_iff, Bool.not_eq_true, Bool.not_eq_true] at untouched
    rw [label_first positive (by omega) touched quiet, ← upAt_iff]
    exact ⟨fun up => if_pos up, fun up => if_neg up⟩
  none := by
    intro untouched
    refine label_none fun k positive within => ?_
    have quiet := untouched k positive (by omega)
    rwa [← upAt_iff, ← dnAt_iff, Bool.not_eq_true, Bool.not_eq_true] at quiet

omit [DecidableLE F] in
theorem LabelsRow.eq_zero_iff {horizon : ℤ} {t : ℕ} {label : ℤ}
    (row : LabelsRow close atrValues atrMult horizon t label) :
    label = 0 ↔ ∀ k : ℕ, 1 ≤ k → k ≤ horizon →
      ¬UpperHit close atrValues atrMult t k ∧ ¬LowerHit close atrValues atrMult t k := by
  classical
  refine ⟨fun zero => ?_, row.none⟩
  by_contra some
  push Not at some
  obtain ⟨k, positive, within, touched⟩ := some
  -- the offset that decides is the first one with a contact
  have exists_contact : ∃ k, 1 ≤ k ∧ (UpperHit close atrValues atrMult t k ∨
      LowerHit close atrValues atrMult t k) :=
    ⟨k, positive, or_iff_not_imp_left.mpr touched⟩
  obtain ⟨lower, contact⟩ := Nat.find_spec exists_contact
  have least := Nat.find_min' exists_contact ⟨positive, or_iff_not_imp_left.mpr touched⟩
  obtain ⟨up, dn⟩ := row.first (Nat.find exists_contact) lower (by omega) contact
    fun j first before => not_or.mp fun sooner =>
      Nat.find_min exists_contact before ⟨first, sooner⟩
  rcases Classical.em (UpperHit close atrValues atrMult t (Nat.find exists_contact)) with hit | miss
  · rw [up hit] at zero
    omega
  · rw [dn miss] at zero
    omega

/-- The swept labels of the rows with a complete forward window, row by row. -/
theorem applyTripleBarrier_rows (same : close.length = atrValues.length) {horizon : ℤ}
    (positive : 1 ≤ horizon) :
    ∃ labels, applyTripleBarrier close atrValues horizon atrMult = .ok labels ∧
      ∀ t : ℕ, t + horizon ≤ (close.length : ℤ) - 1 → ∃ label, labels[t]? = some label ∧
        (∀ k : ℕ, 1 ≤ k → k ≤ horizon →
          UpperHit close atrValues atrMult t k ∨ LowerHit close atrValues atrMult t k →
          (∀ j : ℕ, 1 ≤ j → j < k →
            ¬UpperHit close atrValues atrMult t j ∧ ¬LowerHit close atrValues atrMult t j) →
          (UpperHit close atrValues atrMult t k → label = 1) ∧
            (¬UpperHit close atrValues atrMult t k → label = -1)) ∧
        ((∀ k : ℕ, 1 ≤ k → k ≤ horizon → ¬UpperHit close atrValues atrMult t k ∧
          ¬LowerHit close atrValues atrMult t k) → label = 0) := by
  refine ⟨_, applyTripleBarrier_eq same horizon, fun t complete => ?_⟩
  have inside : t < close.length := by omega
  have row : LabelsRow close atrValues atrMult horizon t _ := labelsRow horizon t
  refine ⟨_, ?_, row.first, row.none⟩
  rw [List.getElem?_map, List.getElem?_range inside]
  rfl

/-- A row without a complete forward window is labelled by the part of it that there is. -/
theorem applyTripleBarrier_incomplete_iff (same : close.length = atrValues.length)
    (horizon : ℤ) :
    ∃ labels, applyTripleBarrier close atrValues horizon atrMult = .ok labels ∧
      ((∀ t < close.length, (close.length : ℤ) - 1 < t + horizon → labels[t]? = some 0) ↔
        ∀ t k : ℕ, 1 ≤ k → t + k < close.length → (close.length : ℤ) - 1 < t + horizon →
          ¬UpperHit close atrValues atrMult t k ∧ ¬LowerHit close atrValues atrMult t k) := by
  refine ⟨_, applyTripleBarrier_eq same horizon, ?_⟩
  have labelled : ∀ t < close.length, ((List.range close.length).map fun t =>
      Training.Hits.label ⟨(List.range' 1 horizon.toNat).find? (upAt close atrValues atrMult t),
        (List.range' 1 horizon.toNat).find? (dnAt close atrValues atrMult t)⟩)[t]? = some 0 ↔
      ∀ k : ℕ, 1 ≤ k → k ≤ horizon →
        ¬UpperHit close atrValues atrMult t k ∧ ¬LowerHit close atrValues atrMult t k := by
    intro t inside
    rw [List.getElem?_map, List.getElem?_range inside, Option.map_some, Option.some.injEq]
    exact (labelsRow horizon t).eq_zero_iff
  constructor
  · intro vertical t k positive ahead incomplete
    have inside : t < close.length := by omega
    exact (labelled t inside).mp (vertical t inside incomplete) k positive (by omega)
  · intro untouched t inside incomplete
    refine (labelled t inside).mpr fun k positive _ => ?_
    by_cases ahead : t + k < close.length
    · exact untouched t k positive ahead incomplete
    · -- there is no bar that far ahead
      have past : close[t + k]? = none := List.getElem?_eq_none (by omega)
      constructor
      · rintro ⟨_, _, _, _, _, future, _⟩
        simp [past] at future
      · rintro ⟨_, _, _, _, _, future, _⟩
        simp [past] at future

end Labels

def risingClose : List ℚ := [100, 101, 103, 90]

def evenAtr : List ℚ := [1, 1, 1, 1]

theorem applyTripleBarrier_rows_rising :
    ∃ labels, applyTripleBarrier risingClose evenAtr 2 2 = .ok labels ∧
      ∀ t : ℕ, t + 2 ≤ (risingClose.length : ℤ) - 1 → ∃ label, labels[t]? = some label ∧
        (∀ k : ℕ, 1 ≤ k → k ≤ (2 : ℤ) →
          UpperHit risingClose evenAtr 2 t k ∨ LowerHit risingClose evenAtr 2 t k →
          (∀ j : ℕ, 1 ≤ j → j < k →
            ¬UpperHit risingClose evenAtr 2 t j ∧ ¬LowerHit risingClose evenAtr 2 t j) →
          (UpperHit risingClose evenAtr 2 t k → label = 1) ∧
            (¬UpperHit risingClose evenAtr 2 t k → label = -1)) ∧
        ((∀ k : ℕ, 1 ≤ k → k ≤ (2 : ℤ) →
          ¬UpperHit risingClose evenAtr 2 t k ∧ ¬LowerHit risingClose evenAtr 2 t k) →
          label = 0) := by
  have same : risingClose.length = evenAtr.length := rfl
  have positive : (1 : ℤ) ≤ 2 := by decide
  exact applyTripleBarrier_rows same positive

theorem applyTripleBarrier_incomplete_iff_rising :
    ∃ labels, applyTripleBarrier risingClose evenAtr 12 2 = .ok labels ∧
      ((∀ t < risingClose.length, (risingClose.length : ℤ) - 1 < t + 12 → labels[t]? = some 0) ↔
        ∀ t k : ℕ, 1 ≤ k → t + k < risingClose.length →
          (risingClose.length : ℤ) - 1 < t + 12 →
          ¬UpperHit risingClose evenAtr 2 t k ∧ ¬LowerHit risingClose evenAtr 2 t k) := by
  have same : risingClose.length = evenAtr.length := rfl
  exact applyTripleBarrier_incomplete_iff same 12

/-- The next bar is all of the forward window there is, and it touches the upper barrier. -/
theorem applyTripleBarrier_truncated :
    ¬∀ (close atrValues : List ℚ) (horizon : ℤ) (atrMult : ℚ),
      close.length = atrValues.length → ∃ labels,
        applyTripleBarrier close atrValues horizon atrMult = .ok labels ∧
        ∀ t < close.length, (close.length : ℤ) - 1 < t + horizon → labels[t]? = some 0 := by
  intro vertical
  obtain ⟨labels, returned, zero⟩ := vertical [100, 105] [1, 1] 12 2 rfl
  have first : applyTripleBarrier [100, 105] [1, 1] 12 (2 : ℚ) = .ok [1, 0] := by decide +kernel
  rw [first] at returned
  cases returned
  have label := zero 0 (by decide) (by decide)
  simp at label

end MetaLabel

end Vix75
