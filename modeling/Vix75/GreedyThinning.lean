import Mathlib.Data.List.Induction
import Mathlib.Data.List.Nodup
import Mathlib.Data.List.TakeWhile
import Mathlib.Tactic.Common

/-! Greedy thinning of a ranked list: an item is kept unless one kept before it is near. When
the thinning keeps no item of a kind, and when it keeps all items of a set. -/

namespace GreedyThinning

variable {α : Type} [DecidableEq α] (near : α → α → Bool)

def thin (ranked : List α) : List α :=
  ranked.foldl (fun kept item => if kept.any (near item) then kept else item :: kept) []

def above (ranked : List α) (item : α) : List α := ranked.takeWhile (· ≠ item)

omit [DecidableEq α] in
theorem thin_concat (ranked : List α) (item : α) : thin near (ranked ++ [item]) =
    if (thin near ranked).any (near item) then thin near ranked
    else item :: thin near ranked := by
  rw [thin, List.foldl_append]
  rfl

omit [DecidableEq α] in
theorem mem_of_mem_thin {ranked : List α} {item : α} (kept : item ∈ thin near ranked) :
    item ∈ ranked := by
  induction ranked using List.reverseRecOn with
  | nil => exact kept
  | append_singleton ranked last ih =>
      rw [thin_concat] at kept
      split at kept
      · exact List.mem_append_left _ (ih kept)
      · rcases List.mem_cons.mp kept with rfl | earlier
        · simp
        · exact List.mem_append_left _ (ih earlier)

omit [DecidableEq α] in
theorem mem_thin_append {ranked : List α} {item : α} (kept : item ∈ thin near ranked)
    (later : List α) : item ∈ thin near (ranked ++ later) := by
  induction later using List.reverseRecOn with
  | nil => rwa [List.append_nil]
  | append_singleton later last ih =>
      rw [← List.append_assoc, thin_concat]
      split
      · exact ih
      · exact List.mem_cons_of_mem _ ih

theorem above_concat {ranked : List α} {item last : α} (member : item ∈ ranked) :
    above (ranked ++ [last]) item = above ranked item := by
  induction ranked with
  | nil => simp at member
  | cons first later ih =>
      by_cases here : first = item
      · simp [above, here]
      · have rest := ih ((List.mem_cons.mp member).resolve_left (Ne.symm here))
        simpa [above, here] using rest

theorem above_last {ranked : List α} {last : α} (fresh : last ∉ ranked) :
    above (ranked ++ [last]) last = ranked := by
  induction ranked with
  | nil => simp [above]
  | cons first later ih =>
      obtain ⟨apart, rest⟩ := List.ne_and_not_mem_of_not_mem_cons fresh
      have tail := ih rest
      simpa [above, Ne.symm apart] using tail

variable {near} {ranked : List α}

/-- An item is kept when nothing near it is kept of the items before it. -/
theorem mem_thin_iff (nodup : ranked.Nodup) (item : α) : item ∈ thin near ranked ↔
    item ∈ ranked ∧ ∀ kept ∈ thin near (above ranked item), near item kept = false := by
  induction ranked using List.reverseRecOn with
  | nil => simp [thin]
  | append_singleton ranked last ih =>
      obtain ⟨rest, _, apart⟩ := List.nodup_append'.mp nodup
      have fresh : last ∉ ranked := fun member => apart member (List.mem_singleton_self last)
      by_cases newest : item = last
      · subst newest
        rw [above_last fresh, thin_concat]
        have absent : item ∉ thin near ranked := fun kept => fresh (mem_of_mem_thin near kept)
        by_cases blocked : (thin near ranked).any (near item) = true
        · rw [if_pos blocked]
          refine iff_of_false absent fun clear => ?_
          obtain ⟨kept, member, close⟩ := List.any_eq_true.mp blocked
          simp [clear.2 kept member] at close
        · rw [if_neg blocked]
          refine iff_of_true (List.mem_cons_self ..) ⟨by simp, fun kept member => ?_⟩
          rw [List.any_eq_true, not_exists] at blocked
          simpa [member] using blocked kept
      · have same : item ∈ thin near (ranked ++ [last]) ↔ item ∈ thin near ranked := by
          rw [thin_concat]
          split
          · rfl
          · simp [newest]
        rw [same, ih rest]
        by_cases member : item ∈ ranked
        · rw [above_concat member]
          simp [member]
        · simp [member, newest]

omit [DecidableEq α] in
theorem thin_apart (symmetric : ∀ first second, near first second = near second first)
    {first second : α} (kept : first ∈ thin near ranked) (other : second ∈ thin near ranked)
    (different : first ≠ second) : near first second = false := by
  induction ranked using List.reverseRecOn with
  | nil => simp [thin] at kept
  | append_singleton ranked last ih =>
      rw [thin_concat] at kept other
      split at kept
      · rename_i blocked
        rw [if_pos blocked] at other
        exact ih kept other
      · rename_i clear
        rw [if_neg clear] at other
        have free : ∀ earlier ∈ thin near ranked, near last earlier = false := by
          intro earlier member
          by_contra close
          exact clear (List.any_eq_true.mpr ⟨earlier, member, by simpa using close⟩)
        rcases List.mem_cons.mp kept with rfl | keptEarlier
        · rcases List.mem_cons.mp other with rfl | otherEarlier
          · exact absurd rfl different
          · exact free second otherEarlier
        · rcases List.mem_cons.mp other with rfl | otherEarlier
          · rw [symmetric]
            exact free first keptEarlier
          · exact ih keptEarlier otherEarlier

section Avoid

variable {bad : α → Bool}

omit [DecidableEq α] in
theorem thin_eq_of_avoids (avoids : ∀ item ∈ thin near ranked, bad item = false) :
    thin near ranked = thin near (ranked.filter fun item => !bad item) := by
  induction ranked using List.reverseRecOn with
  | nil => rfl
  | append_singleton ranked last ih =>
      rw [thin_concat] at avoids
      have earlier : thin near ranked = thin near (ranked.filter fun item => !bad item) := by
        refine ih fun item kept => avoids item ?_
        split
        · exact kept
        · exact List.mem_cons_of_mem _ kept
      rw [List.filter_append, thin_concat]
      cases worse : bad last with
      | false =>
          have single : [last].filter (fun item => !bad item) = [last] := by simp [worse]
          rw [single, thin_concat, earlier]
      | true =>
          have dropped : [last].filter (fun item => !bad item) = [] := by simp [worse]
          rw [dropped, List.append_nil, ← earlier, if_pos]
          by_contra clear
          rw [if_neg clear] at avoids
          have good := avoids last (List.mem_cons_self ..)
          rw [worse] at good
          cases good

/-- No bad item is kept when each has a near one before it that is kept without them. -/
theorem thin_avoids_iff (nodup : ranked.Nodup) :
    (∀ item ∈ thin near ranked, bad item = false) ↔
      ∀ item ∈ ranked, bad item = true →
        ∃ kept ∈ thin near ((above ranked item).filter fun other => !bad other),
          near item kept = true := by
  induction ranked using List.reverseRecOn with
  | nil => simp [thin]
  | append_singleton ranked last ih =>
      obtain ⟨rest, _, apart⟩ := List.nodup_append'.mp nodup
      have fresh : last ∉ ranked := fun member => apart member (List.mem_singleton_self last)
      constructor
      · intro avoids
        have earlier : ∀ item ∈ thin near ranked, bad item = false := by
          intro item kept
          refine avoids item ?_
          rw [thin_concat]
          split
          · exact kept
          · exact List.mem_cons_of_mem _ kept
        intro item member worse
        by_cases newest : item = last
        · subst newest
          rw [above_last fresh, ← thin_eq_of_avoids earlier]
          refine List.any_eq_true.mp ?_
          by_contra clear
          have kept : item ∈ thin near (ranked ++ [item]) := by
            rw [thin_concat, if_neg clear]
            exact List.mem_cons_self ..
          simp [avoids item kept] at worse
        · have old : item ∈ ranked := by simpa [newest] using member
          rw [above_concat old]
          exact (ih rest).mp earlier item old worse
      · intro blocked
        have earlier : ∀ item ∈ thin near ranked, bad item = false := by
          refine (ih rest).mpr fun item member worse => ?_
          have before := blocked item (List.mem_append_left _ member) worse
          rwa [above_concat member] at before
        intro item kept
        rw [thin_concat] at kept
        split at kept
        · exact earlier item kept
        · rename_i clear
          rcases List.mem_cons.mp kept with rfl | old
          · by_contra worse
            have before := blocked item (by simp) (by simpa using worse)
            rw [above_last fresh, ← thin_eq_of_avoids earlier] at before
            exact clear (List.any_eq_true.mpr before)
          · exact earlier item old

end Avoid

section Keep

variable {chosen : List α}

def challenges (near : α → α → Bool) (ranked chosen : List α) (item : α) : Bool :=
  chosen.any fun other => near other item && decide (item ∈ above ranked other)

theorem thin_keeps_iff (symmetric : ∀ first second, near first second = near second first)
    (nodup : ranked.Nodup) (members : ∀ item ∈ chosen, item ∈ ranked) :
    (∀ item ∈ chosen, item ∈ thin near ranked) ↔
      ∀ item ∈ thin near ranked, challenges near ranked chosen item = false := by
  constructor
  · intro keeps item kept
    by_contra challenging
    rw [Bool.not_eq_false, challenges, List.any_eq_true] at challenging
    obtain ⟨other, member, both⟩ := challenging
    rw [Bool.and_eq_true, decide_eq_true_iff] at both
    have different : other ≠ item := by
      have before := List.mem_takeWhile_imp both.2
      simpa [ne_comm] using before
    rw [thin_apart symmetric (keeps other member) kept different] at both
    exact Bool.false_ne_true both.1
  · intro unchallenged item member
    refine (mem_thin_iff nodup item).mpr ⟨members item member, fun kept before => ?_⟩
    obtain ⟨rest, split⟩ : above ranked item <+: ranked := List.takeWhile_prefix _
    have keptAll : kept ∈ thin near ranked := by
      rw [← split]
      exact mem_thin_append near before rest
    have quiet := unchallenged kept keptAll
    by_contra close
    rw [challenges, List.any_eq_false] at quiet
    refine quiet item member ?_
    rw [Bool.not_eq_false] at close
    rw [close, decide_eq_true (mem_of_mem_thin near before)]
    rfl

end Keep

end GreedyThinning
