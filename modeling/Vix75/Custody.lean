import Mathlib.Data.List.Nodup
import Mathlib.Logic.Function.Basic

/-! Tokens that are dealt to processes: each one is in at most one hand, and no token that
is in a hand was spent. -/

structure Custody {Pid Token : Type} (dealt : List Token) (hands : Pid → List Token)
    (spent : List Token) : Prop where
  once : spent.Nodup
  known : ∀ token ∈ spent, token ∈ dealt
  hand : ∀ pid, (hands pid).Nodup
  taken : ∀ pid token, token ∈ hands pid → token ∈ dealt ∧ token ∉ spent
  apart : ∀ pid other token, token ∈ hands pid → token ∈ hands other → pid = other

namespace Custody

variable {Pid Token Ghost : Type} {dealt after spent left : List Token}
variable {hands kept : Pid → List Token} {pid : Pid}

def carried (tokens : Ghost → List Token) (ghosts : Pid → Option Ghost) (pid : Pid) : List Token :=
  ((ghosts pid).map tokens).getD []

theorem carried_some {tokens : Ghost → List Token} {ghosts : Pid → Option Ghost} {ghost : Ghost}
    (current : ghosts pid = some ghost) : carried tokens ghosts pid = tokens ghost := by
  simp [carried, current]

theorem empty : Custody dealt (fun _ : Pid => []) [] :=
  ⟨List.nodup_nil, by simp, fun _ => List.nodup_nil, by simp, by simp⟩

/-- Tokens may be put down, forgotten as spent, or dealt to nobody. -/
theorem frame (held : Custody dealt hands spent) (more : dealt ⊆ after)
    (less : left.Sublist spent) (fewer : ∀ pid, (kept pid).Sublist (hands pid)) :
    Custody after kept left where
  once := less.nodup held.once
  known := fun token member => more (held.known token (less.subset member))
  hand := fun pid => (fewer pid).nodup (held.hand pid)
  taken := fun pid token member => by
    obtain ⟨known, unspent⟩ := held.taken pid token ((fewer pid).subset member)
    exact ⟨more known, fun inLeft => unspent (less.subset inLeft)⟩
  apart := fun pid other token inPid inOther =>
    held.apart pid other token ((fewer pid).subset inPid) ((fewer other).subset inOther)

variable [DecidableEq Pid]

@[simp] theorem carried_update (tokens : Ghost → List Token) (ghosts : Pid → Option Ghost)
    (pid : Pid) (ghost : Option Ghost) :
    carried tokens (Function.update ghosts pid ghost) =
      Function.update (carried tokens ghosts) pid ((ghost.map tokens).getD []) := by
  funext other
  by_cases same : other = pid
  · subst same
    simp [carried]
  · simp [carried, same]

theorem put_down {rest : List Token} (held : Custody dealt hands spent) (more : dealt ⊆ after)
    (less : left.Sublist spent) (fewer : rest.Sublist (hands pid)) :
    Custody after (Function.update hands pid rest) left := by
  refine held.frame more less fun other => ?_
  by_cases same : other = pid
  · subst same
    simpa using fewer
  · simp [same]

theorem deal {batch : List Token} (held : Custody dealt hands spent) (pid : Pid)
    (distinct : batch.Nodup) (fresh : ∀ token ∈ batch, token ∉ dealt) :
    Custody (dealt ++ batch) (Function.update hands pid batch) spent := by
  have split : ∀ other token, token ∈ Function.update hands pid batch other →
      other = pid ∧ token ∈ batch ∨ other ≠ pid ∧ token ∈ hands other := by
    intro other token member
    by_cases same : other = pid
    · subst same
      exact .inl ⟨rfl, by simpa using member⟩
    · exact .inr ⟨same, by simpa [same] using member⟩
  refine ⟨held.once, fun token member => ?_, fun other => ?_, fun other token member => ?_,
    fun first second token inFirst inSecond => ?_⟩
  · exact List.mem_append_left _ (held.known token member)
  · by_cases same : other = pid
    · subst same
      simpa using distinct
    · simpa [same] using held.hand other
  · rcases split other token member with ⟨_, inBatch⟩ | ⟨_, before⟩
    · exact ⟨List.mem_append_right _ inBatch, fun used =>
        fresh token inBatch (held.known token used)⟩
    · obtain ⟨known, unspent⟩ := held.taken other token before
      exact ⟨List.mem_append_left _ known, unspent⟩
  · rcases split first token inFirst with ⟨rfl, inBatch⟩ | ⟨_, beforeFirst⟩
    · rcases split second token inSecond with ⟨rfl, _⟩ | ⟨_, beforeSecond⟩
      · rfl
      · exact absurd (held.taken second token beforeSecond).1 (fresh token inBatch)
    · rcases split second token inSecond with ⟨rfl, inBatch⟩ | ⟨_, beforeSecond⟩
      · exact absurd (held.taken first token beforeFirst).1 (fresh token inBatch)
      · exact held.apart first second token beforeFirst beforeSecond

theorem spend {token : Token} {rest : List Token} (held : Custody dealt hands spent)
    (current : hands pid = token :: rest) :
    Custody dealt (Function.update hands pid rest) (spent ++ [token]) := by
  have head : token ∈ hands pid := by simp [current]
  obtain ⟨known, unspent⟩ := held.taken pid token head
  have nodup := held.hand pid
  rw [current] at nodup
  have lower : Custody dealt (Function.update hands pid rest) spent := by
    refine held.put_down (List.Subset.refl _) (List.Sublist.refl _) ?_
    rw [current]
    exact List.sublist_cons_self _ _
  have gone : ∀ other, token ∉ Function.update hands pid rest other := by
    intro other member
    by_cases same : other = pid
    · subst same
      exact (List.nodup_cons.mp nodup).1 (by simpa using member)
    · exact same (held.apart other pid token (by simpa [same] using member) head)
  refine ⟨?_, fun other member => ?_, lower.hand, fun other key member => ?_, lower.apart⟩
  · rw [← List.concat_eq_append, List.nodup_concat]
    exact ⟨unspent, held.once⟩
  · rcases List.mem_append.mp member with earlier | now
    · exact held.known other earlier
    · rw [List.mem_singleton.mp now]
      exact known
  · obtain ⟨knownKey, free⟩ := lower.taken other key member
    refine ⟨knownKey, fun used => ?_⟩
    rcases List.mem_append.mp used with earlier | now
    · exact free earlier
    · rw [List.mem_singleton.mp now] at member
      exact gone other member

end Custody
