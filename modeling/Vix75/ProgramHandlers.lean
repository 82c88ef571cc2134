import Vix75.EffectProgram

/-! A program whose effects are carried out by programs over other effects, with a state that only
the handler keeps. -/

namespace EffectProgram

namespace Prog

variable {Effect Wider : Type} {Reply : Effect → Type} {Answer : Wider → Type}
variable {Error σ α : Type}

def attempt (program : Prog Effect Reply Error α) : Prog Effect Reply Error (Except Error α) :=
  (program >>= fun value => .done (.ok value)).rescue fun error => .done (.error error)

def handle (interpret : σ → (effect : Effect) →
      Prog Wider Answer Error (Except Error (Reply effect) × σ)) :
    σ → Prog Effect Reply Error α → Prog Wider Answer Error (α × σ)
  | state, .done value => .done (value, state)
  | _, .raise error => .raise error
  | state, .call effect next =>
      interpret state effect >>= fun outcome => handle interpret outcome.2 (next outcome.1)

end Prog

namespace Discipline

variable {Effect Wider : Type} {Reply : Effect → Type} {Answer : Wider → Type}
variable {Error Request WiderRequest Ghost WiderGhost σ α : Type}

theorem wp_attempt {W : Discipline Wider Answer Error WiderRequest WiderGhost}
    {ghost : WiderGhost} {program : Prog Wider Answer Error α}
    {returned : WiderGhost → Except Error α → Prop} {raised : WiderGhost → Error → Prop} :
    W.wp ghost program.attempt returned raised ↔
      W.wp ghost program (fun after value => returned after (.ok value))
        fun after error => returned after (.error error) := by
  rw [Prog.attempt, wp_rescue, wp_bind]
  exact Iff.rfl

/-- A handled program keeps a discipline when the handler of each effect keeps it, as long as what
the program knows (its ghost value) stays true of what the handler has done. -/
theorem wp_handle {D : Discipline Effect Reply Error Request Ghost}
    (W : Discipline Wider Answer Error WiderRequest WiderGhost)
    (knows : σ → Ghost → WiderGhost → Prop) (failed : WiderGhost → Error → Prop)
    {interpret : σ → (effect : Effect) →
      Prog Wider Answer Error (Except Error (Reply effect) × σ)}
    (handles : ∀ state ghost current effect, knows state ghost current → D.allowed ghost effect →
      W.wp current (interpret state effect) (fun after outcome =>
        D.assumed ghost effect outcome.1 ∧
          knows outcome.2 (D.advance ghost effect outcome.1) after) failed)
    {program : Prog Effect Reply Error α} {returned : Ghost → α → Prop}
    {raised : Ghost → Error → Prop} {state : σ} {ghost : Ghost} {current : WiderGhost}
    (known : knows state ghost current) (holds : D.wp ghost program returned raised) :
    W.wp current (program.handle interpret state)
      (fun after outcome => ∃ last, knows outcome.2 last after ∧ returned last outcome.1)
      (fun after error => (∃ last state, knows state last after ∧ raised last error) ∨
        failed after error) := by
  induction program generalizing state ghost current with
  | done value => exact ⟨ghost, known, holds⟩
  | raise error => exact .inl ⟨ghost, state, known, holds⟩
  | call effect next ih =>
      refine wp_bind.mpr (wp_mono (handles state ghost current effect known holds.1) ?_ ?_)
      · rintro after outcome ⟨assumed, known⟩
        exact ih outcome.1 known (holds.2 outcome.1 assumed)
      · exact fun after error failure => .inr failure

end Discipline

end EffectProgram
