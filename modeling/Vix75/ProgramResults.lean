import Mathlib.Logic.Relation
import Vix75.EffectProgram

/-! What every value that a program returns satisfies, and what any two states of one run of a
system have in common. Nothing here depends on what the effects are. -/

namespace EffectProgram

namespace Prog

variable {Effect : Type} {Reply : Effect → Type} {Error α β : Type}

/-- Whatever the effects are answered, a returned value satisfies `post`. -/
def Yields (post : α → Prop) : Prog Effect Reply Error α → Prop
  | .done value => post value
  | .raise _ => True
  | .call _ next => ∀ reply, Yields post (next reply)

variable {post : α → Prop}

theorem yields_perform (effect : Effect) :
    (perform effect : Prog Effect Reply Error (Reply effect)).Yields fun _ => True := by
  rintro (error | value) <;> trivial

theorem Yields.mono {weaker : α → Prop} {program : Prog Effect Reply Error α}
    (yields : program.Yields post) (implies : ∀ value, post value → weaker value) :
    program.Yields weaker := by
  induction program with
  | done value => exact implies value yields
  | raise error => trivial
  | call effect next ih => exact fun reply => ih reply (yields reply)

theorem yields_bind {program : Prog Effect Reply Error α} {rest : α → Prog Effect Reply Error β}
    {later : β → Prop} (first : program.Yields post)
    (second : ∀ value, post value → (rest value).Yields later) :
    (program >>= rest).Yields later := by
  induction program with
  | done value => exact second value first
  | raise error => trivial
  | call effect next ih => exact fun reply => ih reply (first reply)

theorem yields_perform_bind {effect : Effect} {rest : Reply effect → Prog Effect Reply Error β}
    {later : β → Prop} (second : ∀ value, (rest value).Yields later) :
    (perform effect >>= rest).Yields later :=
  yields_bind (yields_perform effect) fun value _ => second value

theorem uses_bind_yields {permitted : Effect → Prop} {program : Prog Effect Reply Error α}
    {rest : α → Prog Effect Reply Error β} (first : program.Uses permitted)
    (yields : program.Yields post) (later : ∀ value, post value → (rest value).Uses permitted) :
    (program >>= rest).Uses permitted := by
  induction program with
  | done value => exact later value yields
  | raise error => trivial
  | call effect next ih => exact ⟨first.1, fun reply => ih reply (first.2 reply) (yields reply)⟩

theorem yields_trivial (program : Prog Effect Reply Error α) :
    program.Yields fun _ => True := by
  induction program with
  | done value => trivial
  | raise error => trivial
  | call effect next ih => exact ih

end Prog

namespace Discipline

variable {Effect : Type} {Reply : Effect → Type} {Error Request Ghost α : Type}
variable {D : Discipline Effect Reply Error Request Ghost} {ghost : Ghost}

theorem wp_of_yields {permitted : Effect → Prop} {post : α → Prop}
    {program : Prog Effect Reply Error α} (used : program.Uses permitted)
    (yields : program.Yields post)
    (inert : ∀ effect, permitted effect → D.allowed ghost effect ∧
      ∀ reply, D.assumed ghost effect reply → D.advance ghost effect reply = ghost) :
    D.wp ghost program (fun after value => after = ghost ∧ post value)
      (fun after _ => after = ghost) := by
  induction program with
  | done value => exact ⟨rfl, yields⟩
  | raise error => rfl
  | call effect next ih =>
      obtain ⟨allowed, still⟩ := inert effect used.1
      refine ⟨allowed, fun reply assumed => ?_⟩
      rw [still reply assumed]
      exact ih reply (used.2 reply) (yields reply)

theorem wp_forEach_same {ι : Type} {items : List ι} {body : ι → Prog Effect Reply Error Unit}
    {raised : Ghost → Error → Prop}
    (each : ∀ item ∈ items, D.wp ghost (body item) (fun after _ => after = ghost) raised) :
    D.wp ghost (Prog.forEach items body) (fun after _ => after = ghost) raised := by
  induction items with
  | nil => rfl
  | cons item rest ih =>
      refine wp_seq _ (each item (by simp)) ?_
      rintro after _ rfl
      exact ih fun other member => each other (by simp [member])

section Interleavings

variable {Pid World Event : Type} [DecidableEq Pid] [DecidableEq Effect] [DecidableEq Error]
variable {S : System Effect Reply Error World Event Request}
variable {Inv : World → (Pid → Option Ghost) → Prop}

/-- What every step of a maintained invariant does to the world, a run does as often as it
takes. -/
theorem Maintains.run_related (maintains : D.Maintains S Inv) {related : World → World → Prop}
    (each : ∀ world ghosts label after, Inv world ghosts →
      D.Moves S world ghosts label after → related world after)
    {config after : Config Pid Effect Reply Error World} {ghosts : Pid → Option Ghost}
    {trace : List (Label Pid Effect Reply Error Event Request)}
    (held : D.Matches config ghosts) (invariant : Inv config.world ghosts)
    (assumed : D.Assumes ghosts trace) (ran : S.run config trace = some after) :
    Relation.ReflTransGen related config.world after.world := by
  induction trace generalizing config ghosts with
  | nil =>
      obtain rfl := Option.some.inj ran
      exact .refl
  | cons label rest ih =>
      obtain ⟨middle, stepped, ran⟩ := Option.bind_eq_some_iff.mp ran
      obtain ⟨matched, kept⟩ := maintains.step held invariant assumed.1 trivial stepped
      have moved := (matches_step maintains.follows held assumed.1 stepped).2
      exact .head (each _ _ _ _ invariant moved) (ih matched kept assumed.2 ran)

theorem matches_run (follows : ∀ request, D.wp (D.initial request) (S.entry request)
      (fun after _ => D.finished after) D.failed)
    {config after : Config Pid Effect Reply Error World} {ghosts : Pid → Option Ghost}
    {trace : List (Label Pid Effect Reply Error Event Request)} (held : D.Matches config ghosts)
    (assumed : D.Assumes ghosts trace) (ran : S.run config trace = some after) :
    D.Matches after (D.trackAll ghosts trace) := by
  induction trace generalizing config ghosts with
  | nil =>
      obtain rfl := Option.some.inj ran
      exact held
  | cons label rest ih =>
      obtain ⟨middle, stepped, ran⟩ := Option.bind_eq_some_iff.mp ran
      exact ih (matches_step follows held assumed.1 stepped).1 assumed.2 ran

theorem run_recorded {History : Type}
    {record : History → Label Pid Effect Reply Error Event Request → History}
    {permitted : Label Pid Effect Reply Error Event Request → Prop}
    {Recorded : History → World → (Pid → Option Ghost) → Prop}
    (follows : ∀ request, D.wp (D.initial request) (S.entry request)
      (fun after _ => D.finished after) D.failed)
    (each : ∀ history world ghosts label after, Recorded history world ghosts →
      permitted label → D.Moves S world ghosts label after →
      Recorded (record history label) after (D.track ghosts label))
    {config after : Config Pid Effect Reply Error World} {ghosts : Pid → Option Ghost}
    {trace : List (Label Pid Effect Reply Error Event Request)} {history : History}
    (held : D.Matches config ghosts) (recorded : Recorded history config.world ghosts)
    (assumed : D.Assumes ghosts trace) (limited : ∀ label ∈ trace, permitted label)
    (ran : S.run config trace = some after) :
    Recorded (trace.foldl record history) after.world (D.trackAll ghosts trace) := by
  induction trace generalizing config ghosts history with
  | nil =>
      obtain rfl := Option.some.inj ran
      exact recorded
  | cons label rest ih =>
      obtain ⟨middle, stepped, ran⟩ := Option.bind_eq_some_iff.mp ran
      obtain ⟨matched, moved⟩ := matches_step follows held assumed.1 stepped
      exact ih matched (each _ _ _ _ _ recorded (limited label (by simp)) moved) assumed.2
        (fun other member => limited other (by simp [member])) ran

end Interleavings

section Requests

variable {Pid World Event : Type} {permits : Request → Effect → Prop}

/-- A process keeps to what its request permits. Of one that was already going it is not known what
was asked of it. -/
def keeping (permits : Request → Effect → Prop) :
    Discipline Effect Reply Error Request (Option Request) where
  initial := some
  allowed := fun asked effect => ∀ request, asked = some request → permits request effect
  advance := fun asked _ _ => asked

theorem wp_keeping {asked : Option Request} {program : Prog Effect Reply Error Unit}
    (used : program.Uses fun effect => ∀ request, asked = some request → permits request effect) :
    (keeping permits : Discipline Effect Reply Error Request _).wp asked program (fun _ _ => True)
      (fun _ _ => True) :=
  wp_mono (wp_of_uses used fun _ permitted => ⟨permitted, fun _ _ => rfl⟩) (fun _ _ _ => trivial)
    fun _ _ _ => trivial

theorem matches_unknown (config : Config Pid Effect Reply Error World) :
    (keeping permits : Discipline Effect Reply Error Request _).Matches config
      fun pid => (config.process pid).map fun _ => none := by
  intro pid
  cases current : config.process pid with
  | none => simp only [current, Option.map_none]
  | some program =>
      simp only [current, Option.map_some]
      exact wp_keeping (Prog.uses_of_forall (by simp) program)

variable [DecidableEq Pid]

theorem trackAll_keeping {ghosts : Pid → Option (Option Request)} {pid : Pid}
    {trace : List (Label Pid Effect Reply Error Event Request)}
    (unbroken : ∀ request, .start pid request ∉ trace) :
    (keeping permits : Discipline Effect Reply Error Request _).trackAll ghosts trace pid =
        ghosts pid ∨
      (keeping permits : Discipline Effect Reply Error Request _).trackAll ghosts trace pid =
        none := by
  induction trace generalizing ghosts with
  | nil => exact .inl rfl
  | cons label rest ih =>
      have here : (keeping permits).track ghosts label pid = ghosts pid ∨
          (keeping permits).track ghosts label pid = none := by
        cases label with
        | start other request =>
            have apart : pid ≠ other := fun same => unbroken request (by simp [same])
            exact .inl (Function.update_of_ne apart _ _)
        | answer other effect reply =>
            by_cases same : pid = other
            · subst same
              simp [track, keeping]
            · exact .inl (Function.update_of_ne same _ _)
        | finish other | fail other error | crash other =>
            by_cases same : pid = other
            · exact .inr (same ▸ Function.update_self ..)
            · exact .inl (Function.update_of_ne same _ _)
        | environment event => exact .inl rfl
      rcases ih fun request later => unbroken request (List.mem_cons_of_mem _ later) with
        same | gone
      · rw [trackAll, same]
        exact here
      · exact .inr gone

variable [DecidableEq Effect] [DecidableEq Error]
variable {S : System Effect Reply Error World Event Request}

theorem permitted_since (entries : ∀ request, (S.entry request).Uses (permits request))
    {config middle after : Config Pid Effect Reply Error World}
    {first since : List (Label Pid Effect Reply Error Event Request)} {pid : Pid}
    {request : Request} {effect : Effect} {reply : Except Error (Reply effect)}
    (reached : S.run config (first ++ .start pid request :: since) = some middle)
    (unbroken : ∀ other, .start pid other ∉ since)
    (stepped : S.step middle (.answer pid effect reply) = some after) :
    permits request effect := by
  have follows : ∀ request, (keeping permits : Discipline Effect Reply Error Request _).wp
      (some request) (S.entry request) (fun _ _ => True) (fun _ _ => True) := by
    intro request
    refine wp_keeping ((entries request).mono fun effect permitted other same => ?_)
    rwa [← Option.some.inj same]
  have assumes (ghosts : Pid → Option (Option Request))
      (trace : List (Label Pid Effect Reply Error Event Request)) :
      (keeping permits : Discipline Effect Reply Error Request _).Assumes ghosts trace :=
    assumes_of_forall (fun _ _ _ _ _ => trivial) fun _ _ _ => trivial
  obtain ⟨begun, ranFirst, ranSince⟩ := S.run_append.mp reached
  have matched := matches_run follows (matches_unknown config) (assumes _ first) ranFirst
  have going := matches_run follows matched (assumes _ (.start pid request :: since)) ranSince
  obtain ⟨asked, current, allowed, _⟩ := matches_answer going stepped
  rcases trackAll_keeping unbroken with same | gone
  · rw [trackAll, same, track, Function.update_self] at current
    exact allowed request (Option.some.inj current).symm
  · rw [trackAll, gone] at current
    cases current

end Requests

theorem foldl_said {Label Saying : Type} (said : Label → Option Saying) (trace : List Label)
    (before : List Saying) :
    trace.foldl (fun earlier label => earlier ++ (said label).toList) before =
      before ++ trace.filterMap said := by
  induction trace generalizing before with
  | nil => simp
  | cons label rest ih =>
      rw [List.foldl_cons, ih, List.filterMap_cons]
      cases said label <;> simp

end Discipline

end EffectProgram
