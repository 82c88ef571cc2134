import Mathlib.Data.List.Induction
import Vix75.ProgramResults

/-! What each process of a system has been asked for and answered since: properties of every
path through a program, read off the trace of any interleaving. And a program that runs within
another one, with the errors of its own. Nothing here depends on what the effects are. -/

namespace EffectProgram

/-- What a process was started for, and the answers it has had since. -/
structure Story (Effect : Type) (Reply : Effect → Type) (Error Request : Type) where
  request : Request
  done : List (Σ effect : Effect, Except Error (Reply effect)) := []

section Stories

variable {Effect : Type} {Reply : Effect → Type} {Error Request World Event Pid : Type}

def Story.tell (story : Story Effect Reply Error Request) (effect : Effect)
    (reply : Except Error (Reply effect)) : Story Effect Reply Error Request :=
  { story with done := story.done ++ [⟨effect, reply⟩] }

variable {story : Story Effect Reply Error Request} {effect : Effect}
  {reply : Except Error (Reply effect)}

@[simp] theorem Story.request_tell : (story.tell effect reply).request = story.request := rfl

@[simp] theorem Story.mem_tell {entry : Σ effect : Effect, Except Error (Reply effect)} :
    entry ∈ (story.tell effect reply).done ↔ entry ∈ story.done ∨ entry = ⟨effect, reply⟩ := by
  simp [Story.tell]

/-- Each effect is asked for only in a story that permits it, as long as the answers are such as
`believes` says. -/
def telling (believes : (effect : Effect) → Except Error (Reply effect) → Prop)
    (permits : Story Effect Reply Error Request → Effect → Prop) :
    Discipline Effect Reply Error Request (Story Effect Reply Error Request) where
  initial := fun request => { request := request }
  allowed := permits
  assumed := fun _ => believes
  advance := Story.tell
  finished := fun _ => True
  failed := fun _ _ => True
  crashes := fun _ => True

variable [DecidableEq Pid]

def stories (trace : List (Label Pid Effect Reply Error Event Request)) :
    Pid → Option (Story Effect Reply Error Request) :=
  (telling (fun _ _ => True) fun _ _ => True).trackAll (fun _ => none) trace

variable {believes : (effect : Effect) → Except Error (Reply effect) → Prop}
  {permits : Story Effect Reply Error Request → Effect → Prop}

theorem trackAll_telling (ghosts : Pid → Option (Story Effect Reply Error Request))
    (trace : List (Label Pid Effect Reply Error Event Request)) :
    (telling believes permits).trackAll ghosts trace =
      (telling (fun _ _ => True) fun _ _ => True).trackAll ghosts trace := by
  induction trace generalizing ghosts with
  | nil => rfl
  | cons label rest ih =>
      have same : (telling believes permits).track ghosts label =
          (telling (fun _ _ => True) fun _ _ => True).track ghosts label := by
        cases label <;> rfl
      rw [Discipline.trackAll, Discipline.trackAll, same, ih]

theorem stories_concat (trace : List (Label Pid Effect Reply Error Event Request))
    (label : Label Pid Effect Reply Error Event Request) :
    stories (trace ++ [label]) =
      (telling (fun _ _ => True) fun _ _ => True).track (stories trace) label := by
  unfold stories
  generalize (fun _ => none : Pid → Option (Story Effect Reply Error Request)) = ghosts
  induction trace generalizing ghosts with
  | nil => rfl
  | cons first rest ih => exact ih _

theorem started_of_story {trace : List (Label Pid Effect Reply Error Event Request)} {pid : Pid}
    {story : Story Effect Reply Error Request} (told : stories trace pid = some story) :
    ∃ before later, trace = before ++ .start pid story.request :: later ∧
      ∀ entry ∈ story.done, .answer pid entry.1 entry.2 ∈ later := by
  induction trace using List.reverseRecOn generalizing story with
  | nil => simp [stories, Discipline.trackAll] at told
  | append_singleton trace label ih =>
      rw [stories_concat] at told
      have kept : stories trace pid = some story →
          ∃ before later, trace ++ [label] = before ++ .start pid story.request :: later ∧
            ∀ entry ∈ story.done, .answer pid entry.1 entry.2 ∈ later := by
        intro told
        obtain ⟨before, later, rfl, answers⟩ := ih told
        refine ⟨before, later ++ [label], by simp, fun entry member => ?_⟩
        exact List.mem_append_left _ (answers entry member)
      cases label with
      | start other request =>
          by_cases same : other = pid
          · subst same
            simp only [Discipline.track, Function.update_self, Option.some.injEq] at told
            subst told
            exact ⟨trace, [], rfl, by simp [telling]⟩
          · simp only [Discipline.track, Function.update_of_ne (Ne.symm same)] at told
            exact kept told
      | answer other effect reply =>
          by_cases same : other = pid
          · subst same
            simp only [Discipline.track, Function.update_self, Option.map_eq_some_iff] at told
            obtain ⟨earlier, told, rfl⟩ := told
            obtain ⟨before, later, rfl, answers⟩ := ih told
            refine ⟨before, later ++ [.answer other effect reply], by simp [telling], ?_⟩
            intro entry member
            rcases Story.mem_tell.mp member with old | rfl
            · exact List.mem_append_left _ (answers entry old)
            · simp
          · simp only [Discipline.track, Function.update_of_ne (Ne.symm same)] at told
            exact kept told
      | finish other =>
          by_cases same : other = pid
          · simp [Discipline.track, same] at told
          · simp only [Discipline.track, Function.update_of_ne (Ne.symm same)] at told
            exact kept told
      | fail other error =>
          by_cases same : other = pid
          · simp [Discipline.track, same] at told
          · simp only [Discipline.track, Function.update_of_ne (Ne.symm same)] at told
            exact kept told
      | crash other =>
          by_cases same : other = pid
          · simp [Discipline.track, same] at told
          · simp only [Discipline.track, Function.update_of_ne (Ne.symm same)] at told
            exact kept told
      | environment event => exact kept told

variable [DecidableEq Effect] [DecidableEq Error]
variable {S : System Effect Reply Error World Event Request}

/-- When every path through every program keeps to `permits`, so does every process in every
interleaving. -/
theorem permitted_of_run
    (answers : ∀ world effect reply after, S.answer world effect reply = some after →
      believes effect reply)
    (follows : ∀ request, (telling believes permits).wp { request := request } (S.entry request)
      (fun _ _ => True) fun _ _ => True)
    {world : World} {after : Config Pid Effect Reply Error World} {pid : Pid}
    {before later : List (Label Pid Effect Reply Error Event Request)}
    (ran : S.run ⟨world, fun _ => none⟩ (before ++ .answer pid effect reply :: later) =
      some after) :
    ∃ story, stories before pid = some story ∧ permits story effect := by
  obtain ⟨middle, reached, onward⟩ := S.run_append.mp ran
  obtain ⟨next, stepped, _⟩ := Option.bind_eq_some_iff.mp onward
  have assumed : (telling believes permits).Assumes (fun _ : Pid => none) before :=
    Discipline.assumes_of_run (fun world _ effect reply after => answers world effect reply after)
      (fun _ => trivial) reached
  have held := Discipline.matches_run follows (Discipline.matches_initial world) assumed reached
  obtain ⟨story, told, permitted, _⟩ := Discipline.matches_answer held stepped
  rw [trackAll_telling] at told
  exact ⟨story, told, permitted⟩

end Stories

/-! Programs with errors of their own -/

/-- How a program's effects and errors are found among those of its caller. -/
structure Hoisting (Effect : Type) (Reply : Effect → Type) (Error Wider : Type)
    (Answer : Wider → Type) (Fault : Type) where
  embed : Effect → Wider
  value : ∀ effect, Answer (embed effect) → Reply effect
  fault : Error → Fault
  recognise : Fault → Option Error
  faithful : ∀ fault' error, recognise fault' = some error → fault error = fault'

namespace Prog

variable {Effect Wider : Type} {Reply : Effect → Type} {Answer : Wider → Type}
variable {Error Fault α β : Type} (hoisting : Hoisting Effect Reply Error Wider Answer Fault)

def hoist : Prog Effect Reply Error α → Prog Wider Answer Fault α
  | .done value => .done value
  | .raise error => .raise (hoisting.fault error)
  | .call effect next => .call (hoisting.embed effect) fun
      | .ok reply => hoist (next (.ok (hoisting.value effect reply)))
      | .error fault => match hoisting.recognise fault with
          | some error => hoist (next (.error error))
          | none => .raise fault

theorem hoist_bind (program : Prog Effect Reply Error α)
    (rest : α → Prog Effect Reply Error β) :
    (program >>= rest).hoist hoisting =
      program.hoist hoisting >>= fun value => (rest value).hoist hoisting := by
  induction program with
  | done value => rfl
  | raise error => rfl
  | call effect next ih =>
      simp only [call_bind, hoist]
      congr 1
      funext reply
      cases reply with
      | ok value => exact ih _
      | error fault =>
          dsimp only
          cases hoisting.recognise fault with
          | some error => exact ih _
          | none => rfl

theorem uses_hoist {hoisting : Hoisting Effect Reply Error Wider Answer Fault}
    {permitted : Wider → Prop} {program : Prog Effect Reply Error α}
    (used : program.Uses fun effect => permitted (hoisting.embed effect)) :
    (program.hoist hoisting).Uses permitted := by
  induction program with
  | done value => trivial
  | raise error => trivial
  | call effect next ih =>
      rw [hoist]
      refine ⟨used.1, fun reply => ?_⟩
      cases reply with
      | ok value => exact ih _ (used.2 _)
      | error fault =>
          dsimp only
          cases hoisting.recognise fault with
          | some error => exact ih _ (used.2 _)
          | none => trivial

end Prog

namespace Discipline

variable {Effect Wider : Type} {Reply : Effect → Type} {Answer : Wider → Type}
variable {Error Fault Request Ghost α : Type}
variable {hoisting : Hoisting Effect Reply Error Wider Answer Fault}

theorem wp_hoist_perform_bind {D : Discipline Wider Answer Fault Request Ghost} {ghost : Ghost}
    {effect : Effect} {rest : Reply effect → Prog Effect Reply Error α}
    {returned : Ghost → α → Prop} {raised : Ghost → Fault → Prop}
    (allowed : D.allowed ghost (hoisting.embed effect))
    (failing : ∀ fault, D.assumed ghost (hoisting.embed effect) (.error fault) →
      raised (D.advance ghost (hoisting.embed effect) (.error fault)) fault)
    (onward : ∀ reply, D.assumed ghost (hoisting.embed effect) (.ok reply) →
      D.wp (D.advance ghost (hoisting.embed effect) (.ok reply))
        ((rest (hoisting.value effect reply)).hoist hoisting) returned raised) :
    D.wp ghost ((Prog.perform effect >>= rest).hoist hoisting) returned raised := by
  rw [Prog.perform, Prog.call_bind, Prog.hoist, wp_call]
  refine ⟨allowed, fun reply assumed => ?_⟩
  cases reply with
  | ok value => exact onward value assumed
  | error fault =>
      have raises := failing fault assumed
      dsimp only
      cases known : hoisting.recognise fault with
      | none => exact raises
      | some error =>
          change raised _ (hoisting.fault error)
          rw [hoisting.faithful fault error known]
          exact raises

end Discipline

end EffectProgram
