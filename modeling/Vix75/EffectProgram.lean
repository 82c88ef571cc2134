import Mathlib.Logic.Function.Basic

/-! Sequential programs that await one effect at a time, an assume-guarantee
calculus for them, and all interleavings of any number of them over one shared
world. Nothing here depends on what the effects are. -/

namespace EffectProgram

/-- Every awaited effect may be answered with a reply or with an exception. -/
inductive Prog (Effect : Type) (Reply : Effect → Type) (Error α : Type) : Type where
  | done (value : α)
  | raise (error : Error)
  | call (effect : Effect) (next : Except Error (Reply effect) → Prog Effect Reply Error α)

namespace Prog

variable {Effect : Type} {Reply : Effect → Type} {Error α β : Type}

def bind : Prog Effect Reply Error α → (α → Prog Effect Reply Error β) →
    Prog Effect Reply Error β
  | .done value, rest => rest value
  | .raise error, _ => .raise error
  | .call effect next, rest => .call effect fun reply => (next reply).bind rest

instance : Monad (Prog Effect Reply Error) where
  pure := .done
  bind := bind

def perform (effect : Effect) : Prog Effect Reply Error (Reply effect) :=
  .call effect fun
    | .ok value => .done value
    | .error error => .raise error

def ofExcept : Except Error α → Prog Effect Reply Error α
  | .ok value => .done value
  | .error error => .raise error

def rescue (program : Prog Effect Reply Error α)
    (recover : Error → Prog Effect Reply Error α) : Prog Effect Reply Error α :=
  match program with
  | .done value => .done value
  | .raise error => recover error
  | .call effect next => .call effect fun reply => (next reply).rescue recover

def forEach {ι : Type} (items : List ι) (body : ι → Prog Effect Reply Error Unit) :
    Prog Effect Reply Error Unit :=
  match items with
  | [] => .done ()
  | item :: rest => body item >>= fun _ => forEach rest body

def lift {Wider : Type} {Answer : Wider → Type} (embed : Effect → Wider)
    (back : ∀ effect, Except Error (Answer (embed effect)) → Except Error (Reply effect)) :
    Prog Effect Reply Error α → Prog Wider Answer Error α
  | .done value => .done value
  | .raise error => .raise error
  | .call effect next =>
      .call (embed effect) fun reply => (next (back effect reply)).lift embed back

def eval {σ : Type} (respond : σ → (effect : Effect) → Except Error (Reply effect) × σ) :
    σ → Prog Effect Reply Error α → Except Error α × σ
  | state, .done value => (.ok value, state)
  | state, .raise error => (.error error, state)
  | state, .call effect next =>
      let answered := respond state effect
      eval respond answered.2 (next answered.1)

@[simp] theorem pure_eq (value : α) :
    (pure value : Prog Effect Reply Error α) = .done value := rfl

@[simp] theorem done_bind (value : α) (rest : α → Prog Effect Reply Error β) :
    (Prog.done value >>= rest) = rest value := rfl

@[simp] theorem ofExcept_ok (value : α) :
    (ofExcept (.ok value) : Prog Effect Reply Error α) = .done value := rfl

@[simp] theorem ofExcept_error (error : Error) :
    (ofExcept (.error error) : Prog Effect Reply Error α) = .raise error := rfl

@[simp] theorem raise_bind (error : Error) (rest : α → Prog Effect Reply Error β) :
    (Prog.raise error >>= rest) = .raise error := rfl

@[simp] theorem call_bind (effect : Effect)
    (next : Except Error (Reply effect) → Prog Effect Reply Error α)
    (rest : α → Prog Effect Reply Error β) :
    (Prog.call effect next >>= rest) = .call effect fun reply => next reply >>= rest := rfl

section Eval

variable {σ : Type} (respond : σ → (effect : Effect) → Except Error (Reply effect) × σ)

@[simp] theorem eval_done (state : σ) (value : α) :
    eval respond state (.done value : Prog Effect Reply Error α) = (.ok value, state) := rfl

@[simp] theorem eval_raise (state : σ) (error : Error) :
    eval respond state (.raise error : Prog Effect Reply Error α) = (.error error, state) := rfl

@[simp] theorem eval_perform_bind (state : σ) (effect : Effect)
    (rest : Reply effect → Prog Effect Reply Error β) :
    eval respond state (perform effect >>= rest) =
      match respond state effect with
      | (.ok value, after) => eval respond after (rest value)
      | (.error error, after) => (.error error, after) := by
  change eval respond (respond state effect).2
    ((match (respond state effect).1 with
      | .ok value => Prog.done value
      | .error error => Prog.raise error) >>= rest) = _
  rcases respond state effect with ⟨answered, after⟩
  cases answered <;> rfl

theorem eval_bind (state : σ) (program : Prog Effect Reply Error α)
    (rest : α → Prog Effect Reply Error β) :
    eval respond state (program >>= rest) =
      match eval respond state program with
      | (.ok value, after) => eval respond after (rest value)
      | (.error error, after) => (.error error, after) := by
  induction program generalizing state with
  | done value => rfl
  | raise error => rfl
  | call effect next ih =>
      exact ih (respond state effect).1 (respond state effect).2

end Eval

section Uses

variable {permitted : Effect → Prop}

def Uses (permitted : Effect → Prop) : Prog Effect Reply Error α → Prop
  | .done _ => True
  | .raise _ => True
  | .call effect next => permitted effect ∧ ∀ reply, Uses permitted (next reply)

theorem uses_perform {effect : Effect} (here : permitted effect) :
    (perform effect : Prog Effect Reply Error (Reply effect)).Uses permitted := by
  refine ⟨here, ?_⟩
  rintro (error | value) <;> trivial

theorem uses_ofExcept (result : Except Error α) :
    (ofExcept result : Prog Effect Reply Error α).Uses permitted := by
  cases result <;> trivial

theorem uses_bind {program : Prog Effect Reply Error α} {rest : α → Prog Effect Reply Error β}
    (first : program.Uses permitted) (later : ∀ value, (rest value).Uses permitted) :
    (program >>= rest).Uses permitted := by
  induction program with
  | done value => exact later value
  | raise error => trivial
  | call effect next ih => exact ⟨first.1, fun reply => ih reply (first.2 reply)⟩

theorem uses_rescue {program : Prog Effect Reply Error α}
    {recover : Error → Prog Effect Reply Error α}
    (first : program.Uses permitted) (later : ∀ error, (recover error).Uses permitted) :
    (program.rescue recover).Uses permitted := by
  induction program with
  | done value => trivial
  | raise error => exact later error
  | call effect next ih => exact ⟨first.1, fun reply => ih reply (first.2 reply)⟩

theorem uses_forEach {ι : Type} {items : List ι} {body : ι → Prog Effect Reply Error Unit}
    (each : ∀ item, (body item).Uses permitted) : (forEach items body).Uses permitted := by
  induction items with
  | nil => trivial
  | cons item rest ih => exact uses_bind (each item) fun _ => ih

theorem uses_lift {Wider : Type} {Answer : Wider → Type} {embed : Effect → Wider}
    {back : ∀ effect, Except Error (Answer (embed effect)) → Except Error (Reply effect)}
    {permitted : Wider → Prop} (all : ∀ effect, permitted (embed effect))
    (program : Prog Effect Reply Error α) : (program.lift embed back).Uses permitted := by
  induction program with
  | done value => trivial
  | raise error => trivial
  | call effect next ih => exact ⟨all effect, fun reply => ih (back effect reply)⟩

theorem uses_of_forall (all : ∀ effect, permitted effect) (program : Prog Effect Reply Error α) :
    program.Uses permitted := by
  induction program with
  | done value => trivial
  | raise error => trivial
  | call effect next ih => exact ⟨all effect, ih⟩

theorem Uses.mono {wider : Effect → Prop} {program : Prog Effect Reply Error α}
    (used : program.Uses permitted) (implies : ∀ effect, permitted effect → wider effect) :
    program.Uses wider := by
  induction program with
  | done value => trivial
  | raise error => trivial
  | call effect next ih =>
      exact ⟨implies effect used.1, fun reply => ih reply (used.2 reply)⟩

end Uses

end Prog

/-- A typestate for one kind of process. The ghost value is a history variable: it
records what the process has done so far, the effects it is allowed next, and the
answers that are assumed of its environment. -/
structure Discipline (Effect : Type) (Reply : Effect → Type) (Error Request Ghost : Type) where
  initial : Request → Ghost
  allowed : Ghost → Effect → Prop
  assumed : Ghost → (effect : Effect) → Except Error (Reply effect) → Prop := fun _ _ _ => True
  advance : Ghost → (effect : Effect) → Except Error (Reply effect) → Ghost
  finished : Ghost → Prop := fun _ => True
  failed : Ghost → Error → Prop := fun _ _ => True
  crashes : Ghost → Prop := fun _ => True

namespace Discipline

variable {Effect : Type} {Reply : Effect → Type} {Error Request Ghost α β : Type}
variable (D : Discipline Effect Reply Error Request Ghost)

/-- Weakest precondition: along every assumed answer the program performs allowed
effects only, and ends in `returned` or in `raised`. -/
def wp : Ghost → Prog Effect Reply Error α → (Ghost → α → Prop) → (Ghost → Error → Prop) → Prop
  | ghost, .done value, returned, _ => returned ghost value
  | ghost, .raise error, _, raised => raised ghost error
  | ghost, .call effect next, returned, raised => D.allowed ghost effect ∧
      ∀ reply, D.assumed ghost effect reply →
        wp (D.advance ghost effect reply) (next reply) returned raised

variable {D} {ghost : Ghost} {returned : Ghost → α → Prop} {raised : Ghost → Error → Prop}

@[simp] theorem wp_done {value : α} :
    D.wp ghost (.done value) returned raised ↔ returned ghost value := Iff.rfl

@[simp] theorem wp_raise {error : Error} :
    D.wp ghost (.raise error) returned raised ↔ raised ghost error := Iff.rfl

theorem wp_ofExcept {result : Except Error α}
    (value : ∀ value, result = .ok value → returned ghost value)
    (error : ∀ error, result = .error error → raised ghost error) :
    D.wp ghost (Prog.ofExcept result) returned raised := by
  cases result with
  | ok result => exact value result rfl
  | error problem => exact error problem rfl

theorem wp_call {effect : Effect}
    {next : Except Error (Reply effect) → Prog Effect Reply Error α} :
    D.wp ghost (.call effect next) returned raised ↔ D.allowed ghost effect ∧
      ∀ reply, D.assumed ghost effect reply →
        D.wp (D.advance ghost effect reply) (next reply) returned raised := Iff.rfl

theorem wp_mono {weaker : Ghost → α → Prop} {weakerRaised : Ghost → Error → Prop}
    {program : Prog Effect Reply Error α}
    (holds : D.wp ghost program returned raised)
    (value : ∀ after result, returned after result → weaker after result)
    (error : ∀ after problem, raised after problem → weakerRaised after problem) :
    D.wp ghost program weaker weakerRaised := by
  induction program generalizing ghost with
  | done result => exact value ghost result holds
  | raise problem => exact error ghost problem holds
  | call effect next ih =>
      exact ⟨holds.1, fun reply assumed => ih reply (holds.2 reply assumed)⟩

theorem wp_bind {program : Prog Effect Reply Error α} {rest : α → Prog Effect Reply Error β}
    {returned : Ghost → β → Prop} :
    D.wp ghost (program >>= rest) returned raised ↔
      D.wp ghost program (fun after value => D.wp after (rest value) returned raised) raised := by
  induction program generalizing ghost with
  | done value => exact Iff.rfl
  | raise error => exact Iff.rfl
  | call effect next ih =>
      rw [Prog.call_bind, wp_call, wp_call]
      exact and_congr_right fun _ => forall₂_congr fun reply _ => ih reply

theorem wp_seq {program : Prog Effect Reply Error α} {rest : α → Prog Effect Reply Error β}
    {returned : Ghost → β → Prop} (middle : Ghost → α → Prop)
    (first : D.wp ghost program middle raised)
    (later : ∀ after value, middle after value → D.wp after (rest value) returned raised) :
    D.wp ghost (program >>= rest) returned raised :=
  wp_bind.mpr (wp_mono first later fun _ _ held => held)

theorem wp_perform {effect : Effect} {returned : Ghost → Reply effect → Prop} :
    D.wp ghost (Prog.perform effect) returned raised ↔ D.allowed ghost effect ∧
      (∀ value, D.assumed ghost effect (.ok value) →
        returned (D.advance ghost effect (.ok value)) value) ∧
      ∀ error, D.assumed ghost effect (.error error) →
        raised (D.advance ghost effect (.error error)) error := by
  constructor
  · rintro ⟨allowed, answers⟩
    exact ⟨allowed, fun value => answers (.ok value), fun error => answers (.error error)⟩
  · rintro ⟨allowed, values, errors⟩
    refine ⟨allowed, ?_⟩
    rintro (error | value) assumed
    · exact errors error assumed
    · exact values value assumed

theorem wp_perform_bind {effect : Effect} {rest : Reply effect → Prog Effect Reply Error β}
    {returned : Ghost → β → Prop} (allowed : D.allowed ghost effect)
    (errors : ∀ error, D.assumed ghost effect (.error error) →
      raised (D.advance ghost effect (.error error)) error)
    (values : ∀ value, D.assumed ghost effect (.ok value) →
      D.wp (D.advance ghost effect (.ok value)) (rest value) returned raised) :
    D.wp ghost (Prog.perform effect >>= rest) returned raised := by
  rw [wp_bind, wp_perform]
  exact ⟨allowed, values, errors⟩

theorem wp_rescue {program : Prog Effect Reply Error α}
    {recover : Error → Prog Effect Reply Error α} :
    D.wp ghost (program.rescue recover) returned raised ↔
      D.wp ghost program returned
        (fun after error => D.wp after (recover error) returned raised) := by
  induction program generalizing ghost with
  | done value => exact Iff.rfl
  | raise error => exact Iff.rfl
  | call effect next ih =>
      rw [Prog.rescue, wp_call, wp_call]
      exact and_congr_right fun _ => forall₂_congr fun reply _ => ih reply

theorem wp_lift {Wider : Type} {Answer : Wider → Type} {WiderRequest WiderGhost : Type}
    (W : Discipline Wider Answer Error WiderRequest WiderGhost) (place : Ghost → WiderGhost)
    {embed : Effect → Wider}
    {back : ∀ effect, Except Error (Answer (embed effect)) → Except Error (Reply effect)}
    {program : Prog Effect Reply Error α}
    (allowed : ∀ ghost effect, D.allowed ghost effect → W.allowed (place ghost) (embed effect))
    (assumed : ∀ ghost effect reply, W.assumed (place ghost) (embed effect) reply →
      D.assumed ghost effect (back effect reply))
    (advance : ∀ ghost effect reply, W.advance (place ghost) (embed effect) reply =
      place (D.advance ghost effect (back effect reply)))
    (holds : D.wp ghost program returned raised) :
    W.wp (place ghost) (program.lift embed back)
      (fun after value => ∃ inner, after = place inner ∧ returned inner value)
      (fun after error => ∃ inner, after = place inner ∧ raised inner error) := by
  induction program generalizing ghost with
  | done value => exact ⟨ghost, rfl, holds⟩
  | raise error => exact ⟨ghost, rfl, holds⟩
  | call effect next ih =>
      refine ⟨allowed ghost effect holds.1, fun reply given => ?_⟩
      rw [advance]
      exact ih (back effect reply) (holds.2 (back effect reply) (assumed ghost effect reply given))

theorem wp_of_uses {permitted : Effect → Prop} {program : Prog Effect Reply Error α}
    (used : program.Uses permitted)
    (inert : ∀ effect, permitted effect → D.allowed ghost effect ∧
      ∀ reply, D.assumed ghost effect reply → D.advance ghost effect reply = ghost) :
    D.wp ghost program (fun after _ => after = ghost) (fun after _ => after = ghost) := by
  induction program with
  | done value => rfl
  | raise error => rfl
  | call effect next ih =>
      have here := inert effect used.1
      refine ⟨here.1, fun reply assumed => ?_⟩
      rw [here.2 reply assumed]
      exact ih reply (used.2 reply)

theorem wp_forEach {ι : Type} {items : List ι} {body : ι → Prog Effect Reply Error Unit}
    (invariant : List ι → Ghost → Prop) (start : invariant items ghost)
    (step : ∀ item rest current, invariant (item :: rest) current →
      D.wp current (body item) (fun after _ => invariant rest after) raised) :
    D.wp ghost (Prog.forEach items body) (fun after _ => invariant [] after) raised := by
  induction items generalizing ghost with
  | nil => exact start
  | cons item rest ih =>
      rw [Prog.forEach, wp_bind]
      exact wp_mono (step item rest ghost start) (fun after _ held => ih held)
        (fun _ _ held => held)

end Discipline

/-! Interleavings. A label says which process moves and how the world answered it, so
that a run is a computable function of its trace. -/

inductive Label (Pid Effect : Type) (Reply : Effect → Type) (Error Event Request : Type) where
  | start (pid : Pid) (request : Request)
  | answer (pid : Pid) (effect : Effect) (reply : Except Error (Reply effect))
  | finish (pid : Pid)
  | fail (pid : Pid) (error : Error)
  | crash (pid : Pid)
  | environment (event : Event)

/-- `answer` gives the world after an answered effect, and `none` to an answer that
the world cannot give. -/
structure System (Effect : Type) (Reply : Effect → Type) (Error World Event Request : Type) where
  entry : Request → Prog Effect Reply Error Unit
  answer : World → (effect : Effect) → Except Error (Reply effect) → Option World
  environment : World → Event → Option World

structure Config (Pid Effect : Type) (Reply : Effect → Type) (Error World : Type) where
  world : World
  process : Pid → Option (Prog Effect Reply Error Unit) := fun _ => none

section Interleaving

variable {Pid Effect : Type} {Reply : Effect → Type} {Error World Event Request Ghost : Type}

namespace System

variable [DecidableEq Pid] [DecidableEq Effect] [DecidableEq Error]
variable (S : System Effect Reply Error World Event Request)

def step (config : Config Pid Effect Reply Error World) :
    Label Pid Effect Reply Error Event Request → Option (Config Pid Effect Reply Error World)
  | .start pid request =>
      match config.process pid with
      | none => some { config with
          process := Function.update config.process pid (some (S.entry request)) }
      | some _ => none
  | .answer pid effect reply =>
      match config.process pid with
      | some (.call awaited next) =>
          if same : effect = awaited then
            (S.answer config.world effect reply).map fun world => {
              world := world
              process := Function.update config.process pid (some (next (same ▸ reply))) }
          else none
      | _ => none
  | .finish pid =>
      match config.process pid with
      | some (.done ()) => some { config with
          process := Function.update config.process pid none }
      | _ => none
  | .fail pid error =>
      match config.process pid with
      | some (.raise raised) =>
          if error = raised then
            some { config with process := Function.update config.process pid none }
          else none
      | _ => none
  | .crash pid =>
      match config.process pid with
      | some _ => some { config with process := Function.update config.process pid none }
      | none => none
  | .environment event =>
      (S.environment config.world event).map fun world => { config with world := world }

def run (config : Config Pid Effect Reply Error World) :
    List (Label Pid Effect Reply Error Event Request) →
      Option (Config Pid Effect Reply Error World)
  | [] => some config
  | label :: rest => (S.step config label).bind fun after => run after rest

def Changes (world after : World) : Label Pid Effect Reply Error Event Request → Prop
  | .answer _ effect reply => S.answer world effect reply = some after
  | .environment event => S.environment world event = some after
  | _ => after = world

theorem changes_of_step {config after : Config Pid Effect Reply Error World}
    {label : Label Pid Effect Reply Error Event Request}
    (stepped : S.step config label = some after) :
    S.Changes config.world after.world label := by
  cases label with
  | start pid request =>
      simp only [step] at stepped
      split at stepped
      · obtain rfl := Option.some.inj stepped
        rfl
      · simp at stepped
  | answer pid effect reply =>
      simp only [step] at stepped
      split at stepped
      · split at stepped
        · rename_i same
          subst same
          obtain ⟨world, answered, rfl⟩ := Option.map_eq_some_iff.mp stepped
          exact answered
        · simp at stepped
      · simp at stepped
  | finish pid =>
      simp only [step] at stepped
      split at stepped
      · obtain rfl := Option.some.inj stepped
        rfl
      · simp at stepped
  | fail pid error =>
      simp only [step] at stepped
      split at stepped
      · split at stepped
        · obtain rfl := Option.some.inj stepped
          rfl
        · simp at stepped
      · simp at stepped
  | crash pid =>
      simp only [step] at stepped
      split at stepped
      · obtain rfl := Option.some.inj stepped
        rfl
      · simp at stepped
  | environment event =>
      obtain ⟨world, happened, rfl⟩ := Option.map_eq_some_iff.mp stepped
      exact happened

theorem run_invariant (Inv : World → Prop) {config after : Config Pid Effect Reply Error World}
    {trace : List (Label Pid Effect Reply Error Event Request)}
    (answer : ∀ world effect reply after, Inv world → S.answer world effect reply = some after →
      Inv after)
    (environment : ∀ world event after, Inv world → S.environment world event = some after →
      Inv after)
    (ran : S.run config trace = some after) (start : Inv config.world) : Inv after.world := by
  induction trace generalizing config with
  | nil =>
      obtain rfl := Option.some.inj ran
      exact start
  | cons label rest ih =>
      obtain ⟨middle, stepped, ran⟩ := Option.bind_eq_some_iff.mp ran
      have moved := S.changes_of_step stepped
      refine ih ran ?_
      cases label with
      | answer pid effect reply => exact answer _ _ _ _ start moved
      | environment event => exact environment _ _ _ start moved
      | _ => exact moved ▸ start

theorem run_append {config after : Config Pid Effect Reply Error World}
    {first second : List (Label Pid Effect Reply Error Event Request)} :
    S.run config (first ++ second) = some after ↔
      ∃ middle, S.run config first = some middle ∧ S.run middle second = some after := by
  induction first generalizing config with
  | nil => simp [run]
  | cons label rest ih =>
      simp only [List.cons_append, run, Option.bind_eq_some_iff, ih]
      constructor
      · rintro ⟨next, stepped, middle, ranFirst, ranSecond⟩
        exact ⟨middle, ⟨next, stepped, ranFirst⟩, ranSecond⟩
      · rintro ⟨middle, ⟨next, stepped, ranFirst⟩, ranSecond⟩
        exact ⟨next, stepped, middle, ranFirst, ranSecond⟩

end System

namespace Discipline

variable (D : Discipline Effect Reply Error Request Ghost)

def Matches (config : Config Pid Effect Reply Error World) (ghosts : Pid → Option Ghost) : Prop :=
  ∀ pid, match config.process pid, ghosts pid with
    | none, none => True
    | some program, some ghost =>
        D.wp ghost program (fun after _ => D.finished after) D.failed
    | _, _ => False

variable {D} in
theorem matches_initial (world : World) :
    D.Matches (⟨world, fun _ : Pid => none⟩ : Config Pid Effect Reply Error World)
      (fun _ => none) := by
  intro pid
  trivial

variable [DecidableEq Pid]

def track (ghosts : Pid → Option Ghost) :
    Label Pid Effect Reply Error Event Request → Pid → Option Ghost
  | .start pid request => Function.update ghosts pid (some (D.initial request))
  | .answer pid effect reply =>
      Function.update ghosts pid ((ghosts pid).map fun ghost => D.advance ghost effect reply)
  | .finish pid => Function.update ghosts pid none
  | .fail pid _ => Function.update ghosts pid none
  | .crash pid => Function.update ghosts pid none
  | .environment _ => ghosts

def trackAll (ghosts : Pid → Option Ghost) :
    List (Label Pid Effect Reply Error Event Request) → Pid → Option Ghost
  | [] => ghosts
  | label :: rest => trackAll (D.track ghosts label) rest

def Assumed (ghosts : Pid → Option Ghost) :
    Label Pid Effect Reply Error Event Request → Prop
  | .answer pid effect reply => ∀ ghost, ghosts pid = some ghost → D.assumed ghost effect reply
  | .crash pid => ∀ ghost, ghosts pid = some ghost → D.crashes ghost
  | _ => True

def Assumes (ghosts : Pid → Option Ghost) :
    List (Label Pid Effect Reply Error Event Request) → Prop
  | [] => True
  | label :: rest => D.Assumed ghosts label ∧ Assumes (D.track ghosts label) rest

def Relies (rely : (Pid → Option Ghost) → Label Pid Effect Reply Error Event Request → Prop)
    (ghosts : Pid → Option Ghost) : List (Label Pid Effect Reply Error Event Request) → Prop
  | [] => True
  | label :: rest => rely ghosts label ∧ Relies rely (D.track ghosts label) rest

/-- The proof obligations of an invariant over the world and all ghost values. -/
structure Maintains (S : System Effect Reply Error World Event Request)
    (Inv : World → (Pid → Option Ghost) → Prop)
    (rely : (Pid → Option Ghost) → Label Pid Effect Reply Error Event Request → Prop :=
      fun _ _ => True) : Prop where
  follows : ∀ request, D.wp (D.initial request) (S.entry request)
    (fun after _ => D.finished after) D.failed
  start : ∀ world ghosts pid request, Inv world ghosts → ghosts pid = none →
    rely ghosts (.start pid request) →
    Inv world (Function.update ghosts pid (some (D.initial request)))
  answer : ∀ world ghosts pid ghost effect reply after, Inv world ghosts →
    ghosts pid = some ghost → D.allowed ghost effect → D.assumed ghost effect reply →
    rely ghosts (.answer pid effect reply) → S.answer world effect reply = some after →
    Inv after (Function.update ghosts pid (some (D.advance ghost effect reply)))
  finish : ∀ world ghosts pid ghost, Inv world ghosts → ghosts pid = some ghost →
    D.finished ghost → Inv world (Function.update ghosts pid none)
  fail : ∀ world ghosts pid ghost error, Inv world ghosts → ghosts pid = some ghost →
    D.failed ghost error → Inv world (Function.update ghosts pid none)
  crash : ∀ world ghosts pid ghost, Inv world ghosts → ghosts pid = some ghost →
    D.crashes ghost → Inv world (Function.update ghosts pid none)
  environment : ∀ world ghosts event after, Inv world ghosts →
    S.environment world event = some after → Inv after ghosts

variable {D}

theorem matches_update {config : Config Pid Effect Reply Error World}
    {ghosts : Pid → Option Ghost} {world : World} {pid : Pid}
    {program : Option (Prog Effect Reply Error Unit)} {ghost : Option Ghost}
    (held : D.Matches config ghosts)
    (here : match program, ghost with
      | none, none => True
      | some program, some ghost =>
          D.wp ghost program (fun after _ => D.finished after) D.failed
      | _, _ => False) :
    D.Matches ⟨world, Function.update config.process pid program⟩
      (Function.update ghosts pid ghost) := by
  intro other
  by_cases same : other = pid
  · subst same
    simpa using here
  · simpa [Function.update_of_ne same] using held other

theorem assumes_of_forall {ghosts : Pid → Option Ghost}
    {trace : List (Label Pid Effect Reply Error Event Request)}
    (answers : ∀ pid effect reply, .answer pid effect reply ∈ trace →
      ∀ ghost, D.assumed ghost effect reply)
    (crashes : ∀ pid, .crash pid ∈ trace → ∀ ghost, D.crashes ghost) :
    D.Assumes ghosts trace := by
  induction trace generalizing ghosts with
  | nil => trivial
  | cons label rest ih =>
      refine ⟨?_, ih (fun pid effect reply member => answers pid effect reply (by simp [member]))
        (fun pid member => crashes pid (by simp [member]))⟩
      cases label with
      | answer pid effect reply =>
          exact fun ghost _ => answers pid effect reply (by simp) ghost
      | crash pid => exact fun ghost _ => crashes pid (by simp) ghost
      | start => trivial
      | finish => trivial
      | fail => trivial
      | environment => trivial

theorem relies_of_forall {ghosts : Pid → Option Ghost}
    {rely : (Pid → Option Ghost) → Label Pid Effect Reply Error Event Request → Prop}
    {trace : List (Label Pid Effect Reply Error Event Request)}
    (each : ∀ label ∈ trace, ∀ ghosts, rely ghosts label) : D.Relies rely ghosts trace := by
  induction trace generalizing ghosts with
  | nil => trivial
  | cons label rest ih =>
      exact ⟨each label (by simp) ghosts, ih fun other member => each other (by simp [member])⟩

variable [DecidableEq Effect] [DecidableEq Error]
variable {rely : (Pid → Option Ghost) → Label Pid Effect Reply Error Event Request → Prop}

theorem matches_answer {S : System Effect Reply Error World Event Request}
    {config after : Config Pid Effect Reply Error World} {ghosts : Pid → Option Ghost}
    {pid : Pid} {effect : Effect} {reply : Except Error (Reply effect)}
    (held : D.Matches config ghosts)
    (stepped : S.step config (.answer pid effect reply) = some after) :
    ∃ ghost, ghosts pid = some ghost ∧ D.allowed ghost effect ∧
      S.answer config.world effect reply = some after.world ∧
      (D.assumed ghost effect reply → D.Matches after
        (Function.update ghosts pid (some (D.advance ghost effect reply)))) := by
  have here := held pid
  simp only [System.step] at stepped
  split at stepped
  · rename_i awaited next current
    cases ghostAt : ghosts pid with
    | none => simp [current, ghostAt] at here
    | some ghost =>
        simp only [current, ghostAt, wp_call] at here
        split at stepped
        · rename_i same
          subst same
          obtain ⟨world, answered, rfl⟩ := Option.map_eq_some_iff.mp stepped
          exact ⟨ghost, rfl, here.1, answered,
            fun given => matches_update held (here.2 reply given)⟩
        · simp at stepped
  · simp at stepped

inductive Moves (D : Discipline Effect Reply Error Request Ghost)
    (S : System Effect Reply Error World Event Request) (world : World)
    (ghosts : Pid → Option Ghost) : Label Pid Effect Reply Error Event Request → World → Prop
  | start (pid : Pid) (request : Request) (idle : ghosts pid = none) :
      Moves D S world ghosts (.start pid request) world
  | answer (pid : Pid) (ghost : Ghost) (effect : Effect) (reply : Except Error (Reply effect))
      (after : World) (current : ghosts pid = some ghost) (allowed : D.allowed ghost effect)
      (answered : S.answer world effect reply = some after) :
      Moves D S world ghosts (.answer pid effect reply) after
  | finish (pid : Pid) (ghost : Ghost) (current : ghosts pid = some ghost)
      (finished : D.finished ghost) : Moves D S world ghosts (.finish pid) world
  | fail (pid : Pid) (ghost : Ghost) (error : Error) (current : ghosts pid = some ghost)
      (failed : D.failed ghost error) : Moves D S world ghosts (.fail pid error) world
  | crash (pid : Pid) (ghost : Ghost) (current : ghosts pid = some ghost) :
      Moves D S world ghosts (.crash pid) world
  | environment (event : Event) (after : World)
      (happened : S.environment world event = some after) :
      Moves D S world ghosts (.environment event) after

theorem matches_step {S : System Effect Reply Error World Event Request}
    (follows : ∀ request, D.wp (D.initial request) (S.entry request)
      (fun after _ => D.finished after) D.failed)
    {config after : Config Pid Effect Reply Error World} {ghosts : Pid → Option Ghost}
    {label : Label Pid Effect Reply Error Event Request}
    (held : D.Matches config ghosts) (assumed : D.Assumed ghosts label)
    (stepped : S.step config label = some after) :
    D.Matches after (D.track ghosts label) ∧ D.Moves S config.world ghosts label after.world := by
  cases label with
  | start pid request =>
      have here := held pid
      cases current : config.process pid with
      | some program => simp [System.step, current] at stepped
      | none =>
          cases ghostAt : ghosts pid with
          | some ghost => simp [current, ghostAt] at here
          | none =>
              simp only [System.step, current, Option.some.injEq] at stepped
              subst stepped
              exact ⟨matches_update held (follows request), .start pid request ghostAt⟩
  | answer pid effect reply =>
      obtain ⟨ghost, ghostAt, allowed, answered, going⟩ := matches_answer held stepped
      have moved :=
        Moves.answer (D := D) pid ghost effect reply after.world ghostAt allowed answered
      exact ⟨by simpa [track, ghostAt] using going (assumed ghost ghostAt), moved⟩
  | finish pid =>
      have here := held pid
      simp only [System.step] at stepped
      split at stepped
      · rename_i current
        cases ghostAt : ghosts pid with
        | none => simp [current, ghostAt] at here
        | some ghost =>
            simp only [current, ghostAt, wp_done] at here
            simp only [Option.some.injEq] at stepped
            subst stepped
            exact ⟨matches_update held trivial, .finish pid ghost ghostAt here⟩
      · simp at stepped
  | fail pid error =>
      have here := held pid
      simp only [System.step] at stepped
      split at stepped
      · rename_i raised current
        cases ghostAt : ghosts pid with
        | none => simp [current, ghostAt] at here
        | some ghost =>
            simp only [current, ghostAt, wp_raise] at here
            split at stepped
            · rename_i same
              subst same
              simp only [Option.some.injEq] at stepped
              subst stepped
              exact ⟨matches_update held trivial, .fail pid ghost error ghostAt here⟩
            · simp at stepped
      · simp at stepped
  | crash pid =>
      have here := held pid
      simp only [System.step] at stepped
      split at stepped
      · rename_i program current
        cases ghostAt : ghosts pid with
        | none => simp [current, ghostAt] at here
        | some ghost =>
            simp only [Option.some.injEq] at stepped
            subst stepped
            exact ⟨matches_update held trivial, .crash pid ghost ghostAt⟩
      · simp at stepped
  | environment event =>
      obtain ⟨world, happened, rfl⟩ := Option.map_eq_some_iff.mp stepped
      exact ⟨held, .environment event world happened⟩

theorem Maintains.step {S : System Effect Reply Error World Event Request}
    {Inv : World → (Pid → Option Ghost) → Prop} (maintains : D.Maintains S Inv rely)
    {config after : Config Pid Effect Reply Error World} {ghosts : Pid → Option Ghost}
    {label : Label Pid Effect Reply Error Event Request}
    (held : D.Matches config ghosts) (invariant : Inv config.world ghosts)
    (assumed : D.Assumed ghosts label) (relied : rely ghosts label)
    (stepped : S.step config label = some after) :
    D.Matches after (D.track ghosts label) ∧ Inv after.world (D.track ghosts label) := by
  obtain ⟨matched, moved⟩ := matches_step maintains.follows held assumed stepped
  refine ⟨matched, ?_⟩
  generalize after.world = world at moved
  cases moved with
  | start pid request idle => exact maintains.start _ _ _ _ invariant idle relied
  | answer pid ghost effect reply world current allowed answered =>
      have kept := maintains.answer _ _ _ _ _ _ _ invariant current allowed
        (assumed ghost current) relied answered
      simpa [track, current] using kept
  | finish pid ghost current finished =>
      exact maintains.finish _ _ _ _ invariant current finished
  | fail pid ghost error current failed =>
      exact maintains.fail _ _ _ _ _ invariant current failed
  | crash pid ghost current =>
      exact maintains.crash _ _ _ _ invariant current (assumed ghost current)
  | environment event world happened => exact maintains.environment _ _ _ _ invariant happened

theorem Maintains.runUnder {S : System Effect Reply Error World Event Request}
    {Inv : World → (Pid → Option Ghost) → Prop} (maintains : D.Maintains S Inv rely)
    {config after : Config Pid Effect Reply Error World} {ghosts : Pid → Option Ghost}
    {trace : List (Label Pid Effect Reply Error Event Request)}
    (held : D.Matches config ghosts) (invariant : Inv config.world ghosts)
    (assumed : D.Assumes ghosts trace) (relied : D.Relies rely ghosts trace)
    (ran : S.run config trace = some after) :
    D.Matches after (D.trackAll ghosts trace) ∧ Inv after.world (D.trackAll ghosts trace) := by
  induction trace generalizing config ghosts with
  | nil =>
      simp only [System.run, Option.some.injEq] at ran
      subst ran
      exact ⟨held, invariant⟩
  | cons label rest ih =>
      obtain ⟨middle, stepped, ran⟩ := Option.bind_eq_some_iff.mp ran
      obtain ⟨heldMiddle, invariantMiddle⟩ :=
        maintains.step held invariant assumed.1 relied.1 stepped
      exact ih heldMiddle invariantMiddle assumed.2 relied.2 ran

theorem Maintains.run {S : System Effect Reply Error World Event Request}
    {Inv : World → (Pid → Option Ghost) → Prop} (maintains : D.Maintains S Inv)
    {config after : Config Pid Effect Reply Error World} {ghosts : Pid → Option Ghost}
    {trace : List (Label Pid Effect Reply Error Event Request)}
    (held : D.Matches config ghosts) (invariant : Inv config.world ghosts)
    (assumed : D.Assumes ghosts trace) (ran : S.run config trace = some after) :
    D.Matches after (D.trackAll ghosts trace) ∧ Inv after.world (D.trackAll ghosts trace) :=
  maintains.runUnder held invariant assumed (D.relies_of_forall fun _ _ _ => trivial) ran

/-- What the steps of a run are assumed to do, where `guard` sees the world and all ghost
values before each of them. -/
def Guarded (D : Discipline Effect Reply Error Request Ghost)
    (S : System Effect Reply Error World Event Request)
    (guard : World → (Pid → Option Ghost) → Label Pid Effect Reply Error Event Request → Prop)
    (config : Config Pid Effect Reply Error World) (ghosts : Pid → Option Ghost) :
    List (Label Pid Effect Reply Error Event Request) → Prop
  | [] => True
  | label :: rest => guard config.world ghosts label ∧
      ∀ after, S.step config label = some after →
        Guarded D S guard after (D.track ghosts label) rest

instance decidableGuarded {S : System Effect Reply Error World Event Request}
    {guard : World → (Pid → Option Ghost) → Label Pid Effect Reply Error Event Request → Prop}
    [decide : ∀ world ghosts label, Decidable (guard world ghosts label)] :
    ∀ (trace : List (Label Pid Effect Reply Error Event Request))
      (config : Config Pid Effect Reply Error World) (ghosts : Pid → Option Ghost),
      Decidable (D.Guarded S guard config ghosts trace)
  | [], _, _ => isTrue trivial
  | label :: rest, config, ghosts =>
      match stepped : S.step config label with
      | none => decidable_of_iff (guard config.world ghosts label) (by simp [Guarded, stepped])
      | some after =>
          have : Decidable (D.Guarded S guard after (D.track ghosts label) rest) :=
            decidableGuarded rest after _
          decidable_of_iff (guard config.world ghosts label ∧
            D.Guarded S guard after (D.track ghosts label) rest) (by simp [Guarded, stepped])

theorem guarded_of_forall {S : System Effect Reply Error World Event Request}
    {guard : World → (Pid → Option Ghost) → Label Pid Effect Reply Error Event Request → Prop}
    {config : Config Pid Effect Reply Error World} {ghosts : Pid → Option Ghost}
    {trace : List (Label Pid Effect Reply Error Event Request)}
    (each : ∀ label ∈ trace, ∀ world ghosts, guard world ghosts label) :
    D.Guarded S guard config ghosts trace := by
  induction trace generalizing config ghosts with
  | nil => trivial
  | cons label rest ih =>
      exact ⟨each label (by simp) _ _, fun after _ => ih fun other member =>
        each other (by simp [member])⟩

theorem Guarded.append {S : System Effect Reply Error World Event Request}
    {guard : World → (Pid → Option Ghost) → Label Pid Effect Reply Error Event Request → Prop}
    {config : Config Pid Effect Reply Error World} {ghosts : Pid → Option Ghost}
    {first second : List (Label Pid Effect Reply Error Event Request)}
    (guarded : D.Guarded S guard config ghosts first)
    (later : ∀ middle, S.run config first = some middle →
      D.Guarded S guard middle (D.trackAll ghosts first) second) :
    D.Guarded S guard config ghosts (first ++ second) := by
  induction first generalizing config ghosts with
  | nil => exact later config rfl
  | cons label rest ih =>
      refine ⟨guarded.1, fun after stepped => ih (guarded.2 after stepped) fun middle ran => ?_⟩
      exact later middle (Option.bind_eq_some_iff.mpr ⟨after, stepped, ran⟩)

theorem run_guarded {S : System Effect Reply Error World Event Request}
    {guard : World → (Pid → Option Ghost) → Label Pid Effect Reply Error Event Request → Prop}
    (Inv : World → (Pid → Option Ghost) → Prop)
    (follows : ∀ request, D.wp (D.initial request) (S.entry request)
      (fun after _ => D.finished after) D.failed)
    (preserves : ∀ world ghosts label after, Inv world ghosts → guard world ghosts label →
      D.Moves S world ghosts label after → Inv after (D.track ghosts label))
    {config after : Config Pid Effect Reply Error World} {ghosts : Pid → Option Ghost}
    {trace : List (Label Pid Effect Reply Error Event Request)}
    (held : D.Matches config ghosts) (invariant : Inv config.world ghosts)
    (assumed : D.Assumes ghosts trace) (guarded : D.Guarded S guard config ghosts trace)
    (ran : S.run config trace = some after) :
    D.Matches after (D.trackAll ghosts trace) ∧ Inv after.world (D.trackAll ghosts trace) := by
  induction trace generalizing config ghosts with
  | nil =>
      simp only [System.run, Option.some.injEq] at ran
      subst ran
      exact ⟨held, invariant⟩
  | cons label rest ih =>
      obtain ⟨middle, stepped, ran⟩ := Option.bind_eq_some_iff.mp ran
      obtain ⟨heldMiddle, moved⟩ := matches_step follows held assumed.1 stepped
      have kept := preserves _ _ _ _ invariant guarded.1 moved
      exact ih heldMiddle kept assumed.2 (guarded.2 middle stepped) ran

theorem assumes_of_run {S : System Effect Reply Error World Event Request}
    (answers : ∀ world ghost effect reply after, S.answer world effect reply = some after →
      D.assumed ghost effect reply)
    (crashes : ∀ ghost, D.crashes ghost)
    {config after : Config Pid Effect Reply Error World} {ghosts : Pid → Option Ghost}
    {trace : List (Label Pid Effect Reply Error Event Request)}
    (ran : S.run config trace = some after) : D.Assumes ghosts trace := by
  induction trace generalizing config ghosts with
  | nil => trivial
  | cons label rest ih =>
      obtain ⟨middle, stepped, ran⟩ := Option.bind_eq_some_iff.mp ran
      refine ⟨?_, ih ran⟩
      cases label with
      | answer pid effect reply =>
          exact fun ghost _ => answers _ ghost _ _ _ (S.changes_of_step stepped)
      | crash pid => exact fun ghost _ => crashes ghost
      | start => trivial
      | finish => trivial
      | fail => trivial
      | environment => trivial

omit [DecidableEq Effect] [DecidableEq Error] in
theorem relies_append
    {rely : (Pid → Option Ghost) → Label Pid Effect Reply Error Event Request → Prop}
    {ghosts : Pid → Option Ghost}
    {first second : List (Label Pid Effect Reply Error Event Request)} :
    D.Relies rely ghosts (first ++ second) ↔
      D.Relies rely ghosts first ∧ D.Relies rely (D.trackAll ghosts first) second := by
  induction first generalizing ghosts with
  | nil => exact ⟨fun later => ⟨trivial, later⟩, fun both => both.2⟩
  | cons label rest ih => exact (and_congr_right fun _ => ih).trans and_assoc.symm

theorem relies_congr {S : System Effect Reply Error World Event Request}
    {first second : (Pid → Option Ghost) → Label Pid Effect Reply Error Event Request → Prop}
    (follows : ∀ request, D.wp (D.initial request) (S.entry request)
      (fun after _ => D.finished after) D.failed)
    (each : ∀ world ghosts label after, D.Moves S world ghosts label after →
      (first ghosts label ↔ second ghosts label))
    {config after : Config Pid Effect Reply Error World} {ghosts : Pid → Option Ghost}
    {trace : List (Label Pid Effect Reply Error Event Request)}
    (held : D.Matches config ghosts) (assumed : D.Assumes ghosts trace)
    (ran : S.run config trace = some after) :
    D.Relies first ghosts trace ↔ D.Relies second ghosts trace := by
  induction trace generalizing config ghosts with
  | nil => exact Iff.rfl
  | cons label rest ih =>
      obtain ⟨middle, stepped, ran⟩ := Option.bind_eq_some_iff.mp ran
      obtain ⟨heldMiddle, moved⟩ := matches_step follows held assumed.1 stepped
      exact and_congr (each _ _ _ _ moved) (ih heldMiddle assumed.2 ran)

end Discipline

end Interleaving

end EffectProgram
