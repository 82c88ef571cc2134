import Mathlib.Order.Nat
import Vix75.EffectProgram

/-! What one program can do alone in a world that answers its effects: a big-step relation,
with one rule for each way to build a program and an invariant rule, and the endless runs of a
loop. Nothing here depends on what the effects are. -/

namespace EffectProgram

namespace Prog

variable {Effect : Type} {Reply : Effect → Type} {Error World α β : Type}

/-- `answer world effect reply after`: the world may give this reply and become `after`. -/
def Runs (answer : World → (effect : Effect) → Except Error (Reply effect) → World → Prop) :
    World → Prog Effect Reply Error α → Except Error α → World → Prop
  | world, .done value, result, after => result = .ok value ∧ after = world
  | world, .raise error, result, after => result = .error error ∧ after = world
  | world, .call effect next, result, after => ∃ reply middle,
      answer world effect reply middle ∧ Runs answer middle (next reply) result after

/-- `Repeats answer program world after`: some number of runs, one after the other, whatever each
of them returns or raises. -/
inductive Repeats (answer : World → (effect : Effect) → Except Error (Reply effect) → World → Prop)
    (program : Prog Effect Reply Error α) (start : World) : World → Prop
  | none : Repeats answer program start start
  | more {world after : World} {result : Except Error α} :
      Repeats answer program start world → Runs answer world program result after →
        Repeats answer program start after

theorem bind_assoc {γ : Type} (program : Prog Effect Reply Error α)
    (first : α → Prog Effect Reply Error β) (second : β → Prog Effect Reply Error γ) :
    (program >>= first >>= second) = program >>= fun value => first value >>= second := by
  induction program with
  | done value => rfl
  | raise error => rfl
  | call effect next ih => exact congrArg (Prog.call effect) (funext ih)

theorem forEach_append {ι : Type} (first second : List ι)
    (body : ι → Prog Effect Reply Error Unit) :
    forEach (first ++ second) body = forEach first body >>= fun _ => forEach second body := by
  induction first with
  | nil => rfl
  | cons item rest ih =>
      rw [List.cons_append, forEach, ih, forEach, bind_assoc]

theorem forEach_map {ι κ : Type} (items : List ι) (place : ι → κ)
    (body : κ → Prog Effect Reply Error Unit) :
    forEach (items.map place) body = forEach items fun item => body (place item) := by
  induction items with
  | nil => rfl
  | cons item rest ih => rw [List.map_cons, forEach, ih, forEach]

def Keeps (answer : World → (effect : Effect) → Except Error (Reply effect) → World → Prop)
    (Inv : World → Prop) (program : Prog Effect Reply Error α) : Prop :=
  ∀ world result after, Inv world → Runs answer world program result after → Inv after

section Rules

variable {answer : World → (effect : Effect) → Except Error (Reply effect) → World → Prop}
variable {world after : World}

@[simp] theorem runs_done {value : α} {result : Except Error α} :
    Runs answer world (.done value) result after ↔ result = .ok value ∧ after = world := Iff.rfl

@[simp] theorem runs_raise {error : Error} {result : Except Error α} :
    Runs answer world (.raise error) result after ↔ result = .error error ∧ after = world :=
  Iff.rfl

theorem runs_ofExcept {value result : Except Error α} :
    Runs answer world (ofExcept value) result after ↔ result = value ∧ after = world := by
  cases value <;> rfl

@[simp] theorem runs_perform {effect : Effect} {result : Except Error (Reply effect)} :
    Runs answer world (perform effect) result after ↔ answer world effect result after := by
  constructor
  · rintro ⟨reply, middle, answered, ended⟩
    cases reply <;> obtain ⟨rfl, rfl⟩ := ended <;> exact answered
  · intro answered
    refine ⟨result, after, answered, ?_⟩
    cases result <;> exact ⟨rfl, rfl⟩

theorem runs_bind {program : Prog Effect Reply Error α} {rest : α → Prog Effect Reply Error β}
    {result : Except Error β} : Runs answer world (program >>= rest) result after ↔
      (∃ value middle, Runs answer world program (.ok value) middle ∧
        Runs answer middle (rest value) result after) ∨
      ∃ error, Runs answer world program (.error error) after ∧ result = .error error := by
  induction program generalizing world with
  | done value =>
      constructor
      · exact fun ran => .inl ⟨value, world, ⟨rfl, rfl⟩, ran⟩
      · rintro (⟨other, middle, ⟨same, rfl⟩, ran⟩ | ⟨error, ⟨ended, _⟩, _⟩)
        · obtain rfl := Except.ok.inj same
          exact ran
        · cases ended
  | raise error =>
      constructor
      · rintro ⟨rfl, rfl⟩
        exact .inr ⟨error, ⟨rfl, rfl⟩, rfl⟩
      · rintro (⟨value, middle, ⟨ended, _⟩, _⟩ | ⟨other, ⟨same, rfl⟩, rfl⟩)
        · cases ended
        · obtain rfl := Except.error.inj same
          exact ⟨rfl, rfl⟩
  | call effect next ih =>
      constructor
      · rintro ⟨reply, middle, answered, ran⟩
        rcases (ih reply).mp ran with ⟨value, later, first, second⟩ | ⟨error, first, rfl⟩
        · exact .inl ⟨value, later, ⟨reply, middle, answered, first⟩, second⟩
        · exact .inr ⟨error, ⟨reply, middle, answered, first⟩, rfl⟩
      · rintro (⟨value, later, ⟨reply, middle, answered, first⟩, second⟩ |
          ⟨error, ⟨reply, middle, answered, first⟩, rfl⟩)
        · exact ⟨reply, middle, answered, (ih reply).mpr (.inl ⟨value, later, first, second⟩)⟩
        · exact ⟨reply, middle, answered, (ih reply).mpr (.inr ⟨error, first, rfl⟩)⟩

theorem runs_bind_ok {program : Prog Effect Reply Error α} {rest : α → Prog Effect Reply Error β}
    {result : β} : Runs answer world (program >>= rest) (.ok result) after ↔
      ∃ value middle, Runs answer world program (.ok value) middle ∧
        Runs answer middle (rest value) (.ok result) after := by
  rw [runs_bind, or_iff_left]
  rintro ⟨error, _, ended⟩
  cases ended

theorem Runs.bind_returns {program : Prog Effect Reply Error α}
    {rest : α → Prog Effect Reply Error β} {result : Except Error β} {post : α → Prop}
    (ran : Runs answer world (program >>= rest) result after)
    (returns : ∀ {result after}, Runs answer world program result after →
      ∃ value, result = .ok value ∧ post value) :
    ∃ value middle, post value ∧ Runs answer world program (.ok value) middle ∧
      Runs answer middle (rest value) result after := by
  rcases runs_bind.mp ran with ⟨value, middle, first, later⟩ | ⟨error, failed, _⟩
  · obtain ⟨_, same, holds⟩ := returns first
    obtain rfl := Except.ok.inj same
    exact ⟨value, middle, holds, first, later⟩
  · obtain ⟨_, same, _⟩ := returns failed
    cases same

theorem runs_perform_bind {effect : Effect} {rest : Reply effect → Prog Effect Reply Error β}
    {result : Except Error β} : Runs answer world (perform effect >>= rest) result after ↔
      (∃ value middle, answer world effect (.ok value) middle ∧
        Runs answer middle (rest value) result after) ∨
      ∃ error, answer world effect (.error error) after ∧ result = .error error := by
  simp only [runs_bind, runs_perform]

theorem runs_rescue {program : Prog Effect Reply Error α}
    {recover : Error → Prog Effect Reply Error α} {result : Except Error α} :
    Runs answer world (program.rescue recover) result after ↔
      (∃ value, Runs answer world program (.ok value) after ∧ result = .ok value) ∨
      ∃ error middle, Runs answer world program (.error error) middle ∧
        Runs answer middle (recover error) result after := by
  induction program generalizing world with
  | done value =>
      constructor
      · exact fun ran => .inl ⟨value, ⟨rfl, ran.2⟩, ran.1⟩
      · rintro (⟨other, ⟨same, rfl⟩, rfl⟩ | ⟨error, middle, ⟨ended, _⟩, _⟩)
        · exact ⟨same, rfl⟩
        · cases ended
  | raise error =>
      constructor
      · exact fun ran => .inr ⟨error, world, ⟨rfl, rfl⟩, ran⟩
      · rintro (⟨value, ⟨ended, _⟩, _⟩ | ⟨other, middle, ⟨same, rfl⟩, ran⟩)
        · cases ended
        · obtain rfl := Except.error.inj same
          exact ran
  | call effect next ih =>
      constructor
      · rintro ⟨reply, middle, answered, ran⟩
        rcases (ih reply).mp ran with ⟨value, first, rfl⟩ | ⟨error, later, first, second⟩
        · exact .inl ⟨value, ⟨reply, middle, answered, first⟩, rfl⟩
        · exact .inr ⟨error, later, ⟨reply, middle, answered, first⟩, second⟩
      · rintro (⟨value, ⟨reply, middle, answered, first⟩, rfl⟩ |
          ⟨error, later, ⟨reply, middle, answered, first⟩, second⟩)
        · exact ⟨reply, middle, answered, (ih reply).mpr (.inl ⟨value, first, rfl⟩)⟩
        · exact ⟨reply, middle, answered, (ih reply).mpr (.inr ⟨error, later, first, second⟩)⟩

theorem exists_runs (answers : ∀ world effect, ∃ reply after, answer world effect reply after)
    (program : Prog Effect Reply Error α) (world : World) :
    ∃ result after, Runs answer world program result after := by
  induction program generalizing world with
  | done value => exact ⟨_, _, rfl, rfl⟩
  | raise error => exact ⟨_, _, rfl, rfl⟩
  | call effect next ih =>
      obtain ⟨reply, middle, answered⟩ := answers world effect
      obtain ⟨result, after, ran⟩ := ih reply middle
      exact ⟨result, after, reply, middle, answered, ran⟩

section Quiet

/-- Every run returns, and leaves the world as it was. -/
def Quiet (answer : World → (effect : Effect) → Except Error (Reply effect) → World → Prop)
    (program : Prog Effect Reply Error α) : Prop :=
  ∀ world result after, Runs answer world program result after →
    ∃ value, result = .ok value ∧ after = world

theorem quiet_done (value : α) : Quiet answer (.done value : Prog Effect Reply Error α) :=
  fun _ _ _ ran => ⟨value, ran⟩

theorem quiet_perform {effect : Effect} (answers : ∀ world reply after,
    answer world effect reply after → ∃ value, reply = .ok value ∧ after = world) :
    Quiet answer (perform effect) :=
  fun world result after ran => answers world result after (runs_perform.mp ran)

theorem Runs.bind_quiet {program : Prog Effect Reply Error α}
    {rest : α → Prog Effect Reply Error β} {result : Except Error β}
    (ran : Runs answer world (program >>= rest) result after) (quiet : Quiet answer program) :
    ∃ value, Runs answer world (rest value) result after := by
  rcases runs_bind.mp ran with ⟨value, middle, first, later⟩ | ⟨error, failed, _⟩
  · obtain ⟨_, _, rfl⟩ := quiet _ _ _ first
    exact ⟨value, later⟩
  · obtain ⟨_, same, _⟩ := quiet _ _ _ failed
    cases same

theorem quiet_bind {program : Prog Effect Reply Error α} {rest : α → Prog Effect Reply Error β}
    (first : Quiet answer program) (later : ∀ value, Quiet answer (rest value)) :
    Quiet answer (program >>= rest) := by
  intro world result after ran
  obtain ⟨value, ran⟩ := ran.bind_quiet first
  exact later value _ _ _ ran

theorem quiet_forEach {ι : Type} {items : List ι} {body : ι → Prog Effect Reply Error Unit}
    (each : ∀ item ∈ items, Quiet answer (body item)) : Quiet answer (forEach items body) := by
  induction items with
  | nil => exact quiet_done ()
  | cons item items ih =>
      exact quiet_bind (each item (by simp)) fun _ =>
        ih fun other member => each other (by simp [member])

end Quiet

theorem Runs.invariant (Inv : World → Prop) {permitted : Effect → Prop}
    {program : Prog Effect Reply Error α} {result : Except Error α}
    (ran : Runs answer world program result after) (used : program.Uses permitted)
    (kept : ∀ effect, permitted effect → ∀ world reply after, Inv world →
      answer world effect reply after → Inv after) (start : Inv world) : Inv after := by
  induction program generalizing world with
  | done value =>
      obtain ⟨_, rfl⟩ := ran
      exact start
  | raise error =>
      obtain ⟨_, rfl⟩ := ran
      exact start
  | call effect next ih =>
      obtain ⟨reply, middle, answered, ran⟩ := ran
      exact ih reply ran (used.2 reply) (kept effect used.1 world reply middle start answered)

theorem Runs.frame {Seen : Type} (read : World → Seen) {permitted : Effect → Prop}
    {program : Prog Effect Reply Error α} {result : Except Error α}
    (ran : Runs answer world program result after) (used : program.Uses permitted)
    (kept : ∀ effect, permitted effect → ∀ world reply after,
      answer world effect reply after → read after = read world) : read after = read world :=
  ran.invariant (fun current => read current = read world) used
    (fun effect allowed current reply next same answered =>
      (kept effect allowed current reply next answered).trans same) rfl

section Keeps

variable {Inv : World → Prop}

theorem keeps_done (value : α) :
    Keeps answer Inv (.done value : Prog Effect Reply Error α) := by
  rintro world result after held ⟨_, rfl⟩
  exact held

theorem keeps_bind {program : Prog Effect Reply Error α} {rest : α → Prog Effect Reply Error β}
    (first : Keeps answer Inv program) (later : ∀ value, Keeps answer Inv (rest value)) :
    Keeps answer Inv (program >>= rest) := by
  intro world result after held ran
  rcases runs_bind.mp ran with ⟨value, middle, ran, ranLater⟩ | ⟨error, ran, _⟩
  · exact later value _ _ _ (first _ _ _ held ran) ranLater
  · exact first _ _ _ held ran

theorem keeps_rescue {program : Prog Effect Reply Error α}
    {recover : Error → Prog Effect Reply Error α} (first : Keeps answer Inv program)
    (later : ∀ error, Keeps answer Inv (recover error)) :
    Keeps answer Inv (program.rescue recover) := by
  intro world result after held ran
  rcases runs_rescue.mp ran with ⟨value, ran, _⟩ | ⟨error, middle, ran, recovered⟩
  · exact first _ _ _ held ran
  · exact later error _ _ _ (first _ _ _ held ran) recovered

theorem keeps_forEach {ι : Type} {items : List ι} {body : ι → Prog Effect Reply Error Unit}
    (each : ∀ item, Keeps answer Inv (body item)) : Keeps answer Inv (forEach items body) := by
  induction items with
  | nil => exact keeps_done ()
  | cons item items ih => exact keeps_bind (each item) fun _ => ih

theorem keeps_of_uses {permitted : Effect → Prop} {program : Prog Effect Reply Error α}
    (used : program.Uses permitted)
    (kept : ∀ effect, permitted effect → ∀ world reply after, Inv world →
      answer world effect reply after → Inv after) : Keeps answer Inv program :=
  fun _ _ _ held ran => ran.invariant Inv used kept held

theorem Repeats.invariant {program : Prog Effect Reply Error α}
    (ran : Repeats answer program world after) (kept : Keeps answer Inv program)
    (start : Inv world) : Inv after := by
  induction ran with
  | none => exact start
  | more _ ran ih => exact kept _ _ _ ih ran

end Keeps

theorem Runs.map {Seen : Type}
    {shown : Seen → (effect : Effect) → Except Error (Reply effect) → Seen → Prop}
    (view : World → Seen) {program : Prog Effect Reply Error α} {result : Except Error α}
    (ran : Runs answer world program result after)
    (seen : ∀ world effect reply after, answer world effect reply after →
      shown (view world) effect reply (view after)) :
    Runs shown (view world) program result (view after) := by
  induction program generalizing world with
  | done value => exact ⟨ran.1, congrArg view ran.2⟩
  | raise error => exact ⟨ran.1, congrArg view ran.2⟩
  | call effect next ih =>
      obtain ⟨reply, middle, answered, ran⟩ := ran
      exact ⟨reply, view middle, seen _ _ _ _ answered, ih reply ran⟩

theorem Runs.of_uses {permitted : Effect → Prop} {program : Prog Effect Reply Error α}
    {result : Except Error α} (ran : Runs answer world program result after)
    (used : program.Uses permitted) : Runs (fun world effect reply after =>
      answer world effect reply after ∧ permitted effect) world program result after := by
  induction program generalizing world with
  | done value => exact ran
  | raise error => exact ran
  | call effect next ih =>
      obtain ⟨reply, middle, answered, ran⟩ := ran
      exact ⟨reply, middle, ⟨answered, used.1⟩, ih reply ran (used.2 reply)⟩

theorem Runs.forEach {ι : Type} {items : List ι} {body : ι → Prog Effect Reply Error Unit}
    (Inv : List ι → World → Prop) {result : Except Error Unit}
    (ran : Runs answer world (Prog.forEach items body) result after) (start : Inv items world)
    (step : ∀ item rest world result after, Inv (item :: rest) world →
      Runs answer world (body item) result after → Inv rest after) :
    ∃ rest, Inv rest after := by
  induction items generalizing world with
  | nil =>
      obtain ⟨_, rfl⟩ := ran
      exact ⟨[], start⟩
  | cons item items ih =>
      rcases runs_bind.mp ran with ⟨_, middle, first, later⟩ | ⟨_, first, _⟩
      · exact ih later (step item items world _ middle start first)
      · exact ⟨items, step item items world _ after start first⟩

theorem eval_invariant (Inv : World → Prop) {program : Prog Effect Reply Error α}
    {respond : World → (effect : Effect) → Except Error (Reply effect) × World}
    (kept : ∀ world effect, Inv world → Inv (respond world effect).2) (start : Inv world) :
    Inv (eval respond world program).2 := by
  induction program generalizing world with
  | done value => exact start
  | raise error => exact start
  | call effect next ih => exact ih _ (kept world effect start)

theorem runs_eval (Inv : World → Prop) {permitted : Effect → Prop}
    {program : Prog Effect Reply Error α}
    {respond : World → (effect : Effect) → Except Error (Reply effect) × World}
    (used : program.Uses permitted) (start : Inv world)
    (responds : ∀ effect, permitted effect → ∀ world, Inv world →
      answer world effect (respond world effect).1 (respond world effect).2 ∧
        Inv (respond world effect).2) :
    Runs answer world program (eval respond world program).1 (eval respond world program).2 := by
  induction program generalizing world with
  | done value => exact ⟨rfl, rfl⟩
  | raise error => exact ⟨rfl, rfl⟩
  | call effect next ih =>
      obtain ⟨answered, kept⟩ := responds effect used.1 world start
      exact ⟨_, _, answered, ih _ (used.2 _) kept⟩

end Rules

section Loops

/-- A task that runs one program over and over. An exception ends it, and nothing starts it
again. -/
inductive Loop (Error World : Type) where
  | going (world : World)
  | ended (error : Error) (world : World)

namespace Loop

def world : Loop Error World → World
  | .going world => world
  | .ended _ world => world

def turned : Except Error Unit → World → Loop Error World
  | .ok _, world => .going world
  | .error error, world => .ended error world

variable (answer : World → (effect : Effect) → Except Error (Reply effect) → World → Prop)

def Step (program : Prog Effect Reply Error Unit) : Loop Error World → Loop Error World → Prop
  | .going world, later => ∃ result after,
      Runs answer world program result after ∧ later = turned result after
  | .ended error world, later => later = .ended error world

/-- The loop at every time, from one start on. -/
structure Forever (program : Prog Effect Reply Error Unit) (start : World) where
  state : ℕ → Loop Error World
  first : state 0 = .going start
  next : ∀ time, Step answer program (state time) (state (time + 1))

variable {answer} {program : Prog Effect Reply Error Unit} {start : World}

theorem Forever.invariant (run : Forever answer program start) (Inv Bad : World → Prop)
    (initial : Inv start)
    (step : ∀ world result after, Inv world → Runs answer world program result after →
      result = .ok () ∧ Inv after ∨ (∃ error, result = .error error) ∧ Bad after) (time : ℕ) :
    (∃ world, run.state time = .going world ∧ Inv world) ∨
      ∃ error world, run.state time = .ended error world ∧ Bad world := by
  induction time with
  | zero => exact .inl ⟨start, run.first, initial⟩
  | succ time ih =>
      have moved := run.next time
      rcases ih with ⟨world, here, held⟩ | ⟨error, world, here, bad⟩
      · rw [here] at moved
        obtain ⟨result, after, ran, turned⟩ := moved
        rcases step world result after held ran with ⟨rfl, kept⟩ | ⟨⟨error, rfl⟩, bad⟩
        · exact .inl ⟨after, turned, kept⟩
        · exact .inr ⟨error, after, turned, bad⟩
      · rw [here] at moved
        exact .inr ⟨error, world, moved, bad⟩

theorem Forever.persists (run : Forever answer program start) (seen : World → Prop)
    (kept : Keeps answer seen program) {time later : ℕ} (before : time ≤ later)
    (here : seen (run.state time).world) : seen (run.state later).world := by
  induction later, before using Nat.le_induction with
  | base => exact here
  | succ later before ih =>
      have moved := run.next later
      cases state : run.state later with
      | going world =>
          rw [state] at ih moved
          obtain ⟨result, after, ran, turned⟩ := moved
          have held := kept world result after ih ran
          rw [turned]
          cases result <;> exact held
      | ended error world =>
          rw [state] at ih moved
          rw [moved]
          exact ih

def Forever.settling {result : Except Error Unit} {after : World}
    (ran : Runs answer start program result after)
    (still : Step answer program (turned result after) (turned result after)) :
    Forever answer program start where
  state
    | 0 => .going start
    | _ + 1 => turned result after
  first := rfl
  next
    | 0 => ⟨result, after, ran, rfl⟩
    | _ + 1 => still

end Loop

end Loops

end Prog

end EffectProgram
