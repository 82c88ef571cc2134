import Vix75.EffectProgram

/-! Two systems of programs side by side, where what a process of the first one does may be an
event for the second one. Each of them sees a run of its own. -/

namespace EffectProgram

variable {Pid Effect Other Error World OtherWorld Event OtherEvent Outer : Type}
variable {Request OtherRequest : Type}
variable {Reply : Effect → Type} {OtherReply : Other → Type}

@[reducible] def EitherReply (Reply : Effect → Type) (OtherReply : Other → Type) :
    Effect ⊕ Other → Type
  | .inl effect => Reply effect
  | .inr effect => OtherReply effect

namespace System

/-- `sends` are the events that an answered effect of the first system is to the second one,
and `outer` are those of its events that still come from outside. -/
def link (first : System Effect Reply Error World Event Request)
    (second : System Other OtherReply Error OtherWorld OtherEvent OtherRequest)
    (sends : OtherWorld → (effect : Effect) → Except Error (Reply effect) → List OtherEvent)
    (outer : Outer → OtherEvent) :
    System (Effect ⊕ Other) (EitherReply Reply OtherReply) Error (World × OtherWorld)
      (Event ⊕ Outer) (Request ⊕ OtherRequest) where
  entry
    | .inl request => (first.entry request).lift .inl fun _ reply => reply
    | .inr request => (second.entry request).lift .inr fun _ reply => reply
  answer
    | world, .inl effect, reply => do
        let after ← first.answer world.1 effect reply
        let told ← (sends world.2 effect reply).foldlM second.environment world.2
        some (after, told)
    | world, .inr effect, reply =>
        (second.answer world.2 effect reply).map fun after => (world.1, after)
  environment
    | world, .inl event => (first.environment world.1 event).map fun after => (after, world.2)
    | world, .inr event =>
        (second.environment world.2 (outer event)).map fun after => (world.1, after)

end System

inductive Side : Option (Prog (Effect ⊕ Other) (EitherReply Reply OtherReply) Error Unit) →
    Option (Prog Effect Reply Error Unit) → Option (Prog Other OtherReply Error Unit) → Prop
  | idle : Side none none none
  | first (program : Prog Effect Reply Error Unit) :
      Side (some (program.lift .inl fun _ reply => reply)) (some program) none
  | second (program : Prog Other OtherReply Error Unit) :
      Side (some (program.lift .inr fun _ reply => reply)) none (some program)

structure Sides (whole : Config Pid (Effect ⊕ Other) (EitherReply Reply OtherReply) Error
    (World × OtherWorld)) (one : Config Pid Effect Reply Error World)
    (two : Config Pid Other OtherReply Error OtherWorld) : Prop where
  world : whole.world = (one.world, two.world)
  process : ∀ pid, Side (whole.process pid) (one.process pid) (two.process pid)

/-- How a trace of the whole is one of each part. -/
structure Parts (sends : OtherWorld → (effect : Effect) → Except Error (Reply effect) →
    List OtherEvent) (outer : Outer → OtherEvent)
    (trace : List (Label Pid (Effect ⊕ Other) (EitherReply Reply OtherReply) Error
      (Event ⊕ Outer) (Request ⊕ OtherRequest)))
    (own : List (Label Pid Effect Reply Error Event Request))
    (others : List (Label Pid Other OtherReply Error OtherEvent OtherRequest)) : Prop where
  answers : ∀ pid effect reply,
    .answer pid effect reply ∈ own ↔ .answer pid (.inl effect) reply ∈ trace
  events : ∀ event, .environment event ∈ own → .environment (.inl event) ∈ trace
  told : ∀ event, .environment event ∈ others →
    (∃ outside, .environment (.inr outside) ∈ trace ∧ event = outer outside) ∨
      ∃ pid effect reply world, .answer pid (.inl effect) reply ∈ trace ∧
        event ∈ sends world effect reply

section Links

variable {sends : OtherWorld → (effect : Effect) → Except Error (Reply effect) → List OtherEvent}
variable {outer : Outer → OtherEvent}
variable {trace later : List (Label Pid (Effect ⊕ Other) (EitherReply Reply OtherReply) Error
  (Event ⊕ Outer) (Request ⊕ OtherRequest))}
variable {own more : List (Label Pid Effect Reply Error Event Request)}
variable {others others' : List (Label Pid Other OtherReply Error OtherEvent OtherRequest)}

theorem Parts.append (first : Parts sends outer trace own others)
    (second : Parts sends outer later more others') :
    Parts sends outer (trace ++ later) (own ++ more) (others ++ others') where
  answers pid effect reply := by
    simp only [List.mem_append, first.answers, second.answers]
  events event member := by
    rcases List.mem_append.mp member with before | after
    · exact List.mem_append_left _ (first.events event before)
    · exact List.mem_append_right _ (second.events event after)
  told event member := by
    rcases List.mem_append.mp member with before | after
    · rcases first.told event before with ⟨outside, given, same⟩ | ⟨pid, effect, reply, at_, given⟩
      · exact .inl ⟨outside, List.mem_append_left _ given, same⟩
      · exact .inr ⟨pid, effect, reply, at_, List.mem_append_left _ given.1, given.2⟩
    · rcases second.told event after with ⟨outside, given, same⟩ | ⟨pid, effect, reply, at_, given⟩
      · exact .inl ⟨outside, List.mem_append_right _ given, same⟩
      · exact .inr ⟨pid, effect, reply, at_, List.mem_append_right _ given.1, given.2⟩

theorem Side.of_none {process : Option (Prog Effect Reply Error Unit)}
    {other : Option (Prog Other OtherReply Error Unit)} (side : Side none process other) :
    process = none ∧ other = none := by
  cases side
  exact ⟨rfl, rfl⟩

theorem Side.of_some {running : Prog (Effect ⊕ Other) (EitherReply Reply OtherReply) Error Unit}
    {process : Option (Prog Effect Reply Error Unit)}
    {other : Option (Prog Other OtherReply Error Unit)} (side : Side (some running) process other) :
    (∃ program, running = program.lift .inl (fun _ reply => reply) ∧ process = some program ∧
      other = none) ∨
      ∃ program, running = program.lift .inr (fun _ reply => reply) ∧ process = none ∧
        other = some program := by
  cases side with
  | first program => exact .inl ⟨program, rfl, rfl, rfl⟩
  | second program => exact .inr ⟨program, rfl, rfl, rfl⟩

section Steps

variable [DecidableEq Pid]
variable {whole after : Config Pid (Effect ⊕ Other) (EitherReply Reply OtherReply) Error
  (World × OtherWorld)}
variable {one : Config Pid Effect Reply Error World}
variable {two : Config Pid Other OtherReply Error OtherWorld}

theorem Sides.move_first (sides : Sides whole one two) {pid : Pid} (idle : two.process pid = none)
    {running : Option (Prog (Effect ⊕ Other) (EitherReply Reply OtherReply) Error Unit)}
    {program : Option (Prog Effect Reply Error Unit)} (side : Side running program none)
    (world : World) (there : OtherWorld) :
    Sides ⟨(world, there), Function.update whole.process pid running⟩
      ⟨world, Function.update one.process pid program⟩ ⟨there, two.process⟩ := by
  refine ⟨rfl, fun other => ?_⟩
  by_cases same : other = pid
  · subst same
    simpa only [Function.update_self, idle] using side
  · simpa only [Function.update_of_ne same] using sides.process other

theorem Sides.move_second (sides : Sides whole one two) {pid : Pid}
    (idle : one.process pid = none)
    {running : Option (Prog (Effect ⊕ Other) (EitherReply Reply OtherReply) Error Unit)}
    {program : Option (Prog Other OtherReply Error Unit)} (side : Side running none program)
    (world : World) (there : OtherWorld) :
    Sides ⟨(world, there), Function.update whole.process pid running⟩
      ⟨world, one.process⟩ ⟨there, Function.update two.process pid program⟩ := by
  refine ⟨rfl, fun other => ?_⟩
  by_cases same : other = pid
  · subst same
    simpa only [Function.update_self, idle] using side
  · simpa only [Function.update_of_ne same] using sides.process other

variable [DecidableEq Effect] [DecidableEq Other] [DecidableEq Error]
variable {first : System Effect Reply Error World Event Request}
variable {second : System Other OtherReply Error OtherWorld OtherEvent OtherRequest}

omit [DecidableEq Other] in
theorem run_environment (events : List Event) (config : Config Pid Effect Reply Error World)
    {world : World} (happened : events.foldlM first.environment config.world = some world) :
    first.run config (events.map .environment) = some { config with world := world } := by
  induction events generalizing config with
  | nil =>
      obtain rfl := Option.some.inj happened
      rfl
  | cons event rest ih =>
      rw [List.foldlM_cons, Option.bind_eq_bind, Option.bind_eq_some_iff] at happened
      obtain ⟨middle, now, happened⟩ := happened
      exact Option.bind_eq_some_iff.mpr ⟨{ config with world := middle },
        by simp [System.step, now], ih { config with world := middle } happened⟩

omit [DecidableEq Other] in
theorem run_one {config : Config Pid Effect Reply Error World}
    {label : Label Pid Effect Reply Error Event Request}
    (stepped : first.step one label = some config) : first.run one [label] = some config :=
  Option.bind_eq_some_iff.mpr ⟨config, stepped, rfl⟩

theorem Sides.leave (sides : Sides whole one two) {pid : Pid}
    {running : Prog (Effect ⊕ Other) (EitherReply Reply OtherReply) Error Unit}
    {overall : Label Pid (Effect ⊕ Other) (EitherReply Reply OtherReply) Error
      (Event ⊕ Outer) (Request ⊕ OtherRequest)}
    (label : Label Pid Effect Reply Error Event Request)
    (label' : Label Pid Other OtherReply Error OtherEvent OtherRequest)
    (current : whole.process pid = some running)
    (left : ∀ program, running = program.lift .inl (fun _ reply => reply) →
      one.process pid = some program → first.step one label =
        some ⟨one.world, Function.update one.process pid none⟩)
    (right : ∀ program, running = program.lift .inr (fun _ reply => reply) →
      two.process pid = some program → second.step two label' =
        some ⟨two.world, Function.update two.process pid none⟩)
    (own : Parts sends outer [overall] [label]
      ([] : List (Label Pid Other OtherReply Error OtherEvent OtherRequest)))
    (others : Parts sends outer [overall] ([] : List (Label Pid Effect Reply Error Event Request))
      [label']) :
    ∃ own others one' two', first.run one own = some one' ∧ second.run two others = some two' ∧
      Sides ⟨(one.world, two.world), Function.update whole.process pid none⟩ one' two' ∧
      Parts sends outer [overall] own others := by
  have side := sides.process pid
  rw [current] at side
  rcases side.of_some with ⟨program, runs, here, idle⟩ | ⟨program, runs, idle, here⟩
  · exact ⟨[label], [], _, two, run_one (left program runs here), rfl,
      sides.move_first idle .idle one.world two.world, own⟩
  · exact ⟨[], [label'], one, _, rfl, run_one (right program runs here),
      sides.move_second idle .idle one.world two.world, others⟩

theorem Sides.step {label : Label Pid (Effect ⊕ Other) (EitherReply Reply OtherReply) Error
      (Event ⊕ Outer) (Request ⊕ OtherRequest)} (sides : Sides whole one two)
    (stepped : (first.link second sends outer).step whole label = some after) :
    ∃ own others one' two', first.run one own = some one' ∧ second.run two others = some two' ∧
      Sides after one' two' ∧ Parts sends outer [label] own others := by
  obtain ⟨world, process⟩ := whole
  obtain rfl : world = (one.world, two.world) := sides.world
  cases label with
  | start pid request =>
      have side : Side (process pid) (one.process pid) (two.process pid) := sides.process pid
      simp only [System.step] at stepped
      split at stepped
      · rename_i free
        obtain rfl := Option.some.inj stepped
        rw [free] at side
        obtain ⟨idle, unused⟩ := side.of_none
        cases request with
        | inl request =>
            refine ⟨[.start pid request], [], _, two, run_one ?_, rfl,
              sides.move_first unused (.first (first.entry request)) one.world two.world, ?_⟩
            · simp [System.step, idle]
            · constructor <;> simp
        | inr request =>
            refine ⟨[], [.start pid request], one, _, rfl, run_one ?_,
              sides.move_second idle (.second (second.entry request)) one.world two.world, ?_⟩
            · simp [System.step, unused]
            · constructor <;> simp
      · cases stepped
  | answer pid effect reply =>
      have side : Side (process pid) (one.process pid) (two.process pid) := sides.process pid
      simp only [System.step] at stepped
      split at stepped
      · rename_i awaited next current
        rw [current] at side
        split at stepped
        · rename_i same
          subst same
          obtain ⟨world, answered, rfl⟩ := Option.map_eq_some_iff.mp stepped
          rcases side.of_some with ⟨program, runs, here, idle⟩ | ⟨program, runs, idle, here⟩
          · cases program with
            | call awaited rest =>
                obtain ⟨rfl, same⟩ := Prog.call.inj runs
                obtain rfl := eq_of_heq same
                simp only [System.link, Option.bind_eq_bind, Option.bind_eq_some_iff,
                  Option.some.injEq] at answered
                obtain ⟨own, moved, told, heard, rfl⟩ := answered
                refine ⟨[.answer pid awaited reply],
                  (sends two.world awaited reply).map .environment,
                  _, _, run_one ?_, run_environment _ two heard,
                  sides.move_first idle (.first (rest reply)) own told, ?_⟩
                · simp [System.step, here, moved]
                · refine ⟨fun _ _ _ => ?_, by simp, fun event member => ?_⟩
                  · simp
                  · obtain ⟨sent, known, same⟩ := List.mem_map.mp member
                    cases same
                    exact .inr ⟨pid, awaited, reply, two.world, List.mem_singleton_self _, known⟩
            | done value => cases runs
            | raise error => cases runs
          · cases program with
            | call awaited rest =>
                obtain ⟨rfl, same⟩ := Prog.call.inj runs
                obtain rfl := eq_of_heq same
                obtain ⟨told, moved, rfl⟩ := Option.map_eq_some_iff.mp answered
                refine ⟨[], [.answer pid awaited reply], one, _, rfl, run_one ?_,
                  sides.move_second idle (.second (rest reply)) one.world told, ?_⟩
                · simp [System.step, here, moved]
                · constructor <;> simp
            | done value => cases runs
            | raise error => cases runs
        · cases stepped
      · cases stepped
  | finish pid =>
      simp only [System.step] at stepped
      split at stepped
      · rename_i current
        obtain rfl := Option.some.inj stepped
        refine sides.leave (.finish pid) (.finish pid) current ?_ ?_
          (by constructor <;> simp) (by constructor <;> simp)
        · intro program runs here
          cases program with
          | done value => simp [System.step, here]
          | call awaited rest => cases runs
          | raise error => cases runs
        · intro program runs here
          cases program with
          | done value => simp [System.step, here]
          | call awaited rest => cases runs
          | raise error => cases runs
      · cases stepped
  | fail pid error =>
      simp only [System.step] at stepped
      split at stepped
      · rename_i raised current
        split at stepped
        · rename_i same
          subst same
          obtain rfl := Option.some.inj stepped
          refine sides.leave (.fail pid error) (.fail pid error) current ?_ ?_
            (by constructor <;> simp) (by constructor <;> simp)
          · intro program runs here
            cases program with
            | raise own => simp [System.step, here, Prog.raise.inj runs]
            | call awaited rest => cases runs
            | done value => cases runs
          · intro program runs here
            cases program with
            | raise own => simp [System.step, here, Prog.raise.inj runs]
            | call awaited rest => cases runs
            | done value => cases runs
        · cases stepped
      · cases stepped
  | crash pid =>
      simp only [System.step] at stepped
      split at stepped
      · rename_i running current
        obtain rfl := Option.some.inj stepped
        refine sides.leave (.crash pid) (.crash pid) current ?_ ?_
          (by constructor <;> simp) (by constructor <;> simp)
        · intro program _ here
          simp [System.step, here]
        · intro program _ here
          simp [System.step, here]
      · cases stepped
  | environment event =>
      obtain ⟨world, happened, rfl⟩ := Option.map_eq_some_iff.mp stepped
      cases event with
      | inl event =>
          obtain ⟨moved, now, rfl⟩ := Option.map_eq_some_iff.mp happened
          refine ⟨[.environment event], [], { one with world := moved }, two, run_one ?_, rfl,
            ⟨rfl, sides.process⟩, ?_⟩
          · simp [System.step, now]
          · constructor <;> simp
      | inr event =>
          obtain ⟨moved, now, rfl⟩ := Option.map_eq_some_iff.mp happened
          refine ⟨[], [.environment (outer event)], one, { two with world := moved }, rfl,
            run_one ?_, ⟨rfl, sides.process⟩, ?_⟩
          · simp [System.step, now]
          · refine ⟨by simp, by simp, fun told member => ?_⟩
            cases List.mem_singleton.mp member
            exact .inl ⟨event, List.mem_singleton_self _, rfl⟩

theorem Sides.run {trace : List (Label Pid (Effect ⊕ Other) (EitherReply Reply OtherReply) Error
      (Event ⊕ Outer) (Request ⊕ OtherRequest))} (sides : Sides whole one two)
    (ran : (first.link second sends outer).run whole trace = some after) :
    ∃ own others one' two', first.run one own = some one' ∧ second.run two others = some two' ∧
      Sides after one' two' ∧ Parts sends outer trace own others := by
  induction trace generalizing whole one two with
  | nil =>
      obtain rfl := Option.some.inj ran
      exact ⟨[], [], one, two, rfl, rfl, sides, by constructor <;> simp⟩
  | cons label rest ih =>
      obtain ⟨middle, stepped, ran⟩ := Option.bind_eq_some_iff.mp ran
      obtain ⟨own, others, oneMiddle, twoMiddle, ranOwn, ranOthers, sides, here⟩ :=
        sides.step stepped
      obtain ⟨more, others', one', two', ranMore, ranOthers', sides, later⟩ := ih sides ran
      exact ⟨own ++ more, others ++ others', one', two',
        first.run_append.mpr ⟨oneMiddle, ranOwn, ranMore⟩,
        second.run_append.mpr ⟨twoMiddle, ranOthers, ranOthers'⟩, sides, here.append later⟩

end Steps

end Links

end EffectProgram
