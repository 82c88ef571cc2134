import Vix75.EffectProgram

/-! A lock that any number of programs share: the one that holds it knows what the lock protects,
whatever the others do. Nothing here depends on what the effects are. -/

namespace EffectProgram

/-- How a lock and what it protects are found in a world, and what a ghost value knows of it, which
is nothing while its process does not hold the lock. -/
structure Lock (World Ghost Resource Knowledge : Type) where
  locked : World → Bool
  resource : World → Resource
  holds : Ghost → Option Knowledge
  describes : Knowledge → Resource → Prop

namespace Lock

variable {Effect : Type} {Reply : Effect → Type} {Error World Event Request Pid : Type}
variable {Ghost Resource Knowledge : Type} (lock : Lock World Ghost Resource Knowledge)

def Knows (world : World) (held : Option Knowledge) : Prop :=
  ∀ known, held = some known →
    lock.locked world = true ∧ lock.describes known (lock.resource world)

structure Exclusive (world : World) (ghosts : Pid → Option Ghost) : Prop where
  knows : ∀ pid, lock.Knows world ((ghosts pid).bind lock.holds)
  unique : ∀ first second, ((ghosts first).bind lock.holds).isSome →
    ((ghosts second).bind lock.holds).isSome → first = second

def Believes (S : System Effect Reply Error World Event Request) (ghost : Ghost) (effect : Effect)
    (reply : Except Error (Reply effect)) : Prop :=
  ∃ world, lock.Knows world (lock.holds ghost) ∧ (S.answer world effect reply).isSome

/-- An answered effect, by what its process knew before and knows after it. -/
inductive Turn (world : World) : Option Knowledge → Option Knowledge → World → Prop
  | apart {after : World} (locked : lock.locked after = lock.locked world)
      (resource : lock.resource after = lock.resource world) : Turn world none none after
  | takes {known : Knowledge} {after : World} (free : lock.locked world = false)
      (locked : lock.locked after = true) (describes : lock.describes known (lock.resource after)) :
      Turn world none (some known) after
  | works {before known : Knowledge} {after : World} (locked : lock.locked after = true)
      (describes : lock.describes known (lock.resource after)) :
      Turn world (some before) (some known) after
  | leaves {before : Knowledge} {after : World} : Turn world (some before) none after

variable {lock} {world after : World} {ghosts : Pid → Option Ghost}

theorem exclusive_idle (world : World) : lock.Exclusive world fun _ : Pid => none where
  knows := fun _ _ known => nomatch known
  unique := fun _ _ held => nomatch held

variable {D : Discipline Effect Reply Error Request Ghost}
variable {S : System Effect Reply Error World Event Request}

theorem Exclusive.assumed (exclusive : lock.Exclusive world ghosts)
    (believed : ∀ ghost effect reply, lock.Believes S ghost effect reply →
      D.assumed ghost effect reply) (crashes : ∀ ghost, D.crashes ghost)
    {label : Label Pid Effect Reply Error Event Request} (changed : S.Changes world after label) :
    D.Assumed ghosts label := by
  cases label with
  | answer pid effect reply =>
      intro ghost current
      have knows := exclusive.knows pid
      rw [current, Option.bind_some] at knows
      exact believed _ _ _ ⟨world, knows, Option.isSome_iff_exists.mpr ⟨after, changed⟩⟩
  | crash pid => exact fun ghost _ => crashes ghost
  | start => trivial
  | finish => trivial
  | fail => trivial
  | environment => trivial

variable [DecidableEq Pid] {pid : Pid}

theorem Exclusive.drop (exclusive : lock.Exclusive world ghosts) {ghost : Option Ghost}
    (nothing : ghost.bind lock.holds = none) :
    lock.Exclusive world (Function.update ghosts pid ghost) := by
  have others (other : Pid) (held : ((Function.update ghosts pid ghost other).bind
      lock.holds).isSome) : Function.update ghosts pid ghost other = ghosts other := by
    by_cases same : other = pid
    · subst same
      simp [nothing] at held
    · rw [Function.update_of_ne same]
  refine ⟨fun other known here => ?_, fun first second one two => ?_⟩
  · rw [others other (Option.isSome_iff_exists.mpr ⟨known, here⟩)] at here
    exact exclusive.knows other known here
  · rw [others first one] at one
    rw [others second two] at two
    exact exclusive.unique first second one two

theorem Exclusive.answer (exclusive : lock.Exclusive world ghosts) {ghost next : Ghost}
    (current : ghosts pid = some ghost)
    (turn : lock.Turn world (lock.holds ghost) (lock.holds next) after) :
    lock.Exclusive after (Function.update ghosts pid (some next)) := by
  have here : (ghosts pid).bind lock.holds = lock.holds ghost := by rw [current, Option.bind_some]
  -- Once this process holds the lock, no other one does.
  have alone (none : ∀ other, other ≠ pid → (ghosts other).bind lock.holds = none)
      (knows : lock.Knows after (lock.holds next)) :
      lock.Exclusive after (Function.update ghosts pid (some next)) := by
    have only (other : Pid) (held : ((Function.update ghosts pid (some next) other).bind
        lock.holds).isSome) : other = pid := by
      by_contra different
      rw [Function.update_of_ne different, none other different] at held
      cases held
    refine ⟨fun other known found => ?_, fun first second one two => ?_⟩
    · obtain rfl := only other (Option.isSome_iff_exists.mpr ⟨known, found⟩)
      rw [Function.update_self, Option.bind_some] at found
      exact knows known found
    · exact (only first one).trans (only second two).symm
  have released (held : (lock.holds ghost).isSome) (other : Pid) (different : other ≠ pid) :
      (ghosts other).bind lock.holds = none := by
    by_contra taken
    exact different (exclusive.unique other pid (Option.isSome_iff_ne_none.mpr taken)
      (by rwa [here]))
  generalize lock.holds ghost = before, follows : lock.holds next = later at turn here released
  cases turn with
  | apart locked resource =>
      have moved : lock.Exclusive after ghosts :=
        ⟨fun other known found => by
          rw [locked, resource]
          exact exclusive.knows other known found, exclusive.unique⟩
      exact moved.drop follows
  | takes free locked describes =>
      refine alone (fun other _ => ?_) fun known found => ?_
      · by_contra taken
        obtain ⟨known, found⟩ := Option.ne_none_iff_exists'.mp taken
        rw [(exclusive.knows other known found).1] at free
        cases free
      · obtain rfl := Option.some.inj (follows.symm.trans found)
        exact ⟨locked, describes⟩
  | works locked describes =>
      refine alone (released rfl) fun known found => ?_
      obtain rfl := Option.some.inj (follows.symm.trans found)
      exact ⟨locked, describes⟩
  | leaves =>
      refine alone (released rfl) fun known found => ?_
      cases follows.symm.trans found

/-- A step keeps the lock exclusive when every answered effect is a turn. -/
theorem Exclusive.moves (starts : ∀ request, lock.holds (D.initial request) = none)
    (turns : ∀ world ghost effect reply after, D.allowed ghost effect →
      lock.Knows world (lock.holds ghost) → S.answer world effect reply = some after →
      lock.Turn world (lock.holds ghost) (lock.holds (D.advance ghost effect reply)) after)
    (environment : ∀ world event after, S.environment world event = some after →
      lock.locked after = lock.locked world ∧ lock.resource after = lock.resource world)
    {label : Label Pid Effect Reply Error Event Request}
    (exclusive : lock.Exclusive world ghosts) (moved : D.Moves S world ghosts label after) :
    lock.Exclusive after (D.track ghosts label) := by
  cases moved with
  | start pid request idle => exact exclusive.drop (starts request)
  | answer pid ghost effect reply after current allowed answered =>
      have known : lock.Knows world (lock.holds ghost) := by
        have knows := exclusive.knows pid
        rwa [current, Option.bind_some] at knows
      have kept := exclusive.answer current (turns _ _ _ _ _ allowed known answered)
      simpa [Discipline.track, current] using kept
  | finish pid ghost current finished => exact exclusive.drop rfl
  | fail pid ghost error current failed => exact exclusive.drop rfl
  | crash pid ghost current => exact exclusive.drop rfl
  | environment event after happened =>
      obtain ⟨locked, resource⟩ := environment _ _ _ happened
      exact ⟨fun other known found => by
        rw [locked, resource]
        exact exclusive.knows other known found, exclusive.unique⟩

variable [DecidableEq Effect] [DecidableEq Error]

theorem run_recorded {History : Type}
    {record : History → Label Pid Effect Reply Error Event Request → History}
    {Recorded : History → World → (Pid → Option Ghost) → Prop}
    (follows : ∀ request, D.wp (D.initial request) (S.entry request)
      (fun after _ => D.finished after) D.failed)
    (believed : ∀ ghost effect reply, lock.Believes S ghost effect reply →
      D.assumed ghost effect reply) (crashes : ∀ ghost, D.crashes ghost)
    (exclusive : ∀ history world ghosts, Recorded history world ghosts →
      lock.Exclusive world ghosts)
    (each : ∀ history world ghosts label after, Recorded history world ghosts →
      D.Moves S world ghosts label after →
      Recorded (record history label) after (D.track ghosts label))
    {config after : Config Pid Effect Reply Error World} {ghosts : Pid → Option Ghost}
    {trace : List (Label Pid Effect Reply Error Event Request)} {history : History}
    (held : D.Matches config ghosts) (recorded : Recorded history config.world ghosts)
    (ran : S.run config trace = some after) :
    Recorded (trace.foldl record history) after.world (D.trackAll ghosts trace) := by
  induction trace generalizing config ghosts history with
  | nil =>
      obtain rfl := Option.some.inj ran
      exact recorded
  | cons label rest ih =>
      obtain ⟨middle, stepped, ran⟩ := Option.bind_eq_some_iff.mp ran
      have assumed : D.Assumed ghosts label := (exclusive _ _ _ recorded).assumed believed crashes
        (S.changes_of_step stepped)
      obtain ⟨matched, moved⟩ := Discipline.matches_step follows held assumed stepped
      exact ih matched (each _ _ _ _ _ recorded moved) ran

end Lock

end EffectProgram
