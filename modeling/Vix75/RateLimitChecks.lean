import Mathlib.Data.Finset.Card
import Mathlib.Data.Finset.Dedup
import Vix75.RateLimiter

/-! The sliding window under every interleaving of the commands of its calls: how many calls of a
window are allowed, and which steps must drop nothing for the limit to hold. -/

namespace Vix75

open EffectProgram

namespace RateLimit

/-! Where a call stands -/

namespace SlidingWindowLimiter

variable (limiter : SlidingWindowLimiter) (key : String) (nowMs : ℤ)

def conclude (count : ℕ) : Program RateDecision :=
  if count ≤ limiter.limit then
    .done ⟨true, max (limiter.limit - count) 0, 0⟩
  else do
    let oldest ← await (.zrange key)
    let oldestMs := match oldest with
      | some oldest => oldest.score
      | none => nowMs - limiter.windowMs
    .done ⟨false, 0, max 1 ⌈((oldestMs + limiter.windowMs - nowMs : ℤ) : ℚ) / 1000⌉⟩

def expiry (count : ℕ) : Program RateDecision := do
  let _ ← await (.expire key limiter.windowS)
  limiter.conclude key nowMs count

def count : Program RateDecision := do
  let count ← await (.zcard key)
  limiter.expiry key nowMs count

def add (member : String) : Program RateDecision := do
  let _ ← await (.zadd key member nowMs)
  limiter.count key nowMs

theorem check_eq (member : String) : limiter.check key nowMs member =
    (await (.zremrangebyscore key (nowMs - limiter.windowMs)) >>= fun _ =>
      limiter.add key nowMs member) := rfl

end SlidingWindowLimiter

inductive Phase where
  | pruning
  | adding
  | counting
  | expiring (count : ℕ)
  | concluding (count : ℕ)
  | finished

namespace Call

variable (limiter : SlidingWindowLimiter) (call : Call)

def key : String := keyOf call.subject

def entry : ScoredMember := ⟨call.member, call.nowMs⟩

def At : Phase → Prop
  | .pruning => call.rest = limiter.check call.key call.nowMs call.member
  | .adding => call.rest = limiter.add call.key call.nowMs call.member
  | .counting => call.rest = limiter.count call.key call.nowMs
  | .expiring count => call.rest = limiter.expiry call.key call.nowMs count
  | .concluding count => call.rest = limiter.conclude call.key call.nowMs count
  | .finished => call.allowed = false ∧ ∀ command next, call.rest ≠ .call command next

def uncounted : Bool :=
  match call.rest with
  | .call (.zremrangebyscore _ _) _ => true
  | .call (.zadd _ _ _) _ => true
  | .call (.zcard _) _ => true
  | _ => false

def prunes : Option (String × ℤ) :=
  match call.rest with
  | .call (.zremrangebyscore key max) _ => some (key, max)
  | _ => none

def counting : Bool :=
  match call.rest with
  | .call (.zcard _) _ => true
  | _ => false

theorem uncounted_of_counting {call : Call} (counts : call.counting = true) :
    call.uncounted = true := by
  unfold counting at counts
  unfold uncounted
  split at counts
  next rest => rw [rest]
  next => contradiction

def granted : Bool :=
  match call.rest with
  | .done decision => decision.allowed
  | .call (.expire _ _) next =>
      match next (.ok true) with
      | .done decision => decision.allowed
      | _ => false
  | _ => false

end Call

@[simp] theorem SortedSet.rows_ofMembers
    (members : KeyedTable ScoredMember String ScoredMember.member) (expireAt : Option ℤ) :
    (SortedSet.ofMembers members expireAt).members.rows = members.rows := by
  unfold SortedSet.ofMembers
  split
  next none => exact none.symm
  next some => rfl

section Commands

variable (clock : ℤ) (keys : Keyspace) (key other : String)

theorem rows_zremrangebyscore (max : ℤ) :
    ((execute clock keys (.zremrangebyscore key max)).2 other).members.rows =
      if other = key then (keys key).members.rows.filter fun entry => max < entry.score
      else (keys other).members.rows := by
  simp only [execute, Function.update_apply]
  split
  next same => rw [SortedSet.rows_ofMembers]; rfl
  next apart => rfl

theorem rows_zadd (member : String) (score : ℤ) :
    ((execute clock keys (.zadd key member score)).2 other).members.rows =
      if other = key then ((keys key).members.put ⟨member, score⟩).rows
      else (keys other).members.rows := by
  simp only [execute, Function.update_apply]
  split <;> rfl

theorem rows_expire {seconds : ℤ} (positive : 0 < seconds) :
    ((execute clock keys (.expire key seconds)).2 other).members.rows =
      (keys other).members.rows := by
  simp only [execute, if_neg (not_le.mpr positive)]
  split
  next none => rfl
  next some =>
    simp only [Function.update_apply]
    split
    next same => rw [same]
    next apart => rfl

end Commands

inductive Writes (limiter : SlidingWindowLimiter) (clock : ℤ) (keys : Keyspace) (call : Call) :
    Keyspace → Prop
  | none : Writes limiter clock keys call keys
  | pruned : call.At limiter .pruning → Writes limiter clock keys call
      (execute clock keys (.zremrangebyscore call.key (call.nowMs - limiter.windowMs))).2
  | added : call.At limiter .adding →
      Writes limiter clock keys call (execute clock keys (.zadd call.key call.member call.nowMs)).2
  | expired : Writes limiter clock keys call
      (execute clock keys (.expire call.key limiter.windowS)).2

inductive Moves (limiter : SlidingWindowLimiter) (clock : ℤ) (keys : Keyspace) (call : Call) :
    Keyspace → Program RateDecision → Prop
  | pruned {rest : Program RateDecision} : call.At limiter .pruning →
      { call with rest := rest }.At limiter .adding → Moves limiter clock keys call
        (execute clock keys (.zremrangebyscore call.key (call.nowMs - limiter.windowMs))).2 rest
  | added {rest : Program RateDecision} : call.At limiter .adding →
      { call with rest := rest }.At limiter .counting → Moves limiter clock keys call
        (execute clock keys (.zadd call.key call.member call.nowMs)).2 rest
  | counted {rest : Program RateDecision} : call.At limiter .counting →
      { call with rest := rest }.At limiter (.expiring (keys call.key).members.rows.length) →
      Moves limiter clock keys call keys rest
  | expired {rest : Program RateDecision} (count : ℕ) : call.At limiter (.expiring count) →
      { call with rest := rest }.At limiter (.concluding count) → Moves limiter clock keys call
        (execute clock keys (.expire call.key limiter.windowS)).2 rest
  | finished {after : Keyspace} {rest : Program RateDecision} :
      Writes limiter clock keys call after →
      { call with rest := rest }.At limiter .finished → Moves limiter clock keys call after rest

theorem Moves.writes {limiter : SlidingWindowLimiter} {clock : ℤ} {keys after : Keyspace}
    {call : Call} {rest : Program RateDecision} (moves : Moves limiter clock keys call after rest) :
    Writes limiter clock keys call after := by
  cases moves with
  | pruned here next => exact .pruned here
  | added here next => exact .added here
  | counted here next => exact .none
  | expired count here next => exact .expired
  | finished writes ended => exact writes

section Advance

variable {limiter : SlidingWindowLimiter} {gateway after : Gateway} {index : ℕ}
  {outcome : Outcome} {call : Call}

theorem advance_await {command : RedisCommand} {next : command.Reply → Program RateDecision}
    (here : gateway.calls[index]? = some call) (rest : call.rest = (await command >>= next))
    (advanced : gateway.advance index outcome = some after) :
    after = { gateway with
      keys := (execute gateway.clock gateway.keys command).2
      calls := gateway.calls.set index
        { call with rest := next (execute gateway.clock gateway.keys command).1 } } ∨
    ∃ keys error, after = { gateway with
      keys := keys, calls := gateway.calls.set index { call with rest := .raise error } } ∧
      (keys = gateway.keys ∨ keys = (execute gateway.clock gateway.keys command).2) := by
  rw [Gateway.advance, here, Option.bind_some, rest] at advanced
  cases outcome with
  | replied => exact .inl (Option.some.inj advanced).symm
  | lost applied =>
      refine .inr ⟨_, _, (Option.some.inj advanced).symm, ?_⟩
      cases applied with
      | false => exact .inl rfl
      | true => exact .inr rfl

theorem advance_cases (here : gateway.calls[index]? = some call)
    (phased : ∃ phase, call.At limiter phase)
    (advanced : gateway.advance index outcome = some after) :
    ∃ keys rest, after = { gateway with
      keys := keys, calls := gateway.calls.set index { call with rest := rest } } ∧
      Moves limiter gateway.clock gateway.keys call keys rest := by
  obtain ⟨phase, stands⟩ := phased
  have failed (keys : Keyspace) (error : PyError)
      (writes : Writes limiter gateway.clock gateway.keys call keys) :
      Moves limiter gateway.clock gateway.keys call keys (.raise error) :=
    .finished writes ⟨rfl, by simp⟩
  cases phase with
  | pruning =>
      have rest := (show call.rest = _ from stands).trans (limiter.check_eq _ _ _)
      rcases advance_await here rest advanced with moved | ⟨keys, error, moved, rfl | rfl⟩
      · exact ⟨_, _, moved, .pruned stands rfl⟩
      · exact ⟨_, _, moved, failed _ error .none⟩
      · exact ⟨_, _, moved, failed _ error (.pruned stands)⟩
  | adding =>
      rcases advance_await here stands advanced with moved | ⟨keys, error, moved, rfl | rfl⟩
      · exact ⟨_, _, moved, .added stands rfl⟩
      · exact ⟨_, _, moved, failed _ error .none⟩
      · exact ⟨_, _, moved, failed _ error (.added stands)⟩
  | counting =>
      rcases advance_await here stands advanced with moved | ⟨keys, error, moved, rfl | rfl⟩
      · exact ⟨_, _, moved, .counted stands rfl⟩
      · exact ⟨_, _, moved, failed _ error .none⟩
      · exact ⟨_, _, moved, failed _ error .none⟩
  | expiring count =>
      rcases advance_await here stands advanced with moved | ⟨keys, error, moved, rfl | rfl⟩
      · exact ⟨_, _, moved, .expired count stands rfl⟩
      · exact ⟨_, _, moved, failed _ error .none⟩
      · exact ⟨_, _, moved, failed _ error .expired⟩
  | concluding count =>
      by_cases within : count ≤ limiter.limit
      · have rest := (show call.rest = _ from stands).trans (if_pos within)
        rw [Gateway.advance, here, Option.bind_some, rest] at advanced
        contradiction
      · have rest := (show call.rest = _ from stands).trans (if_neg within)
        rcases advance_await here rest advanced with moved | ⟨keys, error, moved, rfl | rfl⟩
        · exact ⟨_, _, moved, .finished .none ⟨rfl, by simp⟩⟩
        · exact ⟨_, _, moved, failed _ error .none⟩
        · exact ⟨_, _, moved, failed _ error .none⟩
  | finished =>
      rw [Gateway.advance, here, Option.bind_some] at advanced
      cases rest : call.rest with
      | done decision => simp [rest] at advanced
      | raise error => simp [rest] at advanced
      | call command next => exact absurd rest (stands.2 command next)

end Advance

namespace Call

variable {limiter : SlidingWindowLimiter} {call : Call}

theorem At.finished_flags (ended : call.At limiter .finished) :
    call.uncounted = false ∧ call.counting = false ∧ call.granted = false := by
  obtain ⟨denied, stopped⟩ := ended
  cases rest : call.rest with
  | done decision => simpa [uncounted, counting, granted, allowed, rest] using denied
  | raise error => simp [uncounted, counting, granted, rest]
  | call command next => exact absurd rest (stopped command next)

theorem conclude_flags {count : ℕ} (concluding : call.At limiter (.concluding count)) :
    call.uncounted = false ∧ call.counting = false ∧
      (call.granted = true ↔ count ≤ limiter.limit) := by
  by_cases within : count ≤ limiter.limit
  · have rest := (show call.rest = _ from concluding).trans (if_pos within)
    simp [uncounted, counting, granted, rest, within]
  · have rest := (show call.rest = _ from concluding).trans (if_neg within)
    simp only [uncounted, counting, granted, rest, within]
    exact ⟨rfl, rfl, by simp [bind, Prog.bind, Prog.perform]⟩

theorem expiry_flags {count : ℕ} (expiring : call.At limiter (.expiring count)) :
    call.uncounted = false ∧ call.counting = false ∧
      (call.granted = true ↔ count ≤ limiter.limit) := by
  have rest : call.rest = limiter.expiry call.key call.nowMs count := expiring
  simp only [uncounted, counting, granted, rest]
  refine ⟨rfl, rfl, ?_⟩
  by_cases within : count ≤ limiter.limit <;>
    simp [SlidingWindowLimiter.expiry, SlidingWindowLimiter.conclude, bind, Prog.bind,
      Prog.perform, within]

theorem pruning_flags (pruning : call.At limiter .pruning) :
    call.uncounted = true ∧ call.counting = false ∧ call.granted = false := by
  simp only [uncounted, counting, granted, show call.rest = _ from pruning]
  exact ⟨rfl, rfl, rfl⟩

theorem prunes_of_pruning (pruning : call.At limiter .pruning) :
    call.prunes = some (call.key, call.nowMs - limiter.windowMs) := by
  rw [prunes, show call.rest = _ from pruning]
  rfl

theorem adding_flags (adding : call.At limiter .adding) :
    call.uncounted = true ∧ call.counting = false ∧ call.granted = false := by
  simp only [uncounted, counting, granted, show call.rest = _ from adding]
  exact ⟨rfl, rfl, rfl⟩

theorem counting_flags (here : call.At limiter .counting) :
    call.uncounted = true ∧ call.counting = true ∧ call.granted = false := by
  simp only [uncounted, counting, granted, show call.rest = _ from here]
  exact ⟨rfl, rfl, rfl⟩

end Call

namespace Moves

variable {limiter : SlidingWindowLimiter} {clock : ℤ} {keys after : Keyspace} {call : Call}
  {rest : Program RateDecision}

theorem phased (moves : Moves limiter clock keys call after rest) :
    ∃ phase, { call with rest := rest }.At limiter phase := by
  cases moves with
  | pruned here next => exact ⟨_, next⟩
  | added here next => exact ⟨_, next⟩
  | counted here next => exact ⟨_, next⟩
  | expired count here next => exact ⟨_, next⟩
  | finished writes ended => exact ⟨_, ended⟩

theorem uncounted (moves : Moves limiter clock keys call after rest)
    (waits : { call with rest := rest }.uncounted = true) : call.uncounted = true := by
  cases moves with
  | pruned here next => exact (Call.pruning_flags here).1
  | added here next => exact (Call.adding_flags here).1
  | counted here next => exact (Call.counting_flags here).1
  | expired count here next => simp [(Call.conclude_flags next).1] at waits
  | finished writes ended => simp [ended.finished_flags.1] at waits

theorem counting (moves : Moves limiter clock keys call after rest)
    (counts : { call with rest := rest }.counting = true) :
    after = (execute clock keys (.zadd call.key call.member call.nowMs)).2 := by
  cases moves with
  | pruned here next => simp [(Call.adding_flags next).2.1] at counts
  | added here next => rfl
  | counted here next => simp [(Call.expiry_flags next).2.1] at counts
  | expired count here next => simp [(Call.conclude_flags next).2.1] at counts
  | finished writes ended => simp [ended.finished_flags.2.1] at counts

theorem granted (moves : Moves limiter clock keys call after rest)
    (grants : { call with rest := rest }.granted = true) : call.granted = true ∨
      call.counting = true ∧ after = keys ∧
        (keys call.key).members.rows.length ≤ limiter.limit := by
  cases moves with
  | pruned here next => simp [(Call.adding_flags next).2.2] at grants
  | added here next => simp [(Call.counting_flags next).2.2] at grants
  | counted here next =>
      exact .inr ⟨(Call.counting_flags here).2.1, rfl, (Call.expiry_flags next).2.2.mp grants⟩
  | expired count here next =>
      exact .inl ((Call.expiry_flags here).2.2.mpr ((Call.conclude_flags next).2.2.mp grants))
  | finished writes ended => simp [ended.finished_flags.2.2] at grants

end Moves

theorem mem_put {table : KeyedTable ScoredMember String ScoredMember.member}
    {row entry : ScoredMember} : entry ∈ (table.put row).rows ↔
      entry ∈ table.rows ∧ entry.member ≠ row.member ∨ entry = row := by
  simp [KeyedTable.put, KeyedTable.erase]

namespace Writes

variable {limiter : SlidingWindowLimiter} {clock : ℤ} {keys after : Keyspace} {call : Call}

theorem kept (window : 0 < limiter.windowS) (writes : Writes limiter clock keys call after)
    {key : String} {entry : ScoredMember} (held : entry ∈ (keys key).members.rows) :
    entry ∈ (after key).members.rows ∨ call.At limiter .adding ∧ entry.member = call.member ∨
      call.At limiter .pruning ∧ key = call.key ∧ entry.score ≤ call.nowMs - limiter.windowMs := by
  cases writes with
  | none => exact .inl held
  | pruned here =>
      rw [rows_zremrangebyscore]
      by_cases same : key = call.key
      · subst same
        by_cases late : call.nowMs - limiter.windowMs < entry.score
        · exact .inl (by simp [held, late])
        · exact .inr (.inr ⟨here, rfl, not_lt.mp late⟩)
      · exact .inl (by rwa [if_neg same])
  | added here =>
      rw [rows_zadd]
      by_cases same : key = call.key
      · subst same
        by_cases own : entry.member = call.member
        · exact .inr (.inl ⟨here, own⟩)
        · rw [if_pos rfl, mem_put]
          exact .inl (.inl ⟨held, own⟩)
      · exact .inl (by rwa [if_neg same])
  | expired => exact .inl (by rwa [rows_expire _ _ _ _ window])

theorem kept_own (window : 0 < limiter.windowS) (writes : Writes limiter clock keys call after)
    (live : call.counting = true ∨ call.granted = true)
    (held : call.entry ∈ (keys call.key).members.rows) :
    call.entry ∈ (after call.key).members.rows := by
  rcases writes.kept window held with kept | ⟨adding, _⟩ | ⟨pruning, _⟩
  · exact kept
  · simp [Call.adding_flags adding] at live
  · simp [Call.pruning_flags pruning] at live

end Writes

section Runs

variable (limiter : SlidingWindowLimiter)

/-- A score outside the window that ends now and outside the window of every call that has still
to count. -/
def Gateway.Spent (gateway : Gateway) (key : String) (score : ℤ) : Prop :=
  score ≤ gateway.clock - limiter.windowMs ∧ ∀ call ∈ gateway.calls, call.key = key →
    call.uncounted = true → score ≤ call.nowMs - limiter.windowMs

/-- The step drops only members that are spent: those of a key that expires, or those that a call
is about to prune. -/
def Gateway.Spares (gateway : Gateway) : Event → Prop
  | .tick later => ∀ call ∈ gateway.calls, (gateway.keys call.key).expired later = true →
      ∀ entry ∈ (gateway.keys call.key).members.rows,
        { gateway with clock := later }.Spent limiter call.key entry.score
  | .start _ _ => True
  | .command index _ => ∀ call ∈ gateway.calls[index]?, ∀ prune ∈ call.prunes,
      ∀ entry ∈ (gateway.keys prune.1).members.rows, entry.score ≤ prune.2 →
        gateway.Spent limiter prune.1 entry.score

def Gateway.SparesAll (gateway : Gateway) : List Event → Prop
  | [] => True
  | event :: rest => gateway.Spares limiter event ∧
      ∀ after ∈ gateway.step limiter event, after.SparesAll rest

instance (gateway : Gateway) (key : String) (score : ℤ) :
    Decidable (gateway.Spent limiter key score) :=
  inferInstanceAs (Decidable (_ ∧ _))

instance (gateway : Gateway) : DecidablePred (gateway.Spares limiter)
  | .tick _ => inferInstanceAs (Decidable (∀ _ ∈ gateway.calls, _))
  | .start _ _ => isTrue trivial
  | .command index _ => inferInstanceAs (Decidable (∀ _ ∈ gateway.calls[index]?, _))

instance decidableSparesAll : ∀ (events : List Event) (gateway : Gateway),
    Decidable (gateway.SparesAll limiter events)
  | [], _ => isTrue trivial
  | event :: rest, gateway =>
      have : DecidablePred fun after => Gateway.SparesAll limiter after rest :=
        decidableSparesAll rest
      inferInstanceAs (Decidable (gateway.Spares limiter event ∧ _))

structure Sound (gateway : Gateway) : Prop where
  phased : ∀ call ∈ gateway.calls, ∃ phase, call.At limiter phase
  distinct : (gateway.calls.map Call.member).Nodup
  started : ∀ call ∈ gateway.calls, call.nowMs ≤ gateway.clock
  present : ∀ call ∈ gateway.calls, call.counting = true ∨ call.granted = true →
    call.entry ∈ (gateway.keys call.key).members.rows ∨
      gateway.Spent limiter call.key call.nowMs
  bounded : ∀ (subject : String) (instant : ℤ) (members : Finset String),
    (∀ member ∈ members, ∃ call ∈ gateway.calls, call.member = member ∧ call.subject = subject ∧
      instant - limiter.windowMs < call.nowMs ∧ call.nowMs ≤ instant ∧ call.granted = true) →
    (members.card : ℤ) ≤ limiter.limit

variable {limiter} {gateway after : Gateway}

theorem Sound.tick (sound : Sound limiter gateway) {later : ℤ}
    (spares : gateway.Spares limiter (.tick later))
    (ticked : gateway.step limiter (.tick later) = some after) : Sound limiter after := by
  simp only [Gateway.step, Option.ite_none_right_eq_some, Option.some.injEq] at ticked
  obtain ⟨grows, rfl⟩ := ticked
  refine ⟨sound.phased, sound.distinct, fun call member => (sound.started call member).trans grows,
    fun call member live => ?_, sound.bounded⟩
  rcases sound.present call member live with held | ⟨old, others⟩
  · by_cases gone : (gateway.keys call.key).expired later = true
    · exact .inr (spares call member gone call.entry held)
    · exact .inl (by simpa [gone] using held)
  · exact .inr ⟨old.trans (by simpa using grows), others⟩

theorem Sound.start (sound : Sound limiter gateway) {subject suffix : String}
    (started : gateway.step limiter (.start subject suffix) = some after) :
    Sound limiter after := by
  simp only [Gateway.step, Gateway.startCall, Option.ite_none_left_eq_some,
    Option.some.injEq] at started
  obtain ⟨fresh, rfl⟩ := started
  set call : Call := ⟨subject, gateway.clock, toString gateway.clock ++ "-" ++ suffix,
    limiter.check (keyOf subject) gateway.clock (toString gateway.clock ++ "-" ++ suffix)⟩ with new
  have pruning : call.At limiter .pruning := rfl
  have flags := Call.pruning_flags pruning
  refine ⟨?_, ?_, ?_, ?_, ?_⟩
  · rw [List.forall_mem_append, List.forall_mem_singleton]
    exact ⟨sound.phased, _, pruning⟩
  · rw [List.map_append, List.map_singleton, ← List.concat_eq_append, List.nodup_concat]
    exact ⟨fresh, sound.distinct⟩
  · rw [List.forall_mem_append, List.forall_mem_singleton]
    exact ⟨sound.started, le_rfl⟩
  · rw [List.forall_mem_append, List.forall_mem_singleton]
    refine ⟨fun other member live => ?_, fun live => by simp [flags] at live⟩
    rcases sound.present other member live with held | ⟨old, others⟩
    · exact .inl held
    · refine .inr ⟨old, ?_⟩
      rw [List.forall_mem_append, List.forall_mem_singleton]
      exact ⟨others, fun _ _ => old⟩
  · intro subject instant members each
    refine sound.bounded subject instant members fun member among => ?_
    obtain ⟨other, known, rest⟩ := each member among
    rcases List.mem_append.mp known with old | last
    · exact ⟨other, old, rest⟩
    · obtain rfl := List.mem_singleton.mp last
      simp [flags] at rest

theorem Sound.counted (sound : Sound limiter gateway) {call : Call} (known : call ∈ gateway.calls)
    (counting : call.counting = true) {instant : ℤ} (early : call.nowMs ≤ instant)
    {members : Finset String}
    (each : ∀ member ∈ members, ∃ other ∈ gateway.calls, other.member = member ∧
      other.subject = call.subject ∧ instant - limiter.windowMs < other.nowMs ∧
        (other = call ∨ other.granted = true)) :
    members.card ≤ (gateway.keys call.key).members.rows.length := by
  have among : members ⊆
      ((gateway.keys call.key).members.rows.map ScoredMember.member).toFinset := by
    intro member wanted
    obtain ⟨other, there, rfl, subject, within, live⟩ := each member wanted
    have key : other.key = call.key := by rw [Call.key, subject, Call.key]
    have standing : other.counting = true ∨ other.granted = true := by
      rcases live with same | granted
      · exact .inl (same ▸ counting)
      · exact .inr granted
    rcases sound.present other there standing with held | ⟨_, others⟩
    · rw [List.mem_toFinset, List.mem_map]
      exact ⟨other.entry, key ▸ held, rfl⟩
    · have outside := others call known key.symm (Call.uncounted_of_counting counting)
      omega
  calc members.card
      ≤ ((gateway.keys call.key).members.rows.map ScoredMember.member).toFinset.card :=
        Finset.card_le_card among
    _ ≤ ((gateway.keys call.key).members.rows.map ScoredMember.member).length :=
        List.toFinset_card_le _
    _ = (gateway.keys call.key).members.rows.length := List.length_map _

section Command

variable {index : ℕ} {call : Call} {keys : Keyspace} {rest : Program RateDecision}

theorem map_member_set (here : gateway.calls[index]? = some call) :
    (gateway.calls.set index { call with rest := rest }).map Call.member =
      gateway.calls.map Call.member := by
  obtain ⟨inside, same⟩ := List.getElem?_eq_some_iff.mp here
  rw [List.map_set]
  refine List.ext_getElem (by simp) fun i _ _ => ?_
  rw [List.getElem_set]
  split
  next eq =>
    subst eq
    rw [List.getElem_map, same]
  next => rfl

theorem mem_calls_set (sound : Sound limiter gateway) (here : gateway.calls[index]? = some call)
    {other : Call} (member : other ∈ gateway.calls.set index { call with rest := rest }) :
    other = { call with rest := rest } ∨ other ∈ gateway.calls ∧ other.member ≠ call.member := by
  obtain ⟨inside, _⟩ := List.getElem?_eq_some_iff.mp here
  have distinct : ((gateway.calls.set index { call with rest := rest }).map Call.member).Nodup := by
    rw [map_member_set here]
    exact sound.distinct
  have moved := List.mem_set inside { call with rest := rest }
  by_cases same : other.member = call.member
  · exact .inl (List.inj_on_of_nodup_map distinct member moved same)
  · rcases List.mem_or_eq_of_mem_set member with old | rfl
    · exact .inr ⟨old, same⟩
    · exact .inl rfl

theorem Gateway.Spent.move {key : String} {score : ℤ} (spent : gateway.Spent limiter key score)
    (known : call ∈ gateway.calls) (waits : { call with rest := rest }.uncounted = true →
      call.uncounted = true) : { gateway with
        keys := keys, calls := gateway.calls.set index { call with rest := rest } }.Spent
        limiter key score := by
  refine ⟨spent.1, fun other member same uncounted => ?_⟩
  rcases List.mem_or_eq_of_mem_set member with old | rfl
  · exact spent.2 other old same uncounted
  · exact spent.2 call known same (waits uncounted)

theorem Sound.present_moved (sound : Sound limiter gateway) (window : 0 < limiter.windowS)
    (index : ℕ) (known : call ∈ gateway.calls)
    (moves : Moves limiter gateway.clock gateway.keys call keys rest)
    (live : { call with rest := rest }.counting = true ∨
      { call with rest := rest }.granted = true) :
    call.entry ∈ (keys call.key).members.rows ∨ { gateway with
      keys := keys, calls := gateway.calls.set index { call with rest := rest } }.Spent
      limiter call.key call.nowMs := by
  by_cases before : call.counting = true ∨ call.granted = true
  · rcases sound.present call known before with held | spent
    · exact .inl (moves.writes.kept_own window before held)
    · exact .inr (spent.move known moves.uncounted)
  · rcases live with counts | grants
    · rw [moves.counting counts, rows_zadd, if_pos rfl, mem_put]
      exact .inl (.inr rfl)
    · rcases moves.granted grants with already | ⟨counts, _⟩
      · exact absurd (.inr already) before
      · exact absurd (.inl counts) before

theorem Sound.bounded_moved (sound : Sound limiter gateway)
    (here : gateway.calls[index]? = some call) (known : call ∈ gateway.calls)
    (moves : Moves limiter gateway.clock gateway.keys call keys rest) (subject : String)
    (instant : ℤ) (members : Finset String)
    (each : ∀ member ∈ members, ∃ other ∈ gateway.calls.set index { call with rest := rest },
      other.member = member ∧ other.subject = subject ∧ instant - limiter.windowMs < other.nowMs ∧
        other.nowMs ≤ instant ∧ other.granted = true) : (members.card : ℤ) ≤ limiter.limit := by
  -- The moved call either was granted before, or it has just counted and found room.
  by_cases room : call.counting = true ∧
      (gateway.keys call.key).members.rows.length ≤ limiter.limit ∧ call.subject = subject ∧
      instant - limiter.windowMs < call.nowMs ∧ call.nowMs ≤ instant
  · obtain ⟨counts, few, rfl, _, early⟩ := room
    have counted := sound.counted known counts early fun member among => by
      obtain ⟨other, there, name, same, afterwards, _, grants⟩ := each member among
      rcases mem_calls_set sound here there with rfl | ⟨old, _⟩
      · exact ⟨call, known, name, same, afterwards, .inl rfl⟩
      · exact ⟨other, old, name, same, afterwards, .inr grants⟩
    omega
  · refine sound.bounded subject instant members fun member among => ?_
    obtain ⟨other, there, name, same, afterwards, before, grants⟩ := each member among
    rcases mem_calls_set sound here there with rfl | ⟨old, _⟩
    · rcases moves.granted grants with already | ⟨counts, _, few⟩
      · exact ⟨call, known, name, same, afterwards, before, already⟩
      · exact absurd ⟨counts, few, same, afterwards, before⟩ room
    · exact ⟨other, old, name, same, afterwards, before, grants⟩

end Command

theorem Sound.command (sound : Sound limiter gateway) (window : 0 < limiter.windowS)
    {index : ℕ} {outcome : Outcome} (spares : gateway.Spares limiter (.command index outcome))
    (advanced : gateway.step limiter (.command index outcome) = some after) :
    Sound limiter after := by
  cases here : gateway.calls[index]? with
  | none => simp [Gateway.step, Gateway.advance, here] at advanced
  | some call =>
      have known := List.mem_of_getElem? here
      obtain ⟨keys, rest, rfl, moves⟩ := advance_cases here (sound.phased call known) advanced
      refine ⟨?_, ?_, ?_, ?_, ?_⟩
      · intro other member
        rcases mem_calls_set sound here member with rfl | ⟨old, _⟩
        · exact moves.phased
        · exact sound.phased other old
      · rw [map_member_set here]
        exact sound.distinct
      · intro other member
        rcases mem_calls_set sound here member with rfl | ⟨old, _⟩
        · exact sound.started call known
        · exact sound.started other old
      · intro other member live
        rcases mem_calls_set sound here member with rfl | ⟨old, apart⟩
        · have kept := sound.present_moved window index known moves live
          exact kept
        · rcases sound.present other old live with held | spent
          · rcases moves.writes.kept window held with stays | ⟨_, own⟩ | ⟨pruning, key, early⟩
            · exact .inl stays
            · exact absurd own apart
            · have prune := Call.prunes_of_pruning pruning
              have pruned := spares call here _ prune other.entry (key ▸ held) early
              rw [← key] at pruned
              exact .inr (pruned.move known moves.uncounted)
          · exact .inr (spent.move known moves.uncounted)
      · exact sound.bounded_moved here known moves

theorem Sound.step (sound : Sound limiter gateway) (window : 0 < limiter.windowS) {event : Event}
    (spares : gateway.Spares limiter event) (stepped : gateway.step limiter event = some after) :
    Sound limiter after := by
  cases event with
  | tick later => exact sound.tick spares stepped
  | start subject suffix => exact sound.start stepped
  | command index outcome => exact sound.command window spares stepped

theorem Sound.run (sound : Sound limiter gateway) (window : 0 < limiter.windowS)
    {events : List Event} (spares : gateway.SparesAll limiter events)
    (ran : gateway.run limiter events = some after) : Sound limiter after := by
  induction events generalizing gateway with
  | nil =>
      obtain rfl := Option.some.inj ran
      exact sound
  | cons event rest ih =>
      obtain ⟨middle, stepped, ran⟩ := Option.bind_eq_some_iff.mp ran
      exact ih (sound.step window spares.1 stepped) (spares.2 middle stepped) ran

theorem sound_initial (limits : 0 ≤ limiter.limit) (clock : ℤ) :
    Sound limiter { clock := clock } where
  phased := by simp
  distinct := List.nodup_nil
  started := by simp
  present := by simp
  bounded := by
    intro subject instant members each
    have none : members = ∅ := by
      refine Finset.eq_empty_of_forall_notMem fun member among => ?_
      obtain ⟨call, known, _⟩ := each member among
      simp at known
    simpa [none] using limits

theorem Call.granted_of_allowed {call : Call} (allows : call.allowed = true) :
    call.granted = true := by
  unfold allowed at allows
  unfold granted
  split at allows
  next rest => rwa [rest]
  next => contradiction

theorem Sound.limited (sound : Sound limiter gateway) (subject : String) (instant : ℤ) :
    ((gateway.allowedIn limiter subject instant).length : ℤ) ≤ limiter.limit := by
  have distinct : ((gateway.allowedIn limiter subject instant).map Call.member).Nodup :=
    sound.distinct.sublist (List.filter_sublist.map Call.member)
  have bound := sound.bounded subject instant
    ((gateway.allowedIn limiter subject instant).map Call.member).toFinset fun member among => by
      rw [List.mem_toFinset, List.mem_map] at among
      obtain ⟨call, within, rfl⟩ := among
      simp only [Gateway.allowedIn, List.mem_filter, Bool.and_eq_true, decide_eq_true_eq] at within
      obtain ⟨known, ⟨⟨same, late⟩, early⟩, allows⟩ := within
      exact ⟨call, known, rfl, same, late, early, Call.granted_of_allowed allows⟩
  rwa [List.toFinset_card_of_nodup distinct, List.length_map] at bound

/-- The limit holds in every window, in every run whose prunes and expiries drop only members that
no call has still to count. -/
theorem window_limited (limiter : SlidingWindowLimiter) (limits : 1 ≤ limiter.limit) (clock : ℤ)
    (events : List Event) (after : Gateway)
    (spares : ({ clock := clock } : Gateway).SparesAll limiter events)
    (ran : ({ clock := clock } : Gateway).run limiter events = some after) (subject : String)
    (instant : ℤ) :
    ((after.allowedIn limiter subject instant).length : ℤ) ≤ limiter.limit := by
  by_cases window : 0 < limiter.windowS
  · exact ((sound_initial (by omega) clock).run window spares ran).limited subject instant
  · have none : after.allowedIn limiter subject instant = [] := by
      refine List.filter_eq_nil_iff.mpr fun call _ within => ?_
      simp only [Bool.and_eq_true, decide_eq_true_eq] at within
      obtain ⟨⟨⟨_, late⟩, early⟩, _⟩ := within
      rw [SlidingWindowLimiter.windowMs] at late
      omega
    rw [none, List.length_nil]
    omega

end Runs

namespace Sample

def limiter : SlidingWindowLimiter where
  limit := 1
  windowS := 1

def apart : List Event :=
  [.start "vix-admin" "a", .command 0 .replied, .command 0 .replied, .command 0 .replied,
    .command 0 .replied, .tick 1001, .start "vix-admin" "b", .command 1 .replied,
    .command 1 .replied, .command 1 .replied, .command 1 .replied]

def overtaken : List Event :=
  [.start "vix-admin" "a", .command 0 .replied, .command 0 .replied, .command 0 .replied,
    .command 0 .replied, .tick 999, .start "vix-admin" "b", .command 1 .replied,
    .tick 1000, .start "vix-admin" "c", .command 2 .replied,
    .command 1 .replied, .command 1 .replied, .command 1 .replied]

end Sample

theorem window_limited_apart : ∃ after,
    ({ clock := 0 } : Gateway).run Sample.limiter Sample.apart = some after ∧
      (after.calls.map Call.allowed = [true, true]) ∧
        ((after.allowedIn Sample.limiter "vix-admin" 1001).length : ℤ) ≤ 1 :=
  ⟨_, rfl, rfl, window_limited Sample.limiter (by decide) 0 Sample.apart _ (by decide) rfl
    "vix-admin" 1001⟩

/-- Two calls in one window are allowed where the limit is one. -/
theorem window_overrun : ¬∀ (limiter : SlidingWindowLimiter), 1 ≤ limiter.limit →
    ∀ (clock : ℤ) (events : List Event) (after : Gateway),
      ({ clock := clock } : Gateway).run limiter events = some after →
        ∀ (subject : String) (instant : ℤ),
          ((after.allowedIn limiter subject instant).length : ℤ) ≤ limiter.limit := by
  intro limited
  have within := limited Sample.limiter (by decide) 0 Sample.overtaken _ rfl "vix-admin" 999
  exact absurd within (by decide)

end RateLimit

end Vix75
