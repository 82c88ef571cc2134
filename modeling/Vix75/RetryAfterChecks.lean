import Mathlib.Algebra.Order.BigOperators.Group.List
import Vix75.RateLimitChecks

/-! The calls of one subject, one after the other: whether the wait that a rejected call announces
is long enough for the next one. -/

namespace Vix75

open EffectProgram

namespace RateLimit

/-- A call of `check`: when it comes, and the end of the member that it draws. -/
structure Visit where
  nowMs : ℤ
  suffix : String
deriving DecidableEq

def Visit.member (call : Visit) : String := toString call.nowMs ++ "-" ++ call.suffix

def serve (clock : ℤ) (keys : Keyspace) (command : RedisCommand) :
    Except PyError command.Reply × Keyspace :=
  let (reply, after) := execute clock keys command
  (.ok reply, after)

def live (clock : ℤ) (keys : Keyspace) : Keyspace :=
  fun key => if (keys key).expired clock then {} else keys key

def visit (limiter : SlidingWindowLimiter) (subject : String) (keys : Keyspace) (call : Visit) :
    Except PyError RateDecision × Keyspace :=
  Prog.eval (serve call.nowMs) (live call.nowMs keys)
    (limiter.check (keyOf subject) call.nowMs call.member)

def visits (limiter : SlidingWindowLimiter) (subject : String) (keys : Keyspace)
    (calls : List Visit) : Keyspace :=
  calls.foldl (fun keys call => (visit limiter subject keys call).2) keys

def recorded (limiter : SlidingWindowLimiter) (subject : String) (keys : Keyspace) (call : Visit) :
    List ScoredMember :=
  (((live call.nowMs keys (keyOf subject)).members.keep fun entry =>
    call.nowMs - limiter.windowMs < entry.score).put ⟨call.member, call.nowMs⟩).rows

def ByScore (first second : ScoredMember) : Prop :=
  first.score < second.score ∨ first.score = second.score ∧ first.member ≤ second.member
instance : DecidableRel ByScore := fun _ _ => inferInstanceAs (Decidable (_ ∨ _ ∧ _))
instance : Std.Total ByScore where
  total := by
    intro first second
    rcases lt_trichotomy first.score second.score with less | same | more
    · exact .inl (.inl less)
    · rcases String.le_total first.member second.member with below | above
      · exact .inl (.inr ⟨same, below⟩)
      · exact .inr (.inr ⟨same.symm, above⟩)
    · exact .inr (.inl more)

instance : IsTrans ScoredMember ByScore where
  trans := by
    rintro first second third (less | ⟨same, below⟩) (less' | ⟨same', below'⟩)
    · exact .inl (less.trans less')
    · exact .inl (same' ▸ less)
    · exact .inl (same ▸ less')
    · exact .inr ⟨same.trans same', String.le_trans below below'⟩

theorem head_of_sorted {entries : List ScoredMember} {head : ScoredMember}
    (first : (entries.insertionSort ByScore).head? = some head) :
    head ∈ entries ∧ ∀ other ∈ entries, head.score ≤ other.score := by
  have sorted := List.pairwise_insertionSort ByScore entries
  obtain ⟨rest, whole⟩ := List.head?_eq_some_iff.mp first
  have among (entry : ScoredMember) : entry ∈ entries ↔ entry ∈ head :: rest := by
    rw [← whole, List.mem_insertionSort]
  rw [whole] at sorted
  refine ⟨(among head).mpr List.mem_cons_self, fun other member => ?_⟩
  rcases List.mem_cons.mp ((among other).mp member) with rfl | later
  · exact le_rfl
  · rcases List.rel_of_pairwise_cons sorted later with less | ⟨same, _⟩
    · exact less.le
    · exact same.le

section Visits

variable {limiter : SlidingWindowLimiter} {subject : String} {keys : Keyspace} {call : Visit}

def conclusion (limiter : SlidingWindowLimiter) (call : Visit) (count : ℕ)
    (oldest : Option ScoredMember) : RateDecision :=
  if count ≤ limiter.limit then ⟨true, max (limiter.limit - count) 0, 0⟩
  else
    let oldestMs := match oldest with
      | some oldest => oldest.score
      | none => call.nowMs - limiter.windowMs
    ⟨false, 0, max 1 ⌈((oldestMs + limiter.windowMs - call.nowMs : ℤ) : ℚ) / 1000⌉⟩

def recording (limiter : SlidingWindowLimiter) (subject : String) (keys : Keyspace)
    (call : Visit) : Keyspace :=
  (execute call.nowMs (execute call.nowMs (live call.nowMs keys)
    (.zremrangebyscore (keyOf subject) (call.nowMs - limiter.windowMs))).2
    (.zadd (keyOf subject) call.member call.nowMs)).2

theorem rows_recording : (recording limiter subject keys call (keyOf subject)).members.rows =
    recorded limiter subject keys call := by
  rw [recording, rows_zadd, if_pos rfl]
  simp only [recorded, KeyedTable.put, KeyedTable.erase, rows_zremrangebyscore, if_true]
  rfl

def visited (limiter : SlidingWindowLimiter) (subject : String) (keys : Keyspace) (call : Visit) :
    Keyspace :=
  (execute call.nowMs (recording limiter subject keys call)
    (.expire (keyOf subject) limiter.windowS)).2

theorem visit_eq : visit limiter subject keys call =
    (.ok (conclusion limiter call (recorded limiter subject keys call).length
      (execute call.nowMs (visited limiter subject keys call) (.zrange (keyOf subject))).1),
      visited limiter subject keys call) := by
  have counted : (execute call.nowMs (recording limiter subject keys call)
      (.zcard (keyOf subject))).1 = (recorded limiter subject keys call).length :=
    congrArg List.length rows_recording
  have concludes : visit limiter subject keys call =
      Prog.eval (serve call.nowMs) (visited limiter subject keys call)
        (limiter.conclude (keyOf subject) call.nowMs (execute call.nowMs
          (recording limiter subject keys call) (.zcard (keyOf subject))).1) := rfl
  rw [concludes, counted]
  unfold SlidingWindowLimiter.conclude conclusion
  split
  next within => rfl
  next beyond =>
    obtain ⟨oldest, looked⟩ : ∃ oldest, execute call.nowMs (visited limiter subject keys call)
        (.zrange (keyOf subject)) = (oldest, visited limiter subject keys call) := ⟨_, rfl⟩
    rw [Prog.eval_perform_bind, serve, looked]
    cases oldest <;> rfl

theorem rows_visited (window : 0 < limiter.windowS) :
    (visited limiter subject keys call (keyOf subject)).members.rows =
      recorded limiter subject keys call := by
  rw [visited, rows_expire _ _ _ _ window, rows_recording]

theorem recorded_ne_nil : recorded limiter subject keys call ≠ [] := by
  simp [recorded, KeyedTable.put]

theorem expireAt_visited (window : 0 < limiter.windowS) :
    (visited limiter subject keys call (keyOf subject)).expireAt =
      some (call.nowMs + limiter.windowMs) := by
  have some_ : (recording limiter subject keys call (keyOf subject)).members.rows ≠ [] := by
    rw [rows_recording]
    exact recorded_ne_nil
  simp only [visited, execute, if_neg some_, if_neg (not_le.mpr window), Function.update_self,
    SlidingWindowLimiter.windowMs]

theorem visited_subset {entry : ScoredMember}
    (held : entry ∈ (visited limiter subject keys call (keyOf subject)).members.rows) :
    entry ∈ recorded limiter subject keys call := by
  rw [← rows_recording]
  simp only [visited, execute] at held
  split at held
  next empty => exact held
  next some_ =>
    split at held
    next closed =>
      simp only [Function.update_self] at held
      cases held
    next opened => simpa only [Function.update_self] using held

end Visits

/-! The members of a sequence of calls -/

section Sequence

variable {limiter : SlidingWindowLimiter} {subject : String} {keys : Keyspace} {call : Visit}

def Past (subject : String) (keys : Keyspace) (nowMs : ℤ) : Prop :=
  ∀ entry ∈ (keys (keyOf subject)).members.rows, entry.score ≤ nowMs

theorem mem_recorded {entry : ScoredMember} (held : entry ∈ recorded limiter subject keys call) :
    entry ∈ (keys (keyOf subject)).members.rows ∧
      call.nowMs - limiter.windowMs < entry.score ∨ entry = ⟨call.member, call.nowMs⟩ := by
  rw [recorded, mem_put] at held
  rcases held with ⟨kept, _⟩ | rfl
  · obtain ⟨member, late⟩ := List.mem_filter.mp kept
    refine .inl ⟨?_, of_decide_eq_true late⟩
    unfold live at member
    split at member
    next gone => cases member
    next here => exact member
  · exact .inr rfl

theorem Past.recorded (past : Past subject keys call.nowMs) :
    ∀ entry ∈ recorded limiter subject keys call, entry.score ≤ call.nowMs := by
  intro entry held
  rcases mem_recorded held with ⟨member, _⟩ | rfl
  · exact past entry member
  · exact le_rfl

theorem past_visits {calls : List Visit} {nowMs : ℤ} (start : Past subject keys nowMs)
    (ordered : calls.Pairwise fun earlier later => earlier.nowMs ≤ later.nowMs)
    (first : ∀ call ∈ calls, nowMs ≤ call.nowMs) {last : ℤ} (bound : nowMs ≤ last)
    (final : ∀ call ∈ calls, call.nowMs ≤ last) :
    Past subject (visits limiter subject keys calls) last := by
  induction calls generalizing keys nowMs with
  | nil => exact fun entry held => (start entry held).trans bound
  | cons call rest ih =>
      have later := List.pairwise_cons.mp ordered
      have here := first call List.mem_cons_self
      have past : Past subject keys call.nowMs := fun entry held => (start entry held).trans here
      have next : Past subject (visit limiter subject keys call).2 call.nowMs := by
        rw [visit_eq]
        exact fun entry held => past.recorded entry (visited_subset held)
      exact ih next later.2 later.1 (final call List.mem_cons_self) fun other member =>
        final other (List.mem_cons_of_mem _ member)

def survivors (limiter : SlidingWindowLimiter) (subject : String) (keys : Keyspace)
    (call : Visit) : List ScoredMember :=
  (live call.nowMs keys (keyOf subject)).members.rows.filter fun entry =>
    call.nowMs - limiter.windowMs < entry.score

theorem recorded_eq : recorded limiter subject keys call =
    (survivors limiter subject keys call).filter (fun entry => entry.member ≠ call.member) ++
      [⟨call.member, call.nowMs⟩] := rfl

theorem length_recorded_le : (recorded limiter subject keys call).length ≤
    (survivors limiter subject keys call).length + 1 := by
  rw [recorded_eq, List.length_append, List.length_singleton]
  exact Nat.add_le_add_right (List.length_filter_le _ _) 1

theorem window_of_beyond (past : Past subject keys call.nowMs) (positive : 1 ≤ limiter.limit)
    (beyond : limiter.limit < (recorded limiter subject keys call).length) :
    0 < limiter.windowS := by
  by_contra none_
  have empty : survivors limiter subject keys call = [] := by
    rw [survivors, List.filter_eq_nil_iff]
    intro entry held late
    have late := of_decide_eq_true late
    have early : entry.score ≤ call.nowMs := by
      unfold live at held
      split at held
      next gone => cases held
      next here => exact past entry held
    rw [SlidingWindowLimiter.windowMs] at late
    omega
  have few : (recorded limiter subject keys call).length ≤
      (survivors limiter subject keys call).length + 1 := length_recorded_le
  rw [empty, List.length_nil] at few
  omega

theorem rejected_cases (past : Past subject keys call.nowMs) (positive : 1 ≤ limiter.limit)
    {remaining retryAfterS : ℤ}
    (rejected : (visit limiter subject keys call).1 = .ok ⟨false, remaining, retryAfterS⟩) :
    0 < limiter.windowS ∧ ∃ oldest ∈ recorded limiter subject keys call,
      (∀ other ∈ recorded limiter subject keys call, oldest.score ≤ other.score) ∧
        retryAfterS =
          max 1 ⌈((oldest.score + limiter.windowMs - call.nowMs : ℤ) : ℚ) / 1000⌉ := by
  rw [visit_eq] at rejected
  have decided := Except.ok.inj rejected
  unfold conclusion at decided
  split at decided
  next within => simp at decided
  next beyond =>
    have window := window_of_beyond past positive (not_le.mp beyond)
    have ranged : (execute call.nowMs (visited limiter subject keys call)
        (.zrange (keyOf subject))).1 =
          ((recorded limiter subject keys call).insertionSort ByScore).head? := by
      rw [← rows_visited window]
      rfl
    have some_ : ((recorded limiter subject keys call).insertionSort ByScore).head?.isSome := by
      rw [List.isSome_head?, ← List.length_pos_iff, List.length_insertionSort,
        List.length_pos_iff]
      exact recorded_ne_nil
    obtain ⟨oldest, first⟩ := Option.isSome_iff_exists.mp some_
    obtain ⟨member, least⟩ := head_of_sorted first
    rw [ranged, first] at decided
    exact ⟨window, oldest, member, least, (RateDecision.mk.inj decided).2.2.symm⟩

theorem survivors_visited (past : Past subject keys call.nowMs) (window : 0 < limiter.windowS)
    (next : Visit) : survivors limiter subject (visited limiter subject keys call) next =
      (recorded limiter subject keys call).filter fun entry =>
        next.nowMs - limiter.windowMs < entry.score := by
  rw [survivors, live]
  split
  next gone =>
    rw [SortedSet.expired, expireAt_visited window] at gone
    have gone : call.nowMs + limiter.windowMs < next.nowMs := of_decide_eq_true gone
    have empty : (recorded limiter subject keys call).filter (fun entry =>
        decide (next.nowMs - limiter.windowMs < entry.score)) = [] := by
      rw [List.filter_eq_nil_iff]
      intro entry held late
      have late := of_decide_eq_true late
      have early := past.recorded entry held
      omega
    rw [empty]
    rfl
  next here => rw [rows_visited window]

theorem allowed_iff : (∃ decision, (visit limiter subject keys call).1 = .ok decision ∧
    decision.allowed = true) ↔
      ((recorded limiter subject keys call).length : ℤ) ≤ limiter.limit := by
  rw [visit_eq]
  constructor
  · rintro ⟨decision, same, allowed⟩
    obtain rfl := Except.ok.inj same
    by_contra beyond
    simp [conclusion, beyond] at allowed
  · intro within
    exact ⟨_, rfl, by simp [conclusion, within]⟩

theorem exists_fresh (entries : List ScoredMember) (nowMs : ℤ) : ∃ suffix,
    ∀ entry ∈ entries, entry.member ≠ Visit.member ⟨nowMs, suffix⟩ := by
  refine ⟨String.ofList (List.replicate
    ((entries.map fun entry => entry.member.length).sum + 1) 'f'), ?_⟩
  intro entry held same
  have short : entry.member.length ≤ (entries.map fun entry => entry.member.length).sum :=
    List.le_sum_of_mem (List.mem_map_of_mem held)
  rw [same] at short
  simp [Visit.member, String.length_append] at short
  omega

/-- The wait of a rejection is long enough if fewer recorded members than the limit are in the
window when it ends. -/
def LongEnough (limiter : SlidingWindowLimiter) (entries : List ScoredMember) (nowMs : ℤ) : Prop :=
  ∀ oldest ∈ entries, (∀ other ∈ entries, oldest.score ≤ other.score) →
    ((entries.filter fun entry =>
      nowMs + 1000 * max 1 ⌈((oldest.score + limiter.windowMs - nowMs : ℤ) : ℚ) / 1000⌉ -
        limiter.windowMs < entry.score).length : ℤ) < limiter.limit

theorem longEnough_iff (past : Past subject keys call.nowMs) (positive : 1 ≤ limiter.limit)
    {remaining retryAfterS : ℤ}
    (rejected : (visit limiter subject keys call).1 = .ok ⟨false, remaining, retryAfterS⟩) :
    LongEnough limiter (recorded limiter subject keys call) call.nowMs ↔
      (((recorded limiter subject keys call).filter fun entry =>
        call.nowMs + 1000 * retryAfterS - limiter.windowMs < entry.score).length : ℤ) <
          limiter.limit := by
  obtain ⟨_, oldest, member, least, rfl⟩ := rejected_cases past positive rejected
  constructor
  · exact fun enough => enough oldest member least
  · intro few other held lowest
    rw [le_antisymm (lowest oldest member) (least other held)]
    exact few

end Sequence

namespace Sample

def twice : SlidingWindowLimiter where
  limit := 2

def early : List Visit := [⟨0, "a"⟩, ⟨0, "b"⟩]

theorem twice_early : (visit twice "u" (visits twice "u" (fun _ => {}) early) ⟨59000, "c"⟩).1 =
    .ok ⟨false, 0, 1⟩ := by
  decide +kernel

def once : SlidingWindowLimiter where
  limit := 1

end Sample

/-- The announced wait is long enough for every later call exactly if fewer calls than the limit,
rejected ones included, are still in the window when it ends. -/
theorem retry_after_honest_iff (limiter : SlidingWindowLimiter) (positive : 1 ≤ limiter.limit)
    (subject : String) (calls : List Visit) (call : Visit)
    (ordered : (calls ++ [call]).Pairwise fun earlier later => earlier.nowMs ≤ later.nowMs)
    (remaining retryAfterS : ℤ)
    (rejected : (visit limiter subject (visits limiter subject (fun _ => {}) calls) call).1 =
      .ok ⟨false, remaining, retryAfterS⟩) :
    (∀ next : Visit, call.nowMs + 1000 * retryAfterS ≤ next.nowMs →
      ∃ decision, (visit limiter subject (visits limiter subject (fun _ => {}) (calls ++ [call]))
        next).1 = .ok decision ∧ decision.allowed = true) ↔
      LongEnough limiter (recorded limiter subject (visits limiter subject (fun _ => {}) calls)
        call) call.nowMs := by
  obtain ⟨before, _, final⟩ := List.pairwise_append.mp ordered
  have past : Past subject (visits limiter subject (fun _ => {}) calls) call.nowMs := by
    cases calls with
    | nil => exact fun _ => nofun
    | cons first rest =>
        have start : Past subject (fun _ => ({} : SortedSet)) first.nowMs := fun _ => nofun
        refine past_visits start before ?_ (final first (by simp) call (by simp))
          fun other member => final other member call (by simp)
        intro other member
        rcases List.mem_cons.mp member with rfl | later
        · exact le_rfl
        · exact (List.pairwise_cons.mp before).1 other later
  obtain ⟨window, _⟩ := rejected_cases past positive rejected
  have whole : visits limiter subject (fun _ => {}) (calls ++ [call]) =
      visited limiter subject (visits limiter subject (fun _ => {}) calls) call := by
    rw [visits, List.foldl_append, List.foldl_cons, List.foldl_nil, visit_eq]
    rfl
  rw [longEnough_iff past positive rejected, whole]
  constructor
  · intro allowed
    obtain ⟨suffix, fresh⟩ := exists_fresh (recorded limiter subject
      (visits limiter subject (fun _ => {}) calls) call) (call.nowMs + 1000 * retryAfterS)
    have within := allowed_iff.mp (allowed ⟨call.nowMs + 1000 * retryAfterS, suffix⟩ le_rfl)
    rw [recorded_eq, survivors_visited past window, List.length_append, List.length_singleton,
      List.filter_eq_self.mpr fun entry held =>
        decide_eq_true (fresh entry (List.mem_of_mem_filter held))] at within
    push_cast at within
    omega
  · intro few next later
    refine allowed_iff.mpr ?_
    have most : (recorded limiter subject (visited limiter subject
        (visits limiter subject (fun _ => {}) calls) call) next).length ≤ _ := length_recorded_le
    rw [survivors_visited past window] at most
    have fewer : ((recorded limiter subject (visits limiter subject (fun _ => {}) calls)
        call).filter fun entry => next.nowMs - limiter.windowMs < entry.score).length ≤
        ((recorded limiter subject (visits limiter subject (fun _ => {}) calls) call).filter
          fun entry => call.nowMs + 1000 * retryAfterS - limiter.windowMs <
            entry.score).length := by
      refine (List.monotone_filter_right _ fun entry late => ?_).length_le
      have late := of_decide_eq_true late
      exact decide_eq_true (by omega)
    omega

theorem retry_after_honest_twice : ∃ decision,
    (visit Sample.twice "u" (visits Sample.twice "u" (fun _ => {}) (Sample.early ++
      [⟨59000, "c"⟩])) ⟨60000, "d"⟩).1 = .ok decision ∧ decision.allowed = true := by
  refine (retry_after_honest_iff Sample.twice (by decide) "u" Sample.early ⟨59000, "c"⟩ (by decide)
    0 1 Sample.twice_early).mpr ?_ ⟨60000, "d"⟩ (by decide)
  unfold LongEnough
  decide +kernel

/-- The rejected call of 59 s is itself in the window when its wait of one second ends. -/
theorem retry_after_too_short :
    (visit Sample.once "u" (visits Sample.once "u" (fun _ => {}) [⟨0, "a"⟩]) ⟨59000, "b"⟩).1 =
        .ok ⟨false, 0, 1⟩ ∧
      (visit Sample.once "u" (visits Sample.once "u" (fun _ => {}) [⟨0, "a"⟩, ⟨59000, "b"⟩])
        ⟨60000, "c"⟩).1 = .ok ⟨false, 0, 59⟩ := by
  decide +kernel

end RateLimit

end Vix75
