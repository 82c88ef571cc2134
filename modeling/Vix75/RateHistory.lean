import Mathlib.Data.List.Induction
import Vix75.RetryAfterChecks

/-! The limiter as a log: what a call is told follows from when the calls of its own subject came,
rejected ones included. -/

namespace Vix75

open EffectProgram

namespace RateLimit

structure Arrival where
  subject : String
  call : Visit
deriving DecidableEq

def arrivals (limiter : SlidingWindowLimiter) (history : List Arrival) : Keyspace :=
  history.foldl (fun keys arrival => (visit limiter arrival.subject keys arrival.call).2)
    fun _ => {}

def callsOf (subject : String) (history : List Arrival) : List Visit :=
  (history.filter fun arrival => arrival.subject = subject).map Arrival.call

def Visit.entry (call : Visit) : ScoredMember := ⟨call.member, call.nowMs⟩

def SlidingWindowLimiter.inWindow (limiter : SlidingWindowLimiter) (nowMs time : ℤ) : Bool :=
  nowMs - limiter.windowMs < time

/-- The answer of a log that keeps the time of every call. -/
def SlidingWindowLimiter.logged (limiter : SlidingWindowLimiter) (earlier : List ℤ) (nowMs : ℤ) :
    RateDecision :=
  let window := earlier.filter (limiter.inWindow nowMs) ++ [nowMs]
  if window.length ≤ limiter.limit then ⟨true, max (limiter.limit - window.length) 0, 0⟩
  else
    let oldestMs := window.head?.getD nowMs
    ⟨false, 0, max 1 ⌈((oldestMs + limiter.windowMs - nowMs : ℤ) : ℚ) / 1000⌉⟩

section History

variable {limiter : SlidingWindowLimiter} {subject other : String} {keys : Keyspace}
  {history : List Arrival} {call next : Visit}

theorem callsOf_concat (arrival : Arrival) : callsOf subject (history ++ [arrival]) =
    callsOf subject history ++ if arrival.subject = subject then [arrival.call] else [] := by
  rw [callsOf, List.filter_append, List.map_append, ← callsOf]
  by_cases own : arrival.subject = subject <;> simp [own]

theorem arrivals_concat (arrival : Arrival) : arrivals limiter (history ++ [arrival]) =
    visited limiter arrival.subject (arrivals limiter history) arrival.call := by
  rw [arrivals, List.foldl_append, List.foldl_cons, List.foldl_nil, visit_eq]
  rfl

theorem keyOf_injective : Function.Injective keyOf := fun _ _ same =>
  String.append_right_inj _ |>.mp same

theorem visited_of_ne {key : String} (apart : key ≠ keyOf subject) :
    visited limiter subject keys call key = live call.nowMs keys key := by
  have recorded_ : recording limiter subject keys call key = live call.nowMs keys key := by
    simp only [recording, execute, Function.update_of_ne apart]
  rw [← recorded_, visited]
  simp only [execute]
  split
  · rfl
  · split <;> exact Function.update_of_ne apart ..

theorem expired_mono {set : SortedSet} {clock later : ℤ} (after : clock ≤ later)
    (gone : set.expired clock = true) : set.expired later = true := by
  unfold SortedSet.expired at gone ⊢
  cases known : set.expireAt with
  | none => simp [known] at gone
  | some expireAt =>
      simp only [known, decide_eq_true_eq] at gone ⊢
      omega

theorem survivors_of_ne (apart : other ≠ subject) (after : call.nowMs ≤ next.nowMs) :
    survivors limiter other (visited limiter subject keys call) next =
      survivors limiter other keys next := by
  have elsewhere : keyOf other ≠ keyOf subject := fun same => apart (keyOf_injective same)
  rw [survivors, survivors, live, live, visited_of_ne elsewhere, live]
  by_cases gone : (keys (keyOf other)).expired call.nowMs = true
  · rw [if_pos gone, if_pos (expired_mono after gone)]
    rfl
  · rw [if_neg gone]

def windowOf (limiter : SlidingWindowLimiter) (subject : String) (history : List Arrival)
    (nowMs : ℤ) : List Visit :=
  (callsOf subject history).filter fun call => limiter.inWindow nowMs call.nowMs

theorem windowOf_concat (arrival : Arrival) (nowMs : ℤ) :
    windowOf limiter subject (history ++ [arrival]) nowMs =
      windowOf limiter subject history nowMs ++
        (if arrival.subject = subject then [arrival.call] else []).filter fun call =>
          limiter.inWindow nowMs call.nowMs := by
  rw [windowOf, callsOf_concat, List.filter_append]
  rfl

structure Logs (limiter : SlidingWindowLimiter) (subject : String) (history : List Arrival)
    (keys : Keyspace) : Prop where
  found : ∀ next : Visit, (∀ arrival ∈ history, arrival.call.nowMs ≤ next.nowMs) →
    survivors limiter subject keys next =
      (windowOf limiter subject history next.nowMs).map Visit.entry
  past : ∀ nowMs, (∀ arrival ∈ history, arrival.call.nowMs ≤ nowMs) → Past subject keys nowMs

theorem Logs.recorded (logs : Logs limiter subject history keys)
    (latest : ∀ arrival ∈ history, arrival.call.nowMs ≤ call.nowMs)
    (fresh : call.member ∉ (callsOf subject history).map Visit.member) :
    recorded limiter subject keys call =
      (windowOf limiter subject history call.nowMs ++ [call]).map Visit.entry := by
  rw [recorded_eq, logs.found call latest, List.map_append, List.filter_eq_self.mpr]
  · rfl
  · intro entry member
    obtain ⟨earlier, known, rfl⟩ := List.mem_map.mp member
    refine decide_eq_true fun same => fresh ?_
    exact List.mem_map.mpr ⟨earlier, List.mem_of_mem_filter known, same⟩

theorem filter_windowOf {nowMs later : ℤ} (after : nowMs ≤ later) :
    (windowOf limiter subject history nowMs).filter
        (fun call => limiter.inWindow later call.nowMs) =
      windowOf limiter subject history later := by
  rw [windowOf, windowOf, List.filter_filter]
  refine List.filter_congr fun call _ => ?_
  simp only [SlidingWindowLimiter.inWindow, ← Bool.decide_and]
  exact decide_eq_decide.mpr ⟨And.left, fun inside => ⟨inside, by omega⟩⟩

theorem Logs.step (logs : Logs limiter subject history keys) (window : 0 < limiter.windowS)
    {arrival : Arrival} (latest : ∀ earlier ∈ history, earlier.call.nowMs ≤ arrival.call.nowMs)
    (fresh : arrival.subject = subject →
      arrival.call.member ∉ (callsOf subject history).map Visit.member) :
    Logs limiter subject (history ++ [arrival])
      (visited limiter arrival.subject keys arrival.call) := by
  by_cases own : arrival.subject = subject
  · have held := logs.recorded latest (fresh own)
    have past := logs.past arrival.call.nowMs latest
    subst own
    refine ⟨fun next later => ?_, fun nowMs later entry member => ?_⟩
    · have after := later arrival (by simp)
      rw [survivors_visited past window, held, List.filter_map, windowOf_concat, if_pos rfl,
        ← filter_windowOf after, ← List.filter_append]
      rfl
    · have after := later arrival (by simp)
      exact (past.recorded entry (visited_subset member)).trans after
  · have apart : subject ≠ arrival.subject := fun same => own same.symm
    refine ⟨fun next later => ?_, fun nowMs later entry member => ?_⟩
    · rw [survivors_of_ne apart (later arrival (by simp)), windowOf_concat, if_neg own,
        List.filter_nil, List.append_nil]
      exact logs.found next fun earlier known => later earlier (by simp [known])
    · rw [visited_of_ne fun same => apart (keyOf_injective same), live] at member
      split at member
      · cases member
      · exact logs.past nowMs (fun earlier known => later earlier (by simp [known])) entry member

/-- The calls come in the order of their times, and the subject draws no member twice. -/
structure Sequential (subject : String) (history : List Arrival) : Prop where
  timed : history.Pairwise fun earlier later => earlier.call.nowMs ≤ later.call.nowMs
  distinct : ((callsOf subject history).map Visit.member).Nodup

theorem Sequential.before {arrival : Arrival}
    (sequential : Sequential subject (history ++ [arrival])) :
    Sequential subject history ∧
      (∀ earlier ∈ history, earlier.call.nowMs ≤ arrival.call.nowMs) ∧
      (arrival.subject = subject →
        arrival.call.member ∉ (callsOf subject history).map Visit.member) := by
  obtain ⟨timed, _, latest⟩ := List.pairwise_append.mp sequential.timed
  have distinct := sequential.distinct
  rw [callsOf_concat, List.map_append, List.nodup_append] at distinct
  refine ⟨⟨timed, distinct.1⟩, fun earlier known => latest earlier known arrival (by simp), ?_⟩
  intro own known
  exact distinct.2.2 _ known _ (by simp [own]) rfl

theorem logs_arrivals (window : 0 < limiter.windowS) (sequential : Sequential subject history) :
    Logs limiter subject history (arrivals limiter history) := by
  induction history using List.reverseRecOn with
  | nil =>
      refine ⟨fun next _ => ?_, fun nowMs _ entry member => ?_⟩
      · simp [survivors, arrivals, live, SortedSet.expired, KeyedTable.empty, windowOf, callsOf]
      · simp [arrivals, KeyedTable.empty] at member
  | append_singleton history arrival ih =>
      obtain ⟨earlier, latest, fresh⟩ := sequential.before
      rw [arrivals_concat]
      exact (ih earlier).step window latest fresh

/-! Decisions -/

def timesOf (subject : String) (history : List Arrival) : List ℤ :=
  (callsOf subject history).map Visit.nowMs

theorem times_windowOf (nowMs : ℤ) : (windowOf limiter subject history nowMs).map Visit.nowMs =
    (timesOf subject history).filter (limiter.inWindow nowMs) := by
  rw [timesOf, List.filter_map, windowOf]
  rfl

theorem oldest_of_sorted {calls : List Visit} {first : Visit} {rest : List Visit}
    (whole : calls = first :: rest) (timed : calls.Pairwise fun a b => a.nowMs ≤ b.nowMs) :
    ∃ oldest, ((calls.map Visit.entry).insertionSort ByScore).head? = some oldest ∧
      oldest.score = first.nowMs := by
  have some_ : (((calls.map Visit.entry).insertionSort ByScore).head?).isSome := by
    rw [List.isSome_head?, ← List.length_pos_iff, List.length_insertionSort, whole]
    simp
  obtain ⟨oldest, here⟩ := Option.isSome_iff_exists.mp some_
  obtain ⟨member, least⟩ := head_of_sorted here
  refine ⟨oldest, here, le_antisymm ?_ ?_⟩
  · exact least first.entry (List.mem_map.mpr ⟨first, by simp [whole], rfl⟩)
  · obtain ⟨call, known, rfl⟩ := List.mem_map.mp member
    rw [whole] at known timed
    rcases List.mem_cons.mp known with rfl | later
    · exact le_rfl
    · exact (List.pairwise_cons.mp timed).1 call later

end History

theorem Sequential.calls_timed {subject : String} {history : List Arrival}
    (sequential : Sequential subject history) :
    (callsOf subject history).Pairwise fun earlier later => earlier.nowMs ≤ later.nowMs := by
  rw [callsOf, List.pairwise_map]
  exact sequential.timed.sublist List.filter_sublist

theorem visit_logged {limiter : SlidingWindowLimiter} (window : 0 < limiter.windowS)
    {history : List Arrival} {last : Arrival}
    (sequential : Sequential last.subject (history ++ [last])) :
    (visit limiter last.subject (arrivals limiter history) last.call).1 =
      .ok (limiter.logged (timesOf last.subject history) last.call.nowMs) := by
  obtain ⟨earlier, latest, fresh⟩ := sequential.before
  have held := (logs_arrivals window earlier).recorded latest (fresh rfl)
  obtain ⟨calls, whole⟩ : ∃ calls,
      calls = windowOf limiter last.subject history last.call.nowMs ++ [last.call] := ⟨_, rfl⟩
  have times : (timesOf last.subject history).filter (limiter.inWindow last.call.nowMs) ++
      [last.call.nowMs] = calls.map Visit.nowMs := by
    rw [whole, List.map_append, times_windowOf]
    rfl
  have ranged : (execute last.call.nowMs (visited limiter last.subject (arrivals limiter history)
      last.call) (.zrange (keyOf last.subject))).1 =
        ((calls.map Visit.entry).insertionSort ByScore).head? := by
    rw [whole, ← held, ← rows_visited window]
    rfl
  have timed : calls.Pairwise fun earlier later => earlier.nowMs ≤ later.nowMs := by
    have all := sequential.calls_timed
    rw [callsOf_concat, if_pos rfl] at all
    rw [whole]
    exact all.sublist (List.filter_sublist.append_right _)
  obtain ⟨first, rest, started⟩ : ∃ first rest, calls = first :: rest :=
    List.exists_cons_of_ne_nil (by rw [whole]; simp)
  obtain ⟨oldest, sorted, score⟩ := oldest_of_sorted started timed
  have counted : (recorded limiter last.subject (arrivals limiter history) last.call).length =
      calls.length := by
    rw [held, ← whole, List.length_map]
  rw [visit_eq, counted, ranged, sorted, conclusion, SlidingWindowLimiter.logged, times,
    List.length_map, started]
  simp only [List.map_cons, List.head?_cons, Option.getD_some, score]

theorem logged_allowed_iff {limiter : SlidingWindowLimiter} {earlier : List ℤ} {nowMs : ℤ} :
    (limiter.logged earlier nowMs).allowed = true ↔
      ((earlier.filter fun time => nowMs - limiter.windowMs < time).length : ℤ) <
        limiter.limit := by
  change _ ↔ ((earlier.filter (limiter.inWindow nowMs)).length : ℤ) < limiter.limit
  simp only [SlidingWindowLimiter.logged, List.length_append, List.length_singleton]
  split <;> simp <;> omega

theorem length_late_le_iff {times : List ℤ} {bound : ℤ} {k : ℕ}
    (back : times.Pairwise fun later earlier => earlier ≤ later) :
    (times.filter fun time => bound < time).length ≤ k ↔
      ∀ time, times[k]? = some time → time ≤ bound := by
  induction times generalizing k with
  | nil => simp
  | cons first rest ih =>
      obtain ⟨least, ordered⟩ := List.pairwise_cons.mp back
      by_cases late : bound < first
      · rw [List.filter_cons_of_pos (by simpa using late), List.length_cons]
        cases k with
        | zero => simp [late]
        | succ k => rw [Nat.add_le_add_iff_right, ih ordered, List.getElem?_cons_succ]
      · have none_ : ∀ time ∈ first :: rest, time ≤ bound := fun time member => by
          rcases List.mem_cons.mp member with rfl | other
          · exact not_lt.mp late
          · exact (least time other).trans (not_lt.mp late)
        rw [List.filter_eq_nil_iff.mpr fun time member => by simpa using none_ time member]
        simp only [List.length_nil, Nat.zero_le, true_iff]
        exact fun time here => none_ time (List.mem_of_getElem? here)

def limitBefore (limiter : SlidingWindowLimiter) (earlier : List ℤ) : Option ℤ :=
  earlier.reverse[limiter.limit.toNat - 1]?

theorem logged_allowed_iff_spaced {limiter : SlidingWindowLimiter} (positive : 1 ≤ limiter.limit)
    {earlier : List ℤ} {nowMs : ℤ} (timed : earlier.Pairwise (· ≤ ·)) :
    (limiter.logged earlier nowMs).allowed = true ↔
      ∀ time, limitBefore limiter earlier = some time → time ≤ nowMs - limiter.windowMs := by
  rw [limitBefore, ← length_late_le_iff (List.pairwise_reverse.mpr timed), List.filter_reverse,
    List.length_reverse, logged_allowed_iff]
  omega

/-- Whatever other subjects do, a call is told what a log of the calls of its own subject says. It
is let in exactly if the call that came `limit` calls before it, whether that was let in or not,
has left the window: who keeps calling faster is locked out for as long. -/
theorem calls_judged_by_times (limiter : SlidingWindowLimiter) (window : 0 < limiter.windowS)
    (positive : 1 ≤ limiter.limit) (history : List Arrival) (last : Arrival)
    (sequential : Sequential last.subject (history ++ [last])) :
    ∃ decision,
      (visit limiter last.subject (arrivals limiter history) last.call).1 = .ok decision ∧
        decision = limiter.logged (timesOf last.subject history) last.call.nowMs ∧
        (decision.allowed = true ↔
          ∀ time, limitBefore limiter (timesOf last.subject history) = some time →
            time ≤ last.call.nowMs - limiter.windowMs) := by
  refine ⟨_, visit_logged window sequential, rfl, logged_allowed_iff_spaced positive ?_⟩
  rw [timesOf, List.pairwise_map]
  exact sequential.before.1.calls_timed

namespace Sample

def mixed : List Arrival :=
  [⟨"u", ⟨0, "a"⟩⟩, ⟨"v", ⟨10, "b"⟩⟩, ⟨"u", ⟨20, "c"⟩⟩, ⟨"v", ⟨20, "d"⟩⟩]

end Sample

theorem calls_judged_by_times_mixed :
    (visit Sample.twice "u" (arrivals Sample.twice Sample.mixed) ⟨30000, "e"⟩).1 =
      .ok ⟨false, 0, 30⟩ := by
  obtain ⟨decision, answered, same, _⟩ := calls_judged_by_times Sample.twice (by decide) (by decide)
    Sample.mixed ⟨"u", ⟨30000, "e"⟩⟩ ⟨by decide, by decide⟩
  rw [answered, same]
  decide +kernel

end RateLimit

end Vix75
