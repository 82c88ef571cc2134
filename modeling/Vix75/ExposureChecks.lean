import Mathlib.Data.List.Dedup
import Vix75.ExposureCore
import Vix75.WireChecks

/-! Whatever the trackers have seen and whichever commands fail, a preflight judges the positions
whose last registration stands. -/

namespace Vix75

open KeyedTable

theorem PyFloat.exactAdd_swap (total first second : PyFloat) :
    (total.exactAdd first).exactAdd second = (total.exactAdd second).exactAdd first := by
  cases total <;> cases first <;> cases second <;> simp [exactAdd, add_right_comm]

namespace Exposure

namespace ExposureTracker

variable {tracker : ExposureTracker}

theorem judge_perm (tracker : ExposureTracker) {balance : PyFloat}
    {first second : List OpenPosition} (same : first.Perm second) :
    tracker.judge balance first = tracker.judge balance second := by
  have total : totalOpenRisk first = totalOpenRisk second := by
    unfold totalOpenRisk
    exact same.foldl_eq' (fun left _ right _ total =>
      PyFloat.exactAdd_swap total left.riskAmount right.riskAmount) _
  rw [judge, judge, same.length_eq, total]

def Readable (tracker : ExposureTracker) : Prop :=
  ∀ document text, tracker.formats.dumps document = some text →
    tracker.formats.loads text = .ok document

theorem direction_value (given : Direction) : direction given.value = .ok given := by
  cases given <;> rfl

theorem fromJson_json (readable : tracker.Readable) {position : OpenPosition} {text : String}
    (written : tracker.json position = some text) : tracker.fromJson text = .ok position := by
  rw [fromJson, readable _ _ written]
  simp [str, float, OpenPosition.toJson, Gate.item, List.lookup_cons, TextFormats.str,
    floatOfJson, direction_value, bind, Except.bind]

theorem mirrorOf_written (readable : tracker.Readable) {text : OpenPosition → String}
    {rows : List (String × OpenPosition)}
    (written : ∀ row ∈ rows, tracker.json row.2 = some (text row.2)) :
    tracker.mirrorOf (rows.map fun row => (row.1, text row.2)) =
      .ok (Dict.replay (rows.map fun row => .set row.1 row.2)) := by
  rw [mirrorOf, Dict.replay]
  generalize (empty : Mirror) = mirror
  induction rows generalizing mirror with
  | nil => rfl
  | cons row rows ih =>
      rw [List.map_cons, List.foldlM_cons, fromJson_json readable (written row (by simp))]
      exact ih (fun later member => written later (by simp [member])) _

end ExposureTracker

/-! What a history leaves standing -/

def Call.change (tracker : ExposureTracker) : Call → Option (Write String OpenPosition)
  | .preflight _ _ => none
  | .register position ending =>
      if tracker.redis → (tracker.json position).isSome ∧ ending.applied then
        some (.set position.idempotencyKey position)
      else none
  | .release idempotencyKey ending =>
      if tracker.redis → ending.applied then some (.delete idempotencyKey) else none

section Histories

variable {Pid : Type} [DecidableEq Pid]

/-- The changes that a tracker is to see: with Redis those of every tracker, else its own. -/
def ExposureTracker.changes (tracker : ExposureTracker) (pid : Pid) (history : History Pid) :
    List (Write String OpenPosition) :=
  history.filterMap fun entry =>
    if tracker.redis ∨ entry.1 = pid then entry.2.change tracker else none

/-- Exactly the positions whose registration is the last change under their key. -/
structure ExposureTracker.Lists (tracker : ExposureTracker) (pid : Pid) (history : History Pid)
    (positions : List OpenPosition) : Prop where
  distinct : (positions.map fun position => position.idempotencyKey).Nodup
  mem_iff : ∀ position, position ∈ positions ↔
    Dict.Standing (tracker.changes pid history) position.idempotencyKey position

variable {tracker : ExposureTracker} {pid : Pid} {history : History Pid}

theorem changes_concat (caller : Pid) (call : Call) :
    tracker.changes pid (history ++ [(caller, call)]) = tracker.changes pid history ++
      (if tracker.redis ∨ caller = pid then call.change tracker else none).toList := by
  rw [ExposureTracker.changes, List.filterMap_append]
  rfl

theorem registered_of_mem {key : String} {position : OpenPosition}
    (member : .set key position ∈ tracker.changes pid history) :
    key = position.idempotencyKey ∧ (tracker.redis → (tracker.json position).isSome) := by
  obtain ⟨⟨caller, call⟩, _, changed⟩ := List.mem_filterMap.mp member
  split at changed
  · cases call with
    | preflight balance reply => simp [Call.change] at changed
    | register given ending =>
        simp only [Call.change] at changed
        split at changed
        · rename_i landed
          obtain ⟨rfl, rfl⟩ : given.idempotencyKey = key ∧ given = position := by
            simpa using changed
          exact ⟨rfl, fun shared => (landed shared).1⟩
        · simp at changed
    | release released ending =>
        simp only [Call.change] at changed
        split at changed <;> simp at changed
  · simp at changed

theorem registered_of_row {key : String} {position : OpenPosition}
    (member : (key, position) ∈ (Dict.replay (tracker.changes pid history)).rows) :
    key = position.idempotencyKey ∧ (tracker.redis → (tracker.json position).isSome) := by
  obtain ⟨before, after, whole, _⟩ := Dict.mem_replay_iff.mp member
  exact registered_of_mem (by rw [whole]; simp)

def ExposureTracker.text (tracker : ExposureTracker) (position : OpenPosition) : String :=
  (tracker.json position).getD ""

theorem ExposureTracker.json_eq_text {position : OpenPosition}
    (written : (tracker.json position).isSome) :
    tracker.json position = some (tracker.text position) := by
  obtain ⟨text, here⟩ := Option.isSome_iff_exists.mp written
  rw [ExposureTracker.text, here, Option.getD_some]

structure Held (tracker : ExposureTracker) (history : History Pid) (registry : Registry Pid) :
    Prop where
  hash : tracker.redis → ∀ pid, registry.hash =
    Dict.replay ((tracker.changes pid history).map (Write.map tracker.text))
  mirrors : ¬tracker.redis → ∀ pid,
    registry.mirrors pid = Dict.replay (tracker.changes pid history)

theorem replay_toList {Value : Type} (writes : List (Write String Value))
    (last : Option (Write String Value)) : Dict.replay (writes ++ last.toList) =
      (last.map (Dict.replay writes).write).getD (Dict.replay writes) := by
  cases last with
  | none => rw [Option.toList_none, List.append_nil]; rfl
  | some last => exact Dict.replay_concat writes last

theorem Held.put {registry : Registry Pid} (held : Held tracker history registry) {call : Call}
    {mirror : Mirror} {command : Option (Write String String)}
    (shared : tracker.redis → command = (call.change tracker).map (Write.map tracker.text))
    (alone : ¬tracker.redis → mirror =
      ((call.change tracker).map (registry.mirrors pid).write).getD (registry.mirrors pid)) :
    Held tracker (history ++ [(pid, call)]) (registry.put pid mirror command) where
  hash redis other := by
    rw [changes_concat, if_pos (.inl redis), List.map_append, ← Option.toList_map, replay_toList,
      ← held.hash redis other, ← shared redis]
    rfl
  mirrors unshared other := by
    rw [changes_concat, replay_toList, ← held.mirrors unshared other]
    by_cases own : pid = other
    · subst own
      rw [if_pos (.inr rfl), ← alone unshared]
      exact Function.update_self pid mirror registry.mirrors
    · rw [if_neg (by simp [unshared, own])]
      exact Function.update_of_ne (Ne.symm own) mirror registry.mirrors

theorem Held.step {registry next : Registry Pid} (held : Held tracker history registry)
    {call : Call} {answer : Answer}
    (stepped : registry.step tracker pid call = some (answer, next)) :
    Held tracker (history ++ [(pid, call)]) next := by
  cases call with
  | preflight balance reply =>
      simp only [Registry.step] at stepped
      split at stepped
      · obtain ⟨rfl, rfl⟩ : _ ∧ _ := by simpa using stepped
        refine held.put (fun _ => rfl) fun unshared => ?_
        simp [ExposureTracker.preflight, ExposureTracker.refresh, unshared, Call.change]
      · simp at stepped
  | register position ending =>
      simp only [Registry.step] at stepped
      cases written : tracker.json position with
      | none => simp [written] at stepped
      | some text =>
          obtain ⟨rfl, rfl⟩ : _ ∧ _ := by simpa [written] using stepped
          refine held.put (fun shared => ?_) fun unshared => ?_
          · cases applied : ending.applied <;>
              simp [ExposureTracker.register, Call.change, shared, applied, Write.map,
                ExposureTracker.text, written]
          · simp [ExposureTracker.register, Call.change, unshared]
  | release idempotencyKey ending =>
      obtain ⟨rfl, rfl⟩ : _ ∧ _ := by simpa [Registry.step] using stepped
      refine held.put (fun shared => ?_) fun unshared => ?_
      · simp only [ExposureTracker.release, Call.change, shared, if_true, true_implies]
        cases applied : ending.applied <;> simp [Write.map]
      · simp [ExposureTracker.release, Call.change, unshared]

theorem Held.run {registry after : Registry Pid} {later : History Pid}
    (held : Held tracker history registry) (ran : registry.run tracker later = some after) :
    Held tracker (history ++ later) after := by
  induction later generalizing history registry with
  | nil =>
      obtain rfl := Option.some.inj ran
      simpa using held
  | cons entry later ih =>
      obtain ⟨pid, call⟩ := entry
      obtain ⟨⟨answer, next⟩, stepped, onward⟩ := Option.bind_eq_some_iff.mp ran
      simpa using ih (held.step stepped) onward

theorem Held.initial : Held tracker ([] : History Pid) {} where
  hash _ _ := rfl
  mirrors _ _ := rfl

theorem ExposureTracker.Lists.perm {first second : List OpenPosition}
    (one : tracker.Lists pid history first) (other : tracker.Lists pid history second) :
    first.Perm second :=
  (List.perm_ext_iff_of_nodup one.distinct.of_map other.distinct.of_map).mpr fun position =>
    (one.mem_iff position).trans (other.mem_iff position).symm

theorem mem_iff_standing {key : String} {position : OpenPosition} :
    (key, position) ∈ (Dict.replay (tracker.changes pid history)).rows ↔
      key = position.idempotencyKey ∧
        Dict.Standing (tracker.changes pid history) position.idempotencyKey position := by
  constructor
  · intro member
    obtain ⟨rfl, _⟩ := registered_of_row member
    exact ⟨rfl, Dict.mem_replay_iff.mp member⟩
  · rintro ⟨rfl, standing⟩
    exact Dict.mem_replay_iff.mpr standing

theorem lists_of_perm {rows : List (String × OpenPosition)}
    (same : rows.Perm (Dict.replay (tracker.changes pid history)).rows) :
    tracker.Lists pid history (rows.map Prod.snd) ∧
      rows = (rows.map Prod.snd).map fun position => (position.idempotencyKey, position) := by
  have keyed : ∀ row ∈ rows, row.1 = row.2.idempotencyKey := fun row member =>
    (registered_of_row (same.mem_iff.mp member)).1
  refine ⟨⟨?_, fun position => ?_⟩, ?_⟩
  · have distinct := (same.map Prod.fst).nodup_iff.mpr
      (Dict.replay (tracker.changes pid history)).unique
    rw [List.map_map]
    exact (List.map_congr_left keyed) ▸ distinct
  · constructor
    · intro member
      obtain ⟨row, inRows, rfl⟩ := List.mem_map.mp member
      exact (mem_iff_standing.mp (same.mem_iff.mp inRows)).2
    · intro standing
      exact List.mem_map.mpr ⟨_, same.mem_iff.mpr (mem_iff_standing.mpr ⟨rfl, standing⟩), rfl⟩
  · rw [List.map_map]
    exact (List.map_id rows).symm.trans <| List.map_congr_left fun row member =>
      Prod.ext (keyed row member) rfl

theorem Held.reloads {registry : Registry Pid} (held : Held tracker history registry)
    (readable : tracker.Readable) (shared : tracker.redis) (pid : Pid)
    {raw : List (String × String)} (given : raw.Perm registry.hash.rows) :
    ∃ mirror, tracker.mirrorOf raw = .ok mirror ∧
      mirror.rows.Perm (Dict.replay (tracker.changes pid history)).rows := by
  rw [held.hash shared pid, Dict.replay_map] at given
  obtain ⟨rows, rfl, reordered⟩ := (congrFun₂ (List.eq_map_comp_perm _) raw _).mpr given
  have written : ∀ row ∈ rows, tracker.json row.2 = some (tracker.text row.2) :=
    fun row member => ExposureTracker.json_eq_text
      ((registered_of_row (reordered.mem_iff.mp member)).2 shared)
  have distinct := (reordered.map Prod.fst).nodup_iff.mpr
    (Dict.replay (tracker.changes pid history)).unique
  refine ⟨_, ExposureTracker.mirrorOf_written readable written, ?_⟩
  rwa [Dict.rows_replay_sets distinct]

/-- A preflight fails only with its own command; else the mirror is then what is standing, and the
verdict is that of the positions that stand, however they are listed. -/
theorem preflight_judges_standing (readable : tracker.Readable) {registry next : Registry Pid}
    {balance : PyFloat} {reply : Except PyError (List (String × String))}
    {answer : Except PyError (Option RejectionReason)}
    (ran : Registry.run tracker {} history = some registry)
    (judged : registry.step tracker pid (.preflight balance reply) =
      some (.verdict answer, next)) :
    (∃ error, tracker.redis ∧ reply = .error error ∧ answer = .error error ∧
        next.mirrors pid = registry.mirrors pid) ∨
      ∃ positions, tracker.Lists pid history positions ∧
        (next.mirrors pid).rows =
          positions.map (fun position => (position.idempotencyKey, position)) ∧
        ∀ listing, tracker.Lists pid history listing →
          answer = .ok (tracker.judge balance listing) := by
  have held : Held tracker history registry := by simpa using Held.initial.run ran
  have standing : ∀ mirror : Mirror,
      mirror.rows.Perm (Dict.replay (tracker.changes pid history)).rows →
      next.mirrors pid = mirror →
      answer = .ok (tracker.judge balance (mirror.rows.map Prod.snd)) →
      ∃ positions, tracker.Lists pid history positions ∧
        (next.mirrors pid).rows =
          positions.map (fun position => (position.idempotencyKey, position)) ∧
        ∀ listing, tracker.Lists pid history listing →
          answer = .ok (tracker.judge balance listing) := by
    rintro mirror reordered rfl rfl
    obtain ⟨lists, rows⟩ := lists_of_perm reordered
    refine ⟨_, lists, rows, fun listing other => ?_⟩
    rw [tracker.judge_perm (lists.perm other)]
  simp only [Registry.step] at judged
  split at judged
  · rename_i replied
    obtain ⟨rfl, rfl⟩ : _ ∧ _ := by simpa using judged
    by_cases shared : tracker.redis
    · cases reply with
      | error error =>
          refine .inl ⟨error, shared, rfl, ?_, ?_⟩
          · simp [ExposureTracker.preflight, ExposureTracker.refresh, shared]
          · simp [ExposureTracker.preflight, ExposureTracker.refresh, shared, Registry.put]
      | ok raw =>
          obtain ⟨mirror, read, reordered⟩ :=
            held.reloads readable shared pid (List.isPerm_iff.mp replied)
          refine .inr (standing mirror reordered ?_ ?_)
          · simp [ExposureTracker.preflight, ExposureTracker.refresh, shared, read, Registry.put]
          · simp [ExposureTracker.preflight, ExposureTracker.refresh, shared, read]
    · refine .inr (standing (registry.mirrors pid) ?_ ?_ ?_)
      · rw [held.mirrors shared pid]
      · simp [ExposureTracker.preflight, ExposureTracker.refresh, shared, Registry.put]
      · simp [ExposureTracker.preflight, ExposureTracker.refresh, shared]
  · simp at judged

end Histories

namespace Sample

def position (key : String) : OpenPosition where
  idempotencyKey := key
  signalId := key
  symbol := "Volatility 75 Index"
  direction := .buy
  lots := .finite (1 / 4)
  entry := .finite 100
  sl := .finite (199 / 2)
  riskAmount := .finite 50
  openedTs := "2024-01-01T00:00:00+00:00"

def positionText (key : String) : String :=
  "\x7b\"idempotency_key\": \"" ++ key ++ "\", \"signal_id\": \"" ++ key ++
    "\", \"symbol\": \"Volatility 75 Index\", \"direction\": \"BUY\", \"lots\": 0.25, " ++
    "\"entry\": 100.0, \"sl\": 99.5, \"risk_amount\": 50.0, " ++
    "\"opened_ts\": \"2024-01-01T00:00:00+00:00\"\x7d"

open Classical in
noncomputable def formats : TextFormats :=
  { TextFormats.Sample.formats with
    dumps := fun document =>
      if document = (position "a1").toJson then some (positionText "a1")
      else if document = (position "b2").toJson then some (positionText "b2") else none
    loads := fun text =>
      if text = positionText "a1" then .ok (position "a1").toJson
      else if text = positionText "b2" then .ok (position "b2").toJson
      else .error (.jsonDecodeError "Expecting value") }

noncomputable def tracker : ExposureTracker where
  formats := formats
  floatOf := formats.laxFloat
  settings := { maxOpenPositions := 1 }

theorem texts_differ : positionText "b2" ≠ positionText "a1" := by decide

theorem documents_differ : (position "b2").toJson ≠ (position "a1").toJson := by
  simp [OpenPosition.toJson, position]

theorem readable : tracker.Readable := by
  intro document text dumped
  simp only [tracker, formats] at dumped ⊢
  split at dumped
  · rename_i first
    obtain rfl := Option.some.inj dumped
    rw [if_pos rfl, first]
  · split at dumped
    · rename_i second
      obtain rfl := Option.some.inj dumped
      rw [if_neg texts_differ, if_pos rfl, second]
    · simp at dumped

theorem json_a : tracker.json (position "a1") = some (positionText "a1") := if_pos rfl

theorem json_b : tracker.json (position "b2") = some (positionText "b2") :=
  (if_neg documents_differ).trans (if_pos rfl)

def history : History Bool :=
  [(true, .register (position "a1") (.ok ())),
    (false, .register (position "b2") (.error (.connectionError true))),
    (false, .release "a1" (.ok ()))]

theorem changes_history : tracker.changes true history =
    [.set "a1" (position "a1"), .set "b2" (position "b2"), .delete "a1"] := by
  have first : (Call.register (position "a1") (.ok ())).change tracker =
      some (.set "a1" (position "a1")) := if_pos fun _ => ⟨by rw [json_a]; rfl, rfl⟩
  have second : (Call.register (position "b2") (.error (.connectionError true))).change tracker =
      some (.set "b2" (position "b2")) := if_pos fun _ => ⟨by rw [json_b]; rfl, rfl⟩
  have third : (Call.release "a1" (.ok ())).change tracker = some (.delete "a1") := by
    simp [Call.change, Ending.applied]
  have shared : tracker.redis = true := rfl
  simp only [ExposureTracker.changes, history, List.filterMap_cons, List.filterMap_nil, shared,
    true_or, if_true, first, second, third]

theorem lists : tracker.Lists true history [position "b2"] where
  distinct := by simp
  mem_iff := by
    intro given
    rw [changes_history, ← Dict.get?_replay_iff, List.mem_singleton]
    simp only [Dict.replay, List.foldl_cons, List.foldl_nil, Dict.get?_delete, Dict.get?_set]
    constructor
    · rintro rfl
      rfl
    · intro found
      split at found
      · simp at found
      · split at found
        · exact (Option.some.inj found).symm
        · simp_all [Dict.get?, find?, empty]

end Sample

theorem preflight_judges_standing_released : ∃ registry next,
    Registry.run Sample.tracker {} Sample.history = some registry ∧
    registry.step Sample.tracker true (.preflight (.finite 10000) (.ok registry.hash.rows)) =
      some (.verdict (.ok (some .maxOpenTradesReached)), next) := by
  obtain ⟨registry, ran⟩ : ∃ registry,
      Registry.run Sample.tracker {} Sample.history = some registry := by
    simp [Registry.run, Registry.step, Sample.history, Sample.json_a, Sample.json_b]
  obtain ⟨answer, next, judged⟩ : ∃ answer next,
      registry.step Sample.tracker true (.preflight (.finite 10000) (.ok registry.hash.rows)) =
        some (.verdict answer, next) := by
    exact ⟨_, _, if_pos (List.isPerm_iff.mpr (.refl _))⟩
  refine ⟨registry, next, ran, ?_⟩
  rcases preflight_judges_standing Sample.readable ran judged with
    ⟨error, _, failed, _⟩ | ⟨positions, _, _, judges⟩
  · simp at failed
  · rw [judged, judges _ Sample.lists]
    rfl

end Exposure

end Vix75
