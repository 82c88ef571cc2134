import Vix75.DeliveryCore

/-! When every entry that was delivered to the consumer group ends up decided: dropped as
malformed, or filled or rejected in the trades table and on the streams. -/

namespace Vix75

open EffectProgram

def World.Decided (world : World) (key : String) : Prop :=
  ∃ row, world.trades.find? key = some row ∧
    (row.status = .filled ∧ (∃ entry ∈ world.filled, entry.order.idempotencyKey = key) ∨
      row.status = .rejected ∧ ∃ entry ∈ world.rejected, entry.idempotencyKey = key)

def World.statusOf (world : World) (key : String) : Option TradeStatus :=
  (world.trades.find? key).map TradeRow.status

theorem World.decided_iff {world : World} {key : String} : world.Decided key ↔
    world.statusOf key = some .filled ∧ (∃ entry ∈ world.filled, entry.order.idempotencyKey = key) ∨
      world.statusOf key = some .rejected ∧
        ∃ entry ∈ world.rejected, entry.idempotencyKey = key := by
  unfold World.Decided World.statusOf
  cases world.trades.find? key <;> simp

namespace Duty

def view (key : String) : Option Duty → Option Stage
  | some (.facing _ (.claimed other) _) => if other = key then some (.claimed key) else none
  | some (.facing _ (.recorded other status) _) =>
      if other = key then some (.recorded key status) else none
  | some (.settled (some other) _) => if other = key then some .looking else none
  | _ => none

end Duty

section Invariant

variable {Pid : Type} [DecidableEq Pid]

/-- A key has no row yet, or one worker is bringing its row to an end, or it is decided. -/
inductive KeyPhase (world : World) (duties : Pid → Option Duty) (key : String) : Prop
  | absent (row : world.statusOf key = none) (cache : world.results (resultKey key) = none)
      (unseen : ∀ pid, Duty.view key (duties pid) = none)
  | claimed (pid : Pid) (row : (world.statusOf key).isSome)
      (cache : world.results (resultKey key) = none)
      (holder : Duty.view key (duties pid) = some (.claimed key))
      (unseen : ∀ other, other ≠ pid → Duty.view key (duties other) = none)
  | recorded (pid : Pid) (status : TradeStatus) (row : world.statusOf key = some status)
      (cache : world.results (resultKey key) = none)
      (holder : Duty.view key (duties pid) = some (.recorded key status))
      (unseen : ∀ other, other ≠ pid → Duty.view key (duties other) = none)
  | decided (done : world.Decided key)
      (settled : ∀ pid, Duty.view key (duties pid) = none ∨
        Duty.view key (duties pid) = some .looking)

theorem World.Decided.mono {world after : World} {key : String} (decided : world.Decided key)
    (status : after.statusOf key = world.statusOf key) (filled : world.filled ⊆ after.filled)
    (rejected : world.rejected ⊆ after.rejected) : after.Decided key := by
  rw [World.decided_iff] at decided ⊢
  rw [status]
  rcases decided with ⟨here, entry, member, same⟩ | ⟨here, entry, member, same⟩
  · exact .inl ⟨here, entry, filled member, same⟩
  · exact .inr ⟨here, entry, rejected member, same⟩

theorem World.Decided.isSome {world : World} {key : String} (decided : world.Decided key) :
    (world.statusOf key).isSome := by
  rcases World.decided_iff.mp decided with ⟨here, _⟩ | ⟨here, _⟩ <;> simp [here]

namespace KeyPhase

variable {world after : World} {duties moved : Pid → Option Duty} {key : String}

omit [DecidableEq Pid] in
theorem frame (phase : KeyPhase world duties key)
    (status : after.statusOf key = world.statusOf key)
    (cache : after.results (resultKey key) = world.results (resultKey key) ∨
      after.results (resultKey key) = none)
    (filled : world.filled ⊆ after.filled) (rejected : world.rejected ⊆ after.rejected)
    (views : ∀ pid, Duty.view key (moved pid) = Duty.view key (duties pid) ∨
      Duty.view key (moved pid) = none ∧ Duty.view key (duties pid) = some .looking) :
    KeyPhase after moved key := by
  have empty : world.results (resultKey key) = none → after.results (resultKey key) = none := by
    intro none
    rcases cache with same | expired
    · rw [same, none]
    · exact expired
  have kept : ∀ pid, Duty.view key (duties pid) ≠ some .looking →
      Duty.view key (moved pid) = Duty.view key (duties pid) := by
    intro pid different
    rcases views pid with same | ⟨_, was⟩
    · exact same
    · exact absurd was different
  cases phase with
  | absent row cached unseen =>
      refine .absent (status.trans row) (empty cached) fun pid => ?_
      rw [kept pid (by simp [unseen]), unseen]
  | claimed pid row cached holder unseen =>
      refine .claimed pid (status ▸ row) (empty cached) ?_ fun other elsewhere => ?_
      · rw [kept pid (by simp [holder]), holder]
      · rw [kept other (by simp [unseen other elsewhere]), unseen other elsewhere]
  | recorded pid now row cached holder unseen =>
      refine .recorded pid now (status.trans row) (empty cached) ?_ fun other elsewhere => ?_
      · rw [kept pid (by simp [holder]), holder]
      · rw [kept other (by simp [unseen other elsewhere]), unseen other elsewhere]
  | decided done settled =>
      refine .decided (done.mono status filled rejected) fun pid => ?_
      rcases views pid with same | ⟨gone, _⟩
      · rw [same]
        exact settled pid
      · exact .inl gone

omit [DecidableEq Pid] in
theorem of_claimed (phase : KeyPhase world duties key) {pid : Pid}
    (holder : Duty.view key (duties pid) = some (.claimed key)) :
    (world.statusOf key).isSome ∧ world.results (resultKey key) = none ∧
      ∀ other, other ≠ pid → Duty.view key (duties other) = none := by
  cases phase with
  | absent _ _ unseen => simp [unseen] at holder
  | claimed owner row cached _ unseen =>
      have same : pid = owner := by
        by_contra elsewhere
        simp [unseen pid elsewhere] at holder
      exact ⟨row, cached, same ▸ unseen⟩
  | recorded owner status row cached ownerHolds unseen =>
      by_cases same : pid = owner
      · subst same
        simp [ownerHolds] at holder
      · simp [unseen pid same] at holder
  | decided _ settled => rcases settled pid with none | looking <;> simp_all

omit [DecidableEq Pid] in
theorem of_recorded (phase : KeyPhase world duties key) {pid : Pid} {status : TradeStatus}
    (holder : Duty.view key (duties pid) = some (.recorded key status)) :
    world.statusOf key = some status ∧
      ∀ other, other ≠ pid → Duty.view key (duties other) = none := by
  cases phase with
  | absent _ _ unseen => simp [unseen] at holder
  | claimed owner row cached ownerHolds unseen =>
      by_cases same : pid = owner
      · subst same
        simp [ownerHolds] at holder
      · simp [unseen pid same] at holder
  | recorded owner now row _ ownerHolds unseen =>
      have same : pid = owner := by
        by_contra elsewhere
        simp [unseen pid elsewhere] at holder
      subst same
      rw [ownerHolds] at holder
      simp only [Option.some.injEq, Stage.recorded.injEq, true_and] at holder
      exact ⟨holder ▸ row, unseen⟩
  | decided _ settled => rcases settled pid with none | looking <;> simp_all

omit [DecidableEq Pid] in
theorem of_settled (phase : KeyPhase world duties key) {pid : Pid}
    (holder : Duty.view key (duties pid) = some .looking) :
    world.Decided key ∧ ∀ other, Duty.view key (duties other) = none ∨
      Duty.view key (duties other) = some .looking := by
  cases phase with
  | absent _ _ unseen => simp [unseen] at holder
  | claimed owner _ _ ownerHolds unseen =>
      by_cases same : pid = owner
      · subst same
        simp [ownerHolds] at holder
      · simp [unseen pid same] at holder
  | recorded owner _ _ _ ownerHolds unseen =>
      by_cases same : pid = owner
      · subst same
        simp [ownerHolds] at holder
      · simp [unseen pid same] at holder
  | decided done settled => exact ⟨done, settled⟩

omit [DecidableEq Pid] in
theorem of_cached (phase : KeyPhase world duties key) {view : ResultView}
    (cached : world.results (resultKey key) = some view) : world.Decided key := by
  cases phase with
  | absent _ none => simp [none] at cached
  | claimed _ _ none => simp [none] at cached
  | recorded _ _ _ none => simp [none] at cached
  | decided done => exact done

omit [DecidableEq Pid] in
theorem of_absent (phase : KeyPhase world duties key) (absent : world.statusOf key = none) :
    world.results (resultKey key) = none ∧ ∀ pid, Duty.view key (duties pid) = none := by
  cases phase with
  | absent _ cached unseen => exact ⟨cached, unseen⟩
  | claimed _ row => simp [absent] at row
  | recorded _ _ row => simp [absent] at row
  | decided done => simpa [absent] using done.isSome

end KeyPhase

def ExecutionService.Covered (service : ExecutionService) (world : World) (message : Message) :
    Prop :=
  parseOrder service.codec message.fields = .ok none ∧ message.id ∈ world.acked ∨
    ∃ key, service.Requests message key ∧ (world.statusOf key).isSome

structure Decisions (service : ExecutionService) (world : World) (duties : Pid → Option Duty) :
    Prop where
  ids : (world.requests.map Message.id).Nodup
  known : ∀ id ∈ world.delivered, id ∈ world.requests.map Message.id
  covered : ∀ message ∈ world.requests, message.id ∈ world.delivered →
    service.Covered world message ∨
      ∃ pid duty, duties pid = some duty ∧ message ∈ duty.pending
  phases : ∀ key, KeyPhase world duties key

theorem ExecutionService.Covered.mono {service : ExecutionService} {world after : World}
    {message : Message} (covered : service.Covered world message)
    (acked : world.acked ⊆ after.acked)
    (rows : ∀ key, (world.statusOf key).isSome → (after.statusOf key).isSome) :
    service.Covered after message := by
  rcases covered with ⟨malformed, member⟩ | ⟨key, requested, row⟩
  · exact .inl ⟨malformed, acked member⟩
  · exact .inr ⟨key, requested, rows key row⟩

theorem Decisions.frame {service : ExecutionService} {world after : World}
    {duties : Pid → Option Duty} {pid : Pid} {duty : Option Duty}
    (held : Decisions service world duties) (requests : after.requests = world.requests)
    (delivered : after.delivered = world.delivered) (acked : world.acked ⊆ after.acked)
    (rows : ∀ key, (world.statusOf key).isSome → (after.statusOf key).isSome)
    (owed : ∀ before, duties pid = some before → ∀ message ∈ before.pending,
      message.id ∈ world.delivered → service.Covered after message ∨
        ∃ now, duty = some now ∧ message ∈ now.pending)
    (phases : ∀ key, KeyPhase after (Function.update duties pid duty) key) :
    Decisions service after (Function.update duties pid duty) := by
  refine ⟨requests ▸ held.ids, by simpa [requests, delivered] using held.known, ?_, phases⟩
  intro message member given
  rw [requests] at member
  rw [delivered] at given
  rcases held.covered message member given with covered | ⟨other, before, current, pending⟩
  · exact .inl (covered.mono acked rows)
  · by_cases same : other = pid
    · subst same
      rcases owed before current message pending given with covered | ⟨now, rfl, later⟩
      · exact .inl covered
      · exact .inr ⟨other, now, by simp, later⟩
    · exact .inr ⟨other, before, by simpa [Function.update_of_ne same] using current, pending⟩

/-! What each effect does to it -/

theorem resultKey_injective {key other : String} (same : resultKey key = resultKey other) :
    key = other := by
  have lists := congrArg String.toList same
  simp only [resultKey, String.toList_append, List.append_cancel_left_eq] at lists
  exact String.toList_inj.mp lists

@[simp] theorem view_next (key : String) (messages : List Message) :
    Duty.view key (some (.next messages)) = none := by
  cases messages <;> rfl

theorem views_update {duties : Pid → Option Duty} {pid : Pid} {duty : Option Duty} {key : String}
    (here : Duty.view key duty = Duty.view key (duties pid) ∨
      Duty.view key duty = none ∧ Duty.view key (duties pid) = some .looking) (other : Pid) :
    Duty.view key (Function.update duties pid duty other) = Duty.view key (duties other) ∨
      Duty.view key (Function.update duties pid duty other) = none ∧
        Duty.view key (duties other) = some .looking := by
  by_cases same : other = pid
  · subst same
    simpa using here
  · simp [Function.update_of_ne same]

theorem KeyPhase.move {world after : World} {duties : Pid → Option Duty} {pid : Pid} {duty : Duty}
    {next : Option Duty} {key : String} (phase : KeyPhase world duties key)
    (current : duties pid = some duty) (status : after.statusOf key = world.statusOf key)
    (cache : after.results (resultKey key) = world.results (resultKey key))
    (filled : world.filled ⊆ after.filled) (rejected : world.rejected ⊆ after.rejected)
    (views : Duty.view key next = Duty.view key (some duty) ∨
      Duty.view key next = none ∧ Duty.view key (some duty) = some .looking) :
    KeyPhase after (Function.update duties pid next) key := by
  rw [← current] at views
  exact phase.frame status (.inl cache) filled rejected (views_update views)

theorem statusOf_setStatus {world : World} {key wanted : String} {update : StatusUpdate}
    (terminal : update.status = .filled ∨ update.status = .rejected) :
    (world.apply (.setStatus key update)).statusOf wanted =
      if wanted = key then (world.statusOf wanted).map fun _ => update.status
      else world.statusOf wanted := by
  simp only [World.statusOf, World.apply, KeyedTable.find?_update, Option.map_map]
  cases found : world.trades.find? wanted with
  | none => simp
  | some row =>
      have same : row.idempotencyKey = wanted := KeyedTable.key_of_find? found
      by_cases here : wanted = key
      · rcases terminal with filled | rejected
        · simp [same, here, TradeRow.setStatus, filled]
        · simp [same, here, TradeRow.setStatus, rejected]
      · simp [same, here]

theorem apply_undeciding (world : World) {effect : Effect} (undeciding : effect.Undeciding) :
    (world.apply effect).requests = world.requests ∧
      (world.apply effect).delivered = world.delivered ∧
      (world.apply effect).acked = world.acked ∧ (world.apply effect).results = world.results ∧
      (world.apply effect).filled = world.filled ∧
      (world.apply effect).rejected = world.rejected ∧
      ∀ key, (world.apply effect).statusOf key = world.statusOf key := by
  cases effect with
  | closeByTicket ticket closedAt profit =>
      refine ⟨rfl, rfl, rfl, rfl, rfl, rfl, fun key => ?_⟩
      simp only [World.statusOf, World.apply, KeyedTable.find?_update, Option.map_map]
      cases world.trades.find? key with
      | none => rfl
      | some row =>
          simp only [Option.map_some, Function.comp_apply, Option.some.injEq]
          split <;> rfl
  | _ => first | exact absurd undeciding id | exact ⟨rfl, rfl, rfl, rfl, rfl, rfl, fun _ => rfl⟩

section Effects

variable {service : ExecutionService} {world after : World} {duties : Pid → Option Duty}
  {pid : Pid}

theorem Decisions.move {duty next : Duty} (held : Decisions service world duties)
    (current : duties pid = some duty) (requests : after.requests = world.requests)
    (delivered : after.delivered = world.delivered) (acked : world.acked ⊆ after.acked)
    (rows : ∀ key, (world.statusOf key).isSome → (after.statusOf key).isSome)
    (owed : ∀ message ∈ duty.pending, message.id ∈ world.delivered →
      service.Covered after message ∨ message ∈ next.pending)
    (phases : ∀ key, KeyPhase after (Function.update duties pid (some next)) key) :
    Decisions service after (Function.update duties pid (some next)) := by
  refine held.frame requests delivered acked rows (fun before same message pending given => ?_)
    phases
  rw [current, Option.some.injEq] at same
  subst same
  rcases owed message pending given with covered | later
  · exact .inl covered
  · exact .inr ⟨next, rfl, later⟩

theorem Decisions.still {duty : Duty} (held : Decisions service world duties)
    (current : duties pid = some duty) (requests : after.requests = world.requests)
    (delivered : after.delivered = world.delivered) (acked : world.acked ⊆ after.acked)
    (results : after.results = world.results) (filled : after.filled = world.filled)
    (rejected : after.rejected = world.rejected)
    (status : ∀ key, after.statusOf key = world.statusOf key) :
    Decisions service after (Function.update duties pid (some duty)) := by
  refine held.move current requests delivered acked (fun key row => status key ▸ row)
    (fun _ pending _ => .inr pending) fun key => ?_
  exact (held.phases key).move current (status key) (by rw [results]) (by rw [filled]; simp)
    (by rw [rejected]; simp) (.inl rfl)

theorem Decisions.unmoved {duty : Duty} (held : Decisions service world duties)
    (current : duties pid = some duty) :
    Decisions service world (Function.update duties pid (some duty)) := by
  rw [← current, Function.update_eq_self]
  exact held

theorem Decisions.undeciding {duty : Duty} {effect : Effect}
    {reply : Except PyError effect.Reply} (held : Decisions service world duties)
    (current : duties pid = some duty) (undeciding : effect.Undeciding)
    (answered : world.answer effect reply = some after) :
    Decisions service after (Function.update duties pid (some duty)) := by
  rcases World.answer_eq answered with same | applied
  · rw [same]
    exact held.unmoved current
  · obtain ⟨requests, delivered, acked, results, filled, rejected, status⟩ :=
      apply_undeciding world undeciding
    rw [applied]
    exact held.still current requests delivered (by rw [acked]; simp) results filled rejected status

theorem Decisions.xreadgroup {count : ℕ} {messages : List Message}
    (held : Decisions service world duties) (current : duties pid = some .between)
    (answered : world.answer (.xreadgroup count) (.ok messages) = some after) :
    Decisions service after (Function.update duties pid (some (.next messages))) := by
  obtain ⟨given, applied⟩ := World.answer_ok answered
  simp only [World.replies, Bool.and_eq_true, decide_eq_true_eq] at given
  have batch := given.2
  subst applied
  have fresh : ∀ message ∈ messages, message ∈ world.requests := by
    intro message member
    rw [batch] at member
    exact List.mem_of_mem_filter (List.mem_of_mem_take member)
  refine ⟨held.ids, ?_, ?_, fun key => ?_⟩
  · intro id member
    rcases List.mem_append.mp member with before | now
    · exact held.known id before
    · obtain ⟨message, taken, rfl⟩ := List.mem_map.mp now
      exact List.mem_map_of_mem (fresh message (batch ▸ taken))
  · intro message member delivered
    rcases List.mem_append.mp delivered with before | now
    · rcases held.covered message member before with covered | ⟨other, duty, owner, pending⟩
      · exact .inl (covered.mono (List.Subset.refl _) fun _ row => row)
      · have elsewhere : other ≠ pid := by
          rintro rfl
          rw [current, Option.some.injEq] at owner
          simp [← owner, Duty.pending] at pending
        exact .inr ⟨other, duty, by simpa [Function.update_of_ne elsewhere] using owner, pending⟩
    · obtain ⟨taken, member', same⟩ := List.mem_map.mp now
      rw [← batch] at member'
      have equal : taken = message :=
        List.inj_on_of_nodup_map held.ids (fresh taken member') member same
      exact .inr ⟨pid, .next messages, by simp, by simpa [equal] using member'⟩
  · refine (held.phases key).move current rfl rfl (List.Subset.refl _) (List.Subset.refl _)
      (.inl ?_)
    rw [view_next]
    rfl

theorem Decisions.xack {duty : Duty} {id : String} {reply : Except PyError Unit}
    (held : Decisions service world duties) (current : duties pid = some duty)
    (allowed : (deciding service).allowed duty (.xack id))
    (answered : world.answer (.xack id) reply = some after) :
    Decisions service after (Function.update duties pid
      (some ((deciding service).advance duty (.xack id) reply))) := by
  have grown : world.acked ⊆ (world.apply (.xack id)).acked := by
    simp only [World.apply]
    split <;> simp
  cases reply with
  | error error =>
      rcases World.answer_eq answered with same | applied
      · rw [same]
        exact held.unmoved current
      · rw [applied]
        exact held.still current rfl rfl grown rfl rfl rfl fun _ => rfl
  | ok value =>
      obtain ⟨_, applied⟩ := World.answer_ok answered
      rw [applied]
      cases duty with
      | between => exact allowed.elim
      | settled key rest =>
          change Decisions service _ (Function.update duties pid (some (.next rest)))
          refine held.move current rfl rfl grown (fun _ row => row) ?_ fun other => ?_
          · intro message pending _
            exact .inr (by rw [Duty.pending_next]; exact pending)
          · refine (held.phases other).move current rfl rfl (List.Subset.refl _)
              (List.Subset.refl _) ?_
            rw [view_next]
            cases key with
            | none => exact .inl rfl
            | some key =>
                by_cases same : key = other
                · exact .inr ⟨rfl, by simp [Duty.view, same]⟩
                · exact .inl (by simp [Duty.view, same])
      | facing message stage rest =>
          cases stage with
          | claimed key => exact allowed.elim
          | recorded key status => exact allowed.elim
          | looking =>
              obtain ⟨rfl, malformed⟩ := allowed
              change Decisions service _ (Function.update duties pid (some (.next rest)))
              refine held.move current rfl rfl grown (fun _ row => row) ?_ fun other => ?_
              · intro pending member delivered
                rcases List.mem_cons.mp member with rfl | later
                · exact .inl (.inl ⟨malformed, by simp [World.apply, delivered]⟩)
                · exact .inr (by simpa using later)
              · refine (held.phases other).move current rfl rfl (List.Subset.refl _)
                  (List.Subset.refl _) (.inl ?_)
                rw [view_next]
                rfl

theorem Decisions.redisGet {message : Message} {rest : List Message} {wanted : String}
    {reply : Except PyError (Option ResultView)} (held : Decisions service world duties)
    (current : duties pid = some (.facing message .looking rest))
    (requested : ∃ key, wanted = resultKey key ∧ service.Requests message key)
    (assumed : (deciding service).assumed (.facing message .looking rest) (.redisGet wanted) reply)
    (answered : world.answer (.redisGet wanted) reply = some after) :
    Decisions service after (Function.update duties pid (some ((deciding service).advance
      (.facing message .looking rest) (.redisGet wanted) reply))) := by
  rcases reply with error | (_ | view)
  · exact absurd assumed (List.cons_ne_nil _ _)
  · obtain ⟨_, applied⟩ := World.answer_ok answered
    rw [applied]
    exact held.unmoved current
  · obtain ⟨given, applied⟩ := World.answer_ok answered
    rw [applied]
    obtain ⟨key, rfl, asked⟩ := requested
    simp only [World.replies, decide_eq_true_eq] at given
    have decided := (held.phases key).of_cached given.symm
    change Decisions service _ (Function.update duties pid (some (.settled none rest)))
    refine held.move current rfl rfl (List.Subset.refl _) (fun _ row => row) ?_ fun other => ?_
    · intro pending member _
      rcases List.mem_cons.mp member with rfl | later
      · exact .inl (.inr ⟨key, asked, decided.isSome⟩)
      · exact .inr later
    · exact (held.phases other).move current rfl rfl (List.Subset.refl _) (List.Subset.refl _)
        (.inl rfl)

theorem Decisions.redisSet {key : String} {rest : List Message} {view : ResultView}
    {reply : Except PyError Unit} (held : Decisions service world duties)
    (current : duties pid = some (.settled (some key) rest))
    (answered : world.answer (.redisSet (resultKey key) view) reply = some after) :
    Decisions service after (Function.update duties pid (some (.settled (some key) rest))) := by
  rcases World.answer_eq answered with same | applied
  · rw [same]
    exact held.unmoved current
  · rw [applied]
    rw [← current, Function.update_eq_self]
    have looking : Duty.view key (duties pid) = some .looking := by
      rw [current]
      simp [Duty.view]
    obtain ⟨decided, settled⟩ := (held.phases key).of_settled looking
    refine ⟨held.ids, held.known, held.covered, fun other => ?_⟩
    by_cases same : other = key
    · subst same
      exact .decided (decided.mono rfl (List.Subset.refl _) (List.Subset.refl _)) settled
    · refine (held.phases other).frame rfl (.inl ?_) (List.Subset.refl _) (List.Subset.refl _)
        fun _ => .inl rfl
      exact Function.update_of_ne (fun equal => same (resultKey_injective equal)) _ _

theorem Decisions.insertPending {message : Message} {rest : List Message} {row : TradeRow}
    {reply : Except PyError ℕ} (held : Decisions service world duties)
    (current : duties pid = some (.facing message .looking rest))
    (requested : service.Requests message row.idempotencyKey)
    (assumed : (deciding service).assumed (.facing message .looking rest) (.insertPending row)
      reply)
    (answered : world.answer (.insertPending row) reply = some after) :
    Decisions service after (Function.update duties pid (some ((deciding service).advance
      (.facing message .looking rest) (.insertPending row) reply))) := by
  rcases reply with error | rowcount
  · exact absurd assumed (List.cons_ne_nil _ _)
  · obtain ⟨given, rfl⟩ := World.answer_ok answered
    simp only [World.replies, Bool.and_eq_true, decide_eq_true_eq] at given
    have inserted : ∀ key, (world.apply (.insertPending row)).statusOf key =
        if key = row.idempotencyKey then some ((world.statusOf key).getD row.status)
        else world.statusOf key := by
      intro key
      simp only [World.statusOf, World.apply, KeyedTable.find?_insert]
      split
      · cases world.trades.find? key <;> rfl
      · rfl
    have rows : ∀ key, (world.statusOf key).isSome →
        ((world.apply (.insertPending row)).statusOf key).isSome := by
      intro key present
      rw [inserted]
      split
      · rfl
      · exact present
    by_cases won : rowcount = 1
    · have absent : world.statusOf row.idempotencyKey = none := by
        rw [won] at given
        simp [World.statusOf, KeyedTable.insertCount_eq_one.mp given.2.symm]
      obtain ⟨cached, unseen⟩ := (held.phases row.idempotencyKey).of_absent absent
      have moved : (deciding service).advance (.facing message .looking rest)
          (.insertPending row) (.ok rowcount) =
            .facing message (.claimed row.idempotencyKey) rest := by simp [deciding, won]
      rw [moved]
      refine held.move current rfl rfl (List.Subset.refl _) rows (fun _ pending _ => .inr pending)
        fun key => ?_
      · by_cases same : key = row.idempotencyKey
        · subst same
          refine .claimed pid (by simp [inserted]) cached (by simp [Duty.view]) ?_
          intro other elsewhere
          rw [Function.update_of_ne elsewhere, unseen]
        · exact (held.phases key).move current (by simp [inserted, same]) rfl
            (List.Subset.refl _) (List.Subset.refl _) (.inl (by simp [Duty.view, Ne.symm same]))
    · have present : (world.statusOf row.idempotencyKey).isSome := by
        rw [Option.isSome_iff_ne_none]
        intro absent
        have missing : world.trades.find? row.idempotencyKey = none := by
          simpa [World.statusOf] using absent
        exact won (given.2.trans (KeyedTable.insertCount_eq_one.mpr missing))
      have moved : (deciding service).advance (.facing message .looking rest)
          (.insertPending row) (.ok rowcount) = .settled none rest := by simp [deciding, won]
      rw [moved]
      refine held.move current rfl rfl (List.Subset.refl _) rows ?_ fun key => ?_
      · intro pending member _
        rcases List.mem_cons.mp member with rfl | later
        · exact .inl (.inr ⟨_, requested, rows _ present⟩)
        · exact .inr later
      · refine (held.phases key).move current ?_ rfl (List.Subset.refl _) (List.Subset.refl _)
          (.inl rfl)
        rw [inserted]
        split
        · rename_i same
          obtain ⟨status, found⟩ := Option.isSome_iff_exists.mp present
          rw [same, found]
          rfl
        · rfl

theorem Decisions.setStatus {message : Message} {rest : List Message} {key : String}
    {update : StatusUpdate} {reply : Except PyError Unit} (held : Decisions service world duties)
    (current : duties pid = some (.facing message (.claimed key) rest))
    (terminal : update.status = .filled ∨ update.status = .rejected)
    (assumed : (deciding service).assumed (.facing message (.claimed key) rest)
      (.setStatus key update) reply)
    (answered : world.answer (.setStatus key update) reply = some after) :
    Decisions service after (Function.update duties pid (some ((deciding service).advance
      (.facing message (.claimed key) rest) (.setStatus key update) reply))) := by
  rcases reply with error | value
  · exact absurd assumed (List.cons_ne_nil _ _)
  · obtain ⟨_, rfl⟩ := World.answer_ok answered
    have holder : Duty.view key (duties pid) = some (.claimed key) := by
      rw [current]
      simp [Duty.view]
    obtain ⟨row, cached, unseen⟩ := (held.phases key).of_claimed holder
    change Decisions service _
      (Function.update duties pid (some (.facing message (.recorded key update.status) rest)))
    refine held.move current rfl rfl (List.Subset.refl _) ?_ (fun _ pending _ => .inr pending)
      fun other => ?_
    · intro other present
      rw [statusOf_setStatus terminal]
      split
      · simpa using present
      · exact present
    · by_cases same : other = key
      · subst same
        obtain ⟨status, found⟩ := Option.isSome_iff_exists.mp row
        refine .recorded pid update.status ?_ cached (by simp [Duty.view]) ?_
        · rw [statusOf_setStatus terminal, if_pos rfl, found]
          rfl
        · intro worker elsewhere
          rw [Function.update_of_ne elsewhere, unseen worker elsewhere]
      · refine (held.phases other).move current ?_ rfl (List.Subset.refl _) (List.Subset.refl _)
          (.inl (by simp [Duty.view, Ne.symm same]))
        rw [statusOf_setStatus terminal, if_neg same]

theorem Decisions.publish {message : Message} {rest : List Message} {key : String}
    {status : TradeStatus} (held : Decisions service world duties)
    (current : duties pid = some (.facing message (.recorded key status) rest))
    (requested : service.Requests message key) (requests : after.requests = world.requests)
    (delivered : after.delivered = world.delivered) (acked : after.acked = world.acked)
    (results : after.results = world.results) (trades : after.trades = world.trades)
    (filled : world.filled ⊆ after.filled) (rejected : world.rejected ⊆ after.rejected)
    (entered : status = .filled ∧ (∃ entry ∈ after.filled, entry.order.idempotencyKey = key) ∨
      status = .rejected ∧ ∃ entry ∈ after.rejected, entry.idempotencyKey = key) :
    Decisions service after (Function.update duties pid (some (.settled (some key) rest))) := by
  have holder : Duty.view key (duties pid) = some (.recorded key status) := by
    rw [current]
    simp [Duty.view]
  obtain ⟨row, unseen⟩ := (held.phases key).of_recorded holder
  have statuses : ∀ other, after.statusOf other = world.statusOf other := fun other => by
    rw [World.statusOf, World.statusOf, trades]
  have decided : after.Decided key := by
    rw [World.decided_iff, statuses, row]
    rcases entered with ⟨rfl, entry⟩ | ⟨rfl, entry⟩
    · exact .inl ⟨rfl, entry⟩
    · exact .inr ⟨rfl, entry⟩
  refine held.move current requests delivered (by rw [acked]; simp) (fun other present => ?_) ?_
    fun other => ?_
  · rw [statuses]
    exact present
  · intro pending member _
    rcases List.mem_cons.mp member with rfl | later
    · exact .inl (.inr ⟨key, requested, decided.isSome⟩)
    · exact .inr later
  · by_cases same : other = key
    · subst same
      refine .decided decided fun worker => ?_
      by_cases here : worker = pid
      · subst here
        exact .inr (by simp [Duty.view])
      · exact .inl (by rw [Function.update_of_ne here, unseen worker here])
    · exact (held.phases other).move current (statuses other) (by rw [results]) filled rejected
        (.inl (by simp [Duty.view, Ne.symm same]))

theorem Decisions.leave {duty : Duty} (held : Decisions service world duties)
    (current : duties pid = some duty) (free : duty.pending = []) :
    Decisions service world (Function.update duties pid none) := by
  refine held.frame rfl rfl (List.Subset.refl _) (fun _ row => row) ?_ fun key => ?_
  · intro before same message member _
    rw [current, Option.some.injEq] at same
    subst same
    simp [free] at member
  · refine (held.phases key).move current rfl rfl (List.Subset.refl _) (List.Subset.refl _) ?_
    cases duty with
    | between => exact .inl rfl
    | facing message stage rest => simp [Duty.pending] at free
    | settled other rest =>
        cases other with
        | none => exact .inl rfl
        | some other =>
            by_cases same : other = key
            · exact .inr ⟨rfl, by simp [Duty.view, same]⟩
            · exact .inl (by simp [Duty.view, same])

omit [DecidableEq Pid] in
theorem Decisions.environment {event : WorldEvent} (held : Decisions service world duties)
    (happened : world.environment event = some after) : Decisions service after duties := by
  cases event with
  | publish message =>
      simp only [World.environment] at happened
      split at happened
      · simp at happened
      · rename_i unused
        rw [Option.some.injEq] at happened
        subst happened
        refine ⟨?_, ?_, ?_, fun key => ?_⟩
        · rw [List.map_append, List.map_singleton, ← List.concat_eq_append, List.nodup_concat]
          exact ⟨unused, held.ids⟩
        · intro id member
          simp only [List.map_append, List.mem_append]
          exact .inl (held.known id member)
        · intro other member delivered
          rcases List.mem_append.mp member with earlier | now
          · exact held.covered other earlier delivered
          · rw [List.mem_singleton.mp now] at delivered
            exact absurd (held.known _ delivered) unused
        · exact (held.phases key).frame rfl (.inl rfl) (List.Subset.refl _)
            (List.Subset.refl _) fun _ => .inl rfl
  | expire key =>
      simp only [World.environment, Option.some.injEq] at happened
      subst happened
      refine ⟨held.ids, held.known, held.covered, fun other => ?_⟩
      refine (held.phases other).frame rfl ?_ (List.Subset.refl _) (List.Subset.refl _)
        fun _ => .inl rfl
      by_cases same : resultKey other = key
      · exact .inr (by simp [same])
      · exact .inl (Function.update_of_ne same _ _)
  | loseGroup =>
      simp only [World.environment, Option.some.injEq] at happened
      subst happened
      refine ⟨held.ids, by simp, by simp, fun key => ?_⟩
      exact (held.phases key).frame rfl (.inl rfl) (List.Subset.refl _) (List.Subset.refl _)
        fun _ => .inl rfl

theorem Decisions.answer {duty : Duty} {effect : Effect} {reply : Except PyError effect.Reply}
    (held : Decisions service world duties) (current : duties pid = some duty)
    (allowed : (deciding service).allowed duty effect)
    (assumed : (deciding service).assumed duty effect reply)
    (answered : world.answer effect reply = some after) :
    Decisions service after (Function.update duties pid
      (some ((deciding service).advance duty effect reply))) := by
  by_cases undeciding : effect.Undeciding
  · rw [(deciding_inert effect undeciding).2 reply assumed]
    exact held.undeciding current undeciding answered
  · cases effect with
    | xreadgroup count =>
        cases duty with
        | facing message stage rest => exact allowed.elim
        | settled key rest => exact allowed.elim
        | between =>
            cases reply with
            | ok messages => exact held.xreadgroup current answered
            | error error =>
                have lost : error.applied = false := assumed
                simp only [World.answer, Effect.tookEffect, lost, Bool.false_eq_true, ↓reduceIte,
                  Option.some.injEq] at answered
                subst answered
                exact held.unmoved current
    | xack id => exact held.xack current allowed answered
    | redisGet wanted =>
        cases duty with
        | between => exact allowed.elim
        | settled key rest => exact allowed.elim
        | facing message stage rest =>
            cases stage with
            | looking => exact held.redisGet current allowed assumed answered
            | claimed key => exact allowed.elim
            | recorded key status => exact allowed.elim
    | redisSet wanted view =>
        cases duty with
        | between => exact allowed.elim
        | facing message stage rest => exact allowed.elim
        | settled key rest =>
            cases key with
            | none => exact allowed.elim
            | some key =>
                have same : wanted = resultKey key := allowed
                subst same
                have unmoved : (deciding service).advance (.settled (some key) rest)
                    (.redisSet (resultKey key) view) reply = .settled (some key) rest := by
                  cases reply <;> rfl
                rw [unmoved]
                exact held.redisSet current answered
    | insertPending row =>
        cases duty with
        | between => exact allowed.elim
        | settled key rest => exact allowed.elim
        | facing message stage rest =>
            cases stage with
            | looking => exact held.insertPending current allowed assumed answered
            | claimed key => exact allowed.elim
            | recorded key status => exact allowed.elim
    | setStatus wanted update =>
        cases duty with
        | between => exact allowed.elim
        | settled key rest => exact allowed.elim
        | facing message stage rest =>
            cases stage with
            | looking => exact allowed.elim
            | recorded key status => exact allowed.elim
            | claimed key =>
                obtain ⟨rfl, terminal⟩ := allowed
                exact held.setStatus current terminal assumed answered
    | xaddFilled entry =>
        cases duty with
        | between => exact allowed.elim
        | settled key rest => exact allowed.elim
        | facing message stage rest =>
            rcases stage with _ | key | ⟨key, _ | _ | _ | _ | _⟩ <;> try exact allowed.elim
            obtain ⟨rfl, requested⟩ := allowed
            cases reply with
            | error error => exact absurd assumed (List.cons_ne_nil _ _)
            | ok value =>
                obtain ⟨_, rfl⟩ := World.answer_ok answered
                exact held.publish current requested rfl rfl rfl rfl rfl
                  (by simp [World.apply]) (List.Subset.refl _)
                  (.inl ⟨rfl, entry, by simp [World.apply], rfl⟩)
    | xaddRejected entry =>
        cases duty with
        | between => exact allowed.elim
        | settled key rest => exact allowed.elim
        | facing message stage rest =>
            rcases stage with _ | key | ⟨key, _ | _ | _ | _ | _⟩ <;> try exact allowed.elim
            obtain ⟨rfl, requested⟩ := allowed
            cases reply with
            | error error => exact absurd assumed (List.cons_ne_nil _ _)
            | ok value =>
                obtain ⟨_, rfl⟩ := World.answer_ok answered
                exact held.publish current requested rfl rfl rfl rfl rfl
                  (List.Subset.refl _) (by simp [World.apply])
                  (.inr ⟨rfl, entry, by simp [World.apply], rfl⟩)
    | _ => exact absurd trivial undeciding

end Effects

theorem deciding_maintains (service : ExecutionService) :
    (deciding service).Maintains service.system (fun world (duties : Pid → Option Duty) =>
      Decisions service world duties) where
  follows := entry_decides service
  start world duties pid request held free _ := by
    refine held.frame rfl rfl (List.Subset.refl _) (fun _ row => row) ?_ fun key => ?_
    · intro before current
      simp [free] at current
    · refine (held.phases key).frame rfl (.inl rfl) (List.Subset.refl _) (List.Subset.refl _)
        (views_update (.inl ?_))
      rw [free]
      rfl
  finish world duties pid duty held current free := held.leave current free
  fail world duties pid duty error held current free := held.leave current free
  crash world duties pid duty held current free := held.leave current free
  environment world duties event after held happened := held.environment happened
  answer world duties pid duty effect reply after held current allowed assumed _ answered :=
    held.answer current allowed assumed answered

structure World.Unbooked (world : World) : Prop where
  rows : world.trades.rows = []
  results : ∀ key, world.results key = none

structure World.Fresh (world : World) : Prop extends World.Unbooked world where
  ids : (world.requests.map Message.id).Nodup
  delivered : world.delivered = []

omit [DecidableEq Pid] in
theorem World.Fresh.decisions {service : ExecutionService} {world : World}
    (fresh : world.Fresh) : Decisions service world (fun _ : Pid => none) := by
  refine ⟨fresh.ids, by simp [fresh.delivered], by simp [fresh.delivered], fun key => ?_⟩
  refine .absent ?_ (fresh.results _) fun _ => rfl
  simp [World.statusOf, KeyedTable.find?, fresh.rows]

/-- Where no worker fails or crashes while it owes a decision, every delivered entry is
dropped and acknowledged or decided whenever no handler is in progress. -/
theorem delivered_decided (service : ExecutionService) {world : World}
    {trace : List (ServiceLabel Pid)} {after : ServiceConfig Pid} (fresh : world.Fresh)
    (assumed : (deciding service).Assumes (fun _ => none) trace)
    (ran : service.system.run (ServiceConfig.idle world) trace = some after)
    (quiet : ∀ pid, after.process pid = none) (message : Message)
    (requested : message ∈ after.world.requests)
    (delivered : message.id ∈ after.world.delivered) :
    parseOrder service.codec message.fields = .ok none ∧ message.id ∈ after.world.acked ∨
      ∃ order, parseOrder service.codec message.fields = .ok (some order) ∧
        after.world.Decided order.idempotencyKey := by
  obtain ⟨matched, held⟩ := (deciding_maintains service).run (Discipline.matches_initial world)
    fresh.decisions assumed ran
  have idle : ∀ pid, (deciding service).trackAll (fun _ => none) trace pid = none := by
    intro pid
    have here := matched pid
    rw [quiet pid] at here
    cases duty : (deciding service).trackAll (fun _ => none) trace pid with
    | none => rfl
    | some _ => simp [duty] at here
  rcases held.covered message requested delivered with
    (dropped | ⟨key, ⟨order, parsed, rfl⟩, row⟩) | ⟨pid, duty, current, _⟩
  · exact .inl dropped
  · refine .inr ⟨order, parsed, ?_⟩
    cases held.phases order.idempotencyKey with
    | absent none => simp [none] at row
    | claimed pid _ _ holder => simp [idle, Duty.view] at holder
    | recorded pid _ _ _ holder => simp [idle, Duty.view] at holder
    | decided done => exact done
  · simp [idle] at current

end Invariant

theorem delivered_decided_filled :
    ∃ after, (Sample.service (some {})).system.run (ServiceConfig.idle {}) (Sample.filling ()) =
        some after ∧ after.world.delivered = ["1-0"] ∧ after.world.Decided Sample.key := by
  have ran : ((Sample.service (some {})).system.run (ServiceConfig.idle {})
      (Sample.filling ())).map (fun after => ((after.process ()).isNone, after.world.requests,
        after.world.delivered)) = some (true, [⟨"1-0", Sample.fields⟩], ["1-0"]) := by
    decide +kernel
  obtain ⟨after, reached, seen⟩ := Option.map_eq_some_iff.mp ran
  simp only [Prod.mk.injEq, Option.isNone_iff_eq_none] at seen
  obtain ⟨idle, requests, delivered⟩ := seen
  have fresh : World.Fresh {} := ⟨⟨rfl, fun _ => rfl⟩, List.nodup_nil, rfl⟩
  have parsed : parseOrder (Sample.service (some {})).codec Sample.fields =
      .ok (some Sample.order) := by decide +kernel
  have uuid : uuidFromHex Sample.key = .ok "01234567-89ab-cdef-0123-456789abcdef" := by
    decide +kernel
  have sound : (Sample.service (some {})).Sound ⟨"1-0", Sample.fields⟩ := by
    rw [ExecutionService.Sound, parsed]
    exact ⟨⟨_, uuid⟩, .inl rfl⟩
  have assumed : (deciding (Sample.service (some {}))).Assumes (fun _ : Unit => none)
      (Sample.filling ()) := by
    refine ⟨trivial, trivial, fun _ _ message member => ?_, ?_⟩
    · rw [List.mem_singleton.mp member]
      exact sound
    · iterate 10 refine ⟨fun _ _ => trivial, ?_⟩
      exact ⟨trivial, trivial⟩
  have decided := delivered_decided (Sample.service (some {})) fresh assumed reached
    (fun _ => idle) ⟨"1-0", Sample.fields⟩ (by simp [requests]) (by simp [delivered])
  rw [parsed] at decided
  rcases decided with ⟨malformed, _⟩ | ⟨order, same, done⟩
  · simp at malformed
  · simp only [Except.ok.injEq, Option.some.injEq] at same
    subst same
    exact ⟨after, reached, delivered, done⟩

/-- A missing tick for the first entry of a batch leaves its row pending and the second
entry unread. -/
theorem delivered_undecided :
    ¬ ∀ (service : ExecutionService) (world : World) (trace : List (ServiceLabel Unit))
        (after : ServiceConfig Unit), world.Fresh →
        service.system.run (ServiceConfig.idle world) trace = some after →
        (∀ pid, after.process pid = none) → ∀ message ∈ after.world.requests,
        message.id ∈ after.world.delivered →
        parseOrder service.codec message.fields = .ok none ∧ message.id ∈ after.world.acked ∨
          ∃ order, parseOrder service.codec message.fields = .ok (some order) ∧
            after.world.Decided order.idempotencyKey := by
  intro always
  let first : Message := ⟨"1-0", Sample.fields⟩
  let second : Message := ⟨"2-0", [("order", "")]⟩
  let trace : List (ServiceLabel Unit) :=
    [.environment (.publish first),
     .environment (.publish second),
     .start () .drain,
     .answer () (.xreadgroup 8) (.ok [first, second]),
     .answer () (.redisGet (resultKey Sample.key)) (.ok none),
     .answer () (.insertPending Sample.row) (.ok 1),
     .answer () (.startExecute Sample.key) (.ok ()),
     .answer () (.symbolInfoTick "Volatility 75 Index") (.ok none),
     .fail () (.runtimeError "symbol_info_tick returned None for Volatility 75 Index")]
  have ran : ((Sample.service (some {})).system.run (ServiceConfig.idle {}) trace).map
      (fun after => ((after.process ()).isNone, after.world.requests, after.world.delivered,
        after.world.statusOf Sample.key)) =
      some (true, [first, second], ["1-0", "2-0"], some .pending) := by decide +kernel
  obtain ⟨after, reached, seen⟩ := Option.map_eq_some_iff.mp ran
  simp only [Prod.mk.injEq, Option.isNone_iff_eq_none] at seen
  obtain ⟨idle, requests, delivered, pending⟩ := seen
  have parsed : parseOrder (Sample.service (some {})).codec Sample.fields =
      .ok (some Sample.order) := by decide +kernel
  rcases always _ {} trace after ⟨⟨rfl, fun _ => rfl⟩, List.nodup_nil, rfl⟩ reached
    (fun _ => idle) first (by simp [requests]) (by simp [delivered, first]) with
    ⟨malformed, _⟩ | ⟨order, same, done⟩
  · simp [first, parsed] at malformed
  · simp only [first, parsed, Except.ok.injEq, Option.some.injEq] at same
    subst same
    have status : after.world.statusOf Sample.order.idempotencyKey = some .pending := pending
    rw [World.decided_iff, status] at done
    simp at done

end Vix75
