import Vix75.ExecutionChecks
import Vix75.ProgramResults

/-! The life of a trade: what a row of the trades table stands for, and the only ways in which
it changes while workers, manual closes and sweeps interleave, fail and crash. -/

namespace Vix75

open EffectProgram

structure Fill where
  retcode : Option ℤ
  desc : Option String
  ticket : ℤ
  price : ℚ

inductive Life where
  | undecided
  | refused (retcode : Option ℤ) (desc : Option String)
  | opened (fill : Fill)
  | settled (fill : Fill) (closedAt profit : ℚ)

inductive Life.Step : Life → Life → Prop
  | refuse (retcode : Option ℤ) (desc : Option String) : Step .undecided (.refused retcode desc)
  | fill (fill : Fill) : Step .undecided (.opened fill)
  | settle (fill : Fill) (closedAt profit : ℚ) :
      Step (.opened fill) (.settled fill closedAt profit)

def Life.Leads : Life → Life → Prop := Relation.ReflTransGen Life.Step

namespace TradeRow

def fill (row : TradeRow) (ticket : ℤ) : Fill :=
  ⟨row.retcode, row.retcodeDesc, ticket, row.entryPrice⟩

/-- No life belongs to a row whose columns contradict each other. -/
def life (row : TradeRow) : Option Life :=
  match row.status, row.brokerTicket, row.closedAt, row.profit with
  | .pending, none, none, none => some .undecided
  | .rejected, none, none, none => some (.refused row.retcode row.retcodeDesc)
  | .filled, some ticket, none, none => some (.opened (row.fill ticket))
  | .filled, some ticket, some closedAt, some profit =>
      some (.settled (row.fill ticket) closedAt profit)
  | _, _, _, _ => none

structure SameOrder (row later : TradeRow) : Prop where
  signalId : later.signalId = row.signalId
  symbol : later.symbol = row.symbol
  side : later.side = row.side
  lots : later.lots = row.lots
  slPrice : later.slPrice = row.slPrice
  tpPrice : later.tpPrice = row.tpPrice

theorem SameOrder.refl (row : TradeRow) : row.SameOrder row := ⟨rfl, rfl, rfl, rfl, rfl, rfl⟩

theorem SameOrder.trans {row middle later : TradeRow} (first : row.SameOrder middle)
    (second : middle.SameOrder later) : row.SameOrder later where
  signalId := second.signalId.trans first.signalId
  symbol := second.symbol.trans first.symbol
  side := second.side.trans first.side
  lots := second.lots.trans first.lots
  slPrice := second.slPrice.trans first.slPrice
  tpPrice := second.tpPrice.trans first.tpPrice

theorem sameOrder_setStatus (update : StatusUpdate) (row : TradeRow) :
    row.SameOrder (row.setStatus update) := by
  unfold setStatus
  split <;> try exact ⟨rfl, rfl, rfl, rfl, rfl, rfl⟩
  split <;> exact ⟨rfl, rfl, rfl, rfl, rfl, rfl⟩

theorem sameOrder_close (closedAt profit : ℚ) (row : TradeRow) :
    row.SameOrder (row.close closedAt profit) := ⟨rfl, rfl, rfl, rfl, rfl, rfl⟩

structure Becomes (row later : TradeRow) : Prop where
  order : row.SameOrder later
  life : ∃ before after, row.life = some before ∧ later.life = some after ∧ before.Leads after

theorem Becomes.refl {row : TradeRow} (alive : row.life.isSome) : row.Becomes row := by
  obtain ⟨life, held⟩ := Option.isSome_iff_exists.mp alive
  exact ⟨.refl row, life, life, held, held, .refl⟩

theorem Becomes.trans {row middle later : TradeRow} (first : row.Becomes middle)
    (second : middle.Becomes later) : row.Becomes later := by
  obtain ⟨before, here, was, is, firstLeads⟩ := first.life
  obtain ⟨there, after, is', willBe, secondLeads⟩ := second.life
  obtain rfl := Option.some.inj (is.symm.trans is')
  exact ⟨first.order.trans second.order, before, after, was, willBe,
    Relation.ReflTransGen.trans firstLeads secondLeads⟩

theorem undecided_iff {row : TradeRow} : row.life = some .undecided ↔ row.status = .pending ∧
    row.brokerTicket = none ∧ row.closedAt = none ∧ row.profit = none := by
  constructor
  · intro undecided
    unfold life at undecided
    split at undecided
    next status ticket closedAt profit => exact ⟨status, ticket, closedAt, profit⟩
    all_goals cases undecided
  · rintro ⟨status, ticket, closedAt, profit⟩
    unfold life
    rw [status, ticket, closedAt, profit]

theorem becomes_filled {row : TradeRow} (undecided : row.life = some .undecided)
    {update : StatusUpdate} {ticket : ℤ} (status : update.status = .filled)
    (ticketed : update.ticket = some ticket) : row.Becomes (row.setStatus update) := by
  obtain ⟨_, _, closedAt, profit⟩ := undecided_iff.mp undecided
  refine ⟨sameOrder_setStatus update row, .undecided, _, undecided, ?_,
    .single (.fill ((row.setStatus update).fill ticket))⟩
  simp only [setStatus, status, life, ticketed, closedAt, profit]

theorem becomes_rejected {row : TradeRow} (undecided : row.life = some .undecided)
    {update : StatusUpdate} (status : update.status = .rejected) :
    row.Becomes (row.setStatus update) := by
  obtain ⟨_, ticket, closedAt, profit⟩ := undecided_iff.mp undecided
  refine ⟨sameOrder_setStatus update row, .undecided, _, undecided, ?_,
    .single (.refuse (row.setStatus update).retcode (row.setStatus update).retcodeDesc)⟩
  simp only [setStatus, status, life, ticket, closedAt, profit]

theorem opened_of_open {row : TradeRow} (alive : row.life.isSome) {ticket : ℤ}
    (opened : row.openWithTicket ticket = true) : row.status = .filled ∧
      row.brokerTicket = some ticket ∧ row.closedAt = none ∧ row.profit = none := by
  obtain ⟨ticketed, unclosed⟩ : row.brokerTicket = some ticket ∧ row.closedAt = none := by
    simpa [openWithTicket] using opened
  unfold life at alive
  rw [ticketed, unclosed] at alive
  split at alive
  next impossible _ _ => cases impossible
  next impossible _ _ => cases impossible
  next status _ _ profit => exact ⟨status, ticketed, unclosed, profit⟩
  next impossible _ => cases impossible
  next => cases alive

theorem becomes_closed {row : TradeRow} (alive : row.life.isSome) {ticket : ℤ}
    (opened : row.openWithTicket ticket = true) (closedAt profit : ℚ) :
    row.Becomes (row.close closedAt profit) := by
  obtain ⟨status, ticketed, unclosed, unpaid⟩ := opened_of_open alive opened
  refine ⟨sameOrder_close closedAt profit row, .opened (row.fill ticket),
    .settled (row.fill ticket) closedAt profit, ?_, ?_, .single (.settle _ closedAt profit)⟩
  · simp only [life, status, ticketed, unclosed, unpaid]
  · simp only [life, close, status, ticketed, fill]

end TradeRow

/-! What the programs do to a row -/

/-- A process writes the status of the row that its own insert added, once, and only a
reconciler with a terminal knows a profit. -/
def booking (service : ExecutionService) :
    Discipline Effect Effect.Reply PyError ServiceRequest (Option String) where
  initial := fun _ => none
  allowed := fun claim effect => match effect with
    | .insertPending row => row.life = some .undecided
    | .setStatus key update => claim = some key ∧
        (update.status = .rejected ∨ update.status = .filled ∧ update.ticket.isSome)
    | .closeByTicket _ _ profit => service.reconcilerMt5 = none → profit = 0
    | .xaddClosed _ => service.reconcilerMt5 ≠ none
    | _ => True
  advance := fun claim effect reply => match effect, reply with
    | .insertPending row, .ok rowcount => if rowcount = 1 then some row.idempotencyKey else none
    | .insertPending _, .error _ => none
    | .setStatus _ _, _ => none
    | _, _ => claim

def Effect.BooksNothing : Effect → Prop
  | .insertPending _ => False
  | .setStatus _ _ => False
  | .closeByTicket _ _ _ => False
  | .xaddClosed _ => False
  | _ => True

section Follows

variable (service : ExecutionService) {claim : Option String}

theorem booking_inert (effect : Effect) (nothing : effect.BooksNothing) :
    (booking service).allowed claim effect ∧
      ∀ reply, (booking service).assumed claim effect reply →
        (booking service).advance claim effect reply = claim := by
  cases effect <;> first | exact absurd nothing id | exact ⟨trivial, fun _ _ => rfl⟩

variable {service}

theorem booking_of_uses {α : Type} {program : Execution α}
    (used : program.Uses Effect.BooksNothing) :
    (booking service).wp claim program (fun _ _ => True) (fun _ _ => True) :=
  Discipline.wp_mono (Discipline.wp_of_uses used (booking_inert service))
    (fun _ _ _ => trivial) (fun _ _ _ => trivial)

def ExecOutcome.Ticketed (outcome : ExecOutcome) : Prop :=
  outcome.result.accepted = true → outcome.result.ticket.isSome

theorem sendLoop_ticketed (order : OrderRequest ℚ) (request : SendRequest) (rounds : ℕ)
    (state : MT5Executor.SendState) :
    (MT5Executor.sendLoop order request rounds state).Yields ExecOutcome.Ticketed := by
  induction rounds generalizing state with
  | zero => exact nofun
  | succ rounds ih =>
      have backOff : ∀ retry : MT5Executor.SendState,
          (if state.attempts + 1 < maxAttempts then do
            await (.sleep retry.delay)
            MT5Executor.sendLoop order request rounds { retry with delay := retry.delay * 2 }
          else MT5Executor.sendLoop order request rounds retry :
            Execution ExecOutcome).Yields ExecOutcome.Ticketed := by
        intro retry
        split
        · exact Prog.yields_perform_bind fun _ => ih _
        · exact ih _
      refine Prog.yields_perform_bind fun answered => ?_
      cases answered with
      | none => exact Prog.yields_perform_bind fun _ => backOff _
      | some result =>
          dsimp only
          split
          · exact fun _ => rfl
          · split
            · exact Prog.yields_perform_bind fun _ => nofun
            · exact Prog.yields_perform_bind fun _ => backOff _

theorem executeDryRun_ticketed (executor : MT5Executor) (order : OrderRequest ℚ) :
    (executor.executeDryRun order).Yields ExecOutcome.Ticketed := by
  unfold MT5Executor.executeDryRun
  split
  · refine Prog.yields_bind (Prog.yields_trivial _) fun tick _ => ?_
    exact Prog.yields_perform_bind fun now _ => rfl
  · exact Prog.yields_perform_bind fun now _ => rfl

theorem execute_ticketed (executor : MT5Executor) (order : OrderRequest ℚ) :
    (executor.execute order).Yields ExecOutcome.Ticketed := by
  unfold MT5Executor.execute
  split
  · exact executeDryRun_ticketed executor order
  · refine Prog.yields_bind (Prog.yields_trivial _) fun request _ => ?_
    refine Prog.yields_bind (Prog.yields_trivial _) fun _ _ => ?_
    exact sendLoop_ticketed order request _ _

theorem settle_booked {order : OrderRequest ℚ} {outcome : ExecOutcome} {correlationId : String}
    (ticketed : outcome.Ticketed) :
    (booking service).wp (some order.idempotencyKey)
      (if outcome.result.accepted then settleFilled order outcome.result correlationId
        else settleRejected order outcome correlationId)
      (fun _ _ => True) (fun _ _ => True) := by
  cases accepted : outcome.result.accepted with
  | true =>
      refine Discipline.wp_perform_bind ⟨rfl, .inr ⟨rfl, ticketed accepted⟩⟩
        (fun _ _ => trivial) fun _ _ => ?_
      exact booking_of_uses (Prog.uses_perform trivial)
  | false =>
      refine Discipline.wp_perform_bind ⟨rfl, .inl rfl⟩ (fun _ _ => trivial) fun _ _ => ?_
      exact booking_of_uses (Prog.uses_perform trivial)

theorem executeOrder_booked (order : OrderRequest ℚ)
    (correlationId : String) :
    (booking service).wp (some order.idempotencyKey) (executeOrder service order correlationId)
      (fun _ _ => True) (fun _ _ => True) := by
  refine Discipline.wp_perform_bind trivial (fun _ _ => trivial) fun _ _ => ?_
  refine Discipline.wp_seq _ (Discipline.wp_mono (Discipline.wp_of_yields
    (execute_uses trivial trivial (fun _ => trivial) trivial fun _ => trivial)
    (execute_ticketed service.executor order) (booking_inert service))
    (fun _ _ same => same) fun _ _ _ => trivial) ?_
  rintro current outcome ⟨rfl, ticketed⟩
  have settled := @settle_booked service order outcome correlationId ticketed
  have recorded : ∀ (current : Option String) entry, (booking service).wp current
      (do
        await (.redisSet (resultKey order.idempotencyKey) (resultView outcome.result))
        audit entry)
      (fun _ _ => True) (fun _ _ => True) := fun current entry =>
    booking_of_uses (Prog.uses_bind (Prog.uses_perform trivial) fun _ => audit_uses trivial)
  dsimp only
  split
  · rename_i accepted
    simp only [accepted, ↓reduceIte] at settled
    exact Discipline.wp_seq _ settled fun current _ _ => recorded current _
  · rename_i refused
    simp only [refused, Bool.false_eq_true, ↓reduceIte] at settled
    exact Discipline.wp_seq _ settled fun current _ _ => recorded current _

theorem handleOrder_booked (order : OrderRequest ℚ)
    (correlationId : String) :
    (booking service).wp claim (handleOrder service order correlationId)
      (fun _ _ => True) (fun _ _ => True) := by
  refine Discipline.wp_perform_bind trivial (fun _ _ => trivial) fun cached _ => ?_
  cases cached with
  | some view => trivial
  | none =>
      dsimp only
      rw [Discipline.wp_bind]
      unfold insertPending
      split
      · trivial
      · refine Discipline.wp_perform_bind rfl (fun _ _ => trivial) fun rowcount _ => ?_
        by_cases won : rowcount = 1
        · subst won
          exact executeOrder_booked order correlationId
        · simp [won]

theorem handleMessage_booked (message : Message) :
    (booking service).wp claim (handleMessage service message) (fun _ _ => True)
      (fun _ _ => True) := by
  refine Discipline.wp_seq (fun _ _ => True) ?_ fun current _ _ =>
    booking_of_uses (Prog.uses_perform trivial)
  refine Discipline.wp_seq _ (booking_of_uses (getOrCreateCorrelationId_uses trivial)) ?_
  intro current correlationId _
  split
  · trivial
  · trivial
  · exact handleOrder_booked _ correlationId

theorem wp_of_noted {α : Type} {program : Execution α} (noted : Effect → Prop)
    (used : program.Uses fun effect => effect.BooksNothing ∨ noted effect)
    (permitted : ∀ effect, noted effect → (booking service).allowed claim effect ∧
      ∀ reply, (booking service).advance claim effect reply = claim) :
    (booking service).wp claim program (fun _ _ => True) (fun _ _ => True) := by
  refine Discipline.wp_mono (Discipline.wp_of_uses used ?_) (fun _ _ _ => trivial)
    (fun _ _ _ => trivial)
  rintro effect (nothing | known)
  · exact booking_inert service effect nothing
  · obtain ⟨allowed, still⟩ := permitted effect known
    exact ⟨allowed, fun reply _ => still reply⟩

theorem runOnce_booked :
    (booking service).wp claim (runOnce service) (fun _ _ => True) (fun _ _ => True) := by
  cases terminal : service.reconcilerMt5 with
  | none =>
      rw [runOnce, terminal]
      trivial
  | some mt5 =>
      have equipped : service.reconcilerMt5 ≠ none := by simp [terminal]
      refine wp_of_noted Effect.Sweeping
        ((runOnce_uses service).mono fun _ sweeping => .inr sweeping) ?_
      intro effect sweeping
      cases effect with
      | closeByTicket ticket closedAt profit => exact ⟨(absurd · equipped), fun _ => rfl⟩
      | xaddClosed entry => exact ⟨equipped, fun _ => rfl⟩
      | insertPending row => exact sweeping.elim
      | setStatus key update => exact sweeping.elim
      | _ => exact ⟨trivial, fun _ => rfl⟩

theorem closeRoute_booked (ticket : ℤ) :
    (booking service).wp claim (closeRoute service ticket) (fun _ _ => True)
      (fun _ _ => True) := by
  refine wp_of_noted (fun effect => ∃ closedAt, effect = .closeByTicket ticket closedAt 0)
    (closeRoute_uses (.inl trivial) (.inl trivial) (fun _ => .inl trivial)
      (fun _ => .inl trivial) (.inl trivial) (.inl trivial) (fun _ => .inr ⟨_, rfl⟩)
      fun _ => .inl trivial) ?_
  rintro effect ⟨closedAt, rfl⟩
  exact ⟨fun _ => rfl, fun _ => rfl⟩

theorem entry_booked (request : ServiceRequest) :
    (booking service).wp none (service.entry request) (fun _ _ => True) (fun _ _ => True) := by
  cases request with
  | ensureGroup => exact booking_of_uses (ensureGroup_uses trivial)
  | sweep => exact runOnce_booked
  | close ticket => exact Discipline.wp_seq _ (closeRoute_booked ticket) fun _ _ _ => trivial
  | drain =>
      refine Discipline.wp_seq _ (booking_of_uses (readBatch_uses trivial trivial trivial)) ?_
      intro current messages _
      exact Discipline.wp_forEach (fun _ _ => True) trivial
        fun message rest after _ => handleMessage_booked message

end Follows

section Interleavings

variable {Pid : Type} {world after : World} {claims : Pid → Option (Option String)} {pid : Pid}

structure Booked (world : World) (claims : Pid → Option (Option String)) : Prop where
  alive : ∀ key row, world.trades.find? key = some row → row.life.isSome
  waiting : ∀ pid key, claims pid = some (some key) →
    ∃ row, world.trades.find? key = some row ∧ row.life = some .undecided
  alone : ∀ pid other key, claims pid = some (some key) → claims other = some (some key) →
    pid = other

def World.Advances (world after : World) : Prop :=
  ∀ key row, world.trades.find? key = some row →
    ∃ later, after.trades.find? key = some later ∧ row.Becomes later

variable [DecidableEq Pid]

omit [DecidableEq Pid] in
theorem Booked.still (held : Booked world claims) : world.Advances world :=
  fun key row found => ⟨row, found, .refl (held.alive key row found)⟩

theorem Booked.drop {claim : Option (Option String)} (held : Booked world claims)
    (same : ∀ key, claim = some (some key) → claims pid = some (some key)) :
    Booked world (Function.update claims pid claim) := by
  have before : ∀ other key, Function.update claims pid claim other = some (some key) →
      claims other = some (some key) := by
    intro other key holds
    by_cases here : other = pid
    · subst here
      exact same key (by simpa using holds)
    · simpa [Function.update_of_ne here] using holds
  refine ⟨held.alive, fun other key holds => held.waiting other key (before other key holds), ?_⟩
  intro first second key holdsFirst holdsSecond
  exact held.alone first second key (before first key holdsFirst) (before second key holdsSecond)

omit [DecidableEq Pid] in
theorem Booked.advance (held : Booked world claims)
    (advances : world.Advances after)
    (old : ∀ key, (after.trades.find? key).isSome → (world.trades.find? key).isSome)
    (kept : ∀ key row, world.trades.find? key = some row → row.life = some .undecided →
      after.trades.find? key = some row) : Booked after claims := by
  refine ⟨?_, ?_, held.alone⟩
  · intro key row found
    obtain ⟨before, was⟩ := Option.isSome_iff_exists.mp (old key (by simp [found]))
    obtain ⟨later, is, becomes⟩ := advances key before was
    obtain rfl := Option.some.inj (found.symm.trans is)
    obtain ⟨_, life, _, lives, _⟩ := becomes.life
    simp [lives]
  · intro other key claimed
    obtain ⟨row, found, undecided⟩ := held.waiting other key claimed
    exact ⟨row, kept key row found undecided, undecided⟩

variable {service : ExecutionService}

theorem Booked.insert {row : TradeRow} {reply : Except PyError ℕ} {claim : Option String}
    (held : Booked world claims) (fresh : row.life = some .undecided)
    (answered : world.answer (.insertPending row) reply = some after) :
    Booked after (Function.update claims pid
      (some ((booking service).advance claim (.insertPending row) reply))) ∧
      world.Advances after := by
  have kept : ∀ key found, world.trades.find? key = some found →
      after.trades.find? key = some found := by
    intro key found known
    rcases World.answer_eq answered with rfl | rfl
    · exact known
    · simp only [World.apply, KeyedTable.find?_insert, known]
      split <;> rfl
  have only : ∀ key found, after.trades.find? key = some found →
      world.trades.find? key = some found ∨ found.life = some .undecided := by
    intro key found known
    rcases World.answer_eq answered with rfl | rfl
    · exact .inl known
    · simp only [World.apply, KeyedTable.find?_insert] at known
      split at known
      · cases was : world.trades.find? key with
        | none =>
            rw [was] at known
            obtain rfl := Option.some.inj known
            exact .inr fresh
        | some before =>
            rw [was] at known
            exact .inl known
      · exact .inl known
  have stays : Booked after claims := by
    refine ⟨?_, ?_, held.alone⟩
    · intro key found known
      rcases only key found known with before | undecided
      · exact held.alive key found before
      · simp [undecided]
    · intro other key claimed
      obtain ⟨found, known, undecided⟩ := held.waiting other key claimed
      exact ⟨found, kept key found known, undecided⟩
  refine ⟨?_, fun key found known => ⟨found, kept key found known,
    .refl (held.alive key found known)⟩⟩
  cases reply with
  | error error => exact stays.drop fun _ claimed => by simp [booking] at claimed
  | ok rowcount =>
      by_cases won : rowcount = 1
      · obtain ⟨given, applied⟩ := World.answer_ok answered
        simp only [World.replies, won, Bool.and_eq_true, decide_eq_true_eq] at given
        have absent := KeyedTable.insertCount_eq_one.mp given.2.symm
        have unclaimed : ∀ other, claims other ≠ some (some row.idempotencyKey) := by
          intro other claimed
          obtain ⟨_, known, _⟩ := held.waiting other _ claimed
          simp [absent] at known
        have claimOf : ∀ other key, Function.update claims pid
            (some ((booking service).advance claim (.insertPending row) (.ok rowcount))) other =
              some (some key) → other = pid ∧ key = row.idempotencyKey ∨
                claims other = some (some key) := by
          intro other key claimed
          by_cases here : other = pid
          · subst here
            simp only [booking, won, Function.update_self, ↓reduceIte, Option.some.injEq]
              at claimed
            exact .inl ⟨rfl, claimed.symm⟩
          · exact .inr (by simpa [Function.update_of_ne here] using claimed)
        refine ⟨stays.alive, ?_, ?_⟩
        · intro other key claimed
          rcases claimOf other key claimed with ⟨_, rfl⟩ | before
          · refine ⟨row, ?_, fresh⟩
            rw [applied]
            exact KeyedTable.find?_insert_absent absent
          · exact stays.waiting other key before
        · intro first second key claimedFirst claimedSecond
          rcases claimOf first key claimedFirst with ⟨rfl, rfl⟩ | before
          · rcases claimOf second _ claimedSecond with ⟨rfl, _⟩ | other
            · rfl
            · exact absurd other (unclaimed second)
          · rcases claimOf second key claimedSecond with ⟨_, rfl⟩ | other
            · exact absurd before (unclaimed first)
            · exact held.alone first second key before other
      · refine stays.drop fun key claimed => ?_
        simp [booking, won] at claimed

theorem Booked.setStatus {key : String} {update : StatusUpdate} {reply : Except PyError Unit}
    (held : Booked world claims) (claimed : claims pid = some (some key))
    (decides : update.status = .rejected ∨ update.status = .filled ∧ update.ticket.isSome)
    (answered : world.answer (.setStatus key update) reply = some after) :
    Booked after (Function.update claims pid (some none)) ∧ world.Advances after := by
  rcases World.answer_eq answered with rfl | rfl
  · exact ⟨held.drop nofun, held.still⟩
  obtain ⟨row, found, undecided⟩ := held.waiting pid key claimed
  have becomes : row.Becomes (row.setStatus update) := by
    rcases decides with rejected | ⟨filled, ticketed⟩
    · exact TradeRow.becomes_rejected undecided rejected
    · obtain ⟨ticket, given⟩ := Option.isSome_iff_exists.mp ticketed
      exact TradeRow.becomes_filled undecided filled given
  have there : (world.apply (.setStatus key update)).trades.find? key =
      some (row.setStatus update) := by
    simp [World.apply, KeyedTable.find?_update, found, KeyedTable.key_of_find? found]
  have elsewhere : ∀ other, other ≠ key →
      (world.apply (.setStatus key update)).trades.find? other = world.trades.find? other := by
    intro other apart
    cases known : world.trades.find? other with
    | none => simp [World.apply, KeyedTable.find?_update, known]
    | some found =>
        have keyed : ¬found.idempotencyKey = key := KeyedTable.key_of_find? known ▸ apart
        simp [World.apply, KeyedTable.find?_update, known, keyed]
  have advances : world.Advances (world.apply (.setStatus key update)) := by
    intro other found known
    by_cases same : other = key
    · subst same
      obtain rfl := Option.some.inj (known.symm.trans found)
      exact ⟨_, there, becomes⟩
    · exact ⟨found, (elsewhere other same).trans known, .refl (held.alive other found known)⟩
  have before : ∀ other wanted, Function.update claims pid (some none) other =
      some (some wanted) → claims other = some (some wanted) ∧ wanted ≠ key := by
    intro other wanted holds
    by_cases here : other = pid
    · subst here
      simp at holds
    · rw [Function.update_of_ne here] at holds
      refine ⟨holds, ?_⟩
      rintro rfl
      exact here (held.alone other pid wanted holds claimed)
  refine ⟨⟨?_, ?_, ?_⟩, advances⟩
  · intro other later known
    by_cases same : other = key
    · subst same
      obtain rfl := Option.some.inj (there.symm.trans known)
      obtain ⟨_, _, _, lives, _⟩ := becomes.life
      simp [lives]
    · exact held.alive other later ((elsewhere other same).symm.trans known)
  · intro other wanted holds
    obtain ⟨was, apart⟩ := before other wanted holds
    obtain ⟨waiting, known, fresh⟩ := held.waiting other wanted was
    exact ⟨waiting, (elsewhere wanted apart).trans known, fresh⟩
  · intro first second wanted holdsFirst holdsSecond
    exact held.alone first second wanted (before first wanted holdsFirst).1
      (before second wanted holdsSecond).1

omit [DecidableEq Pid] in
theorem Booked.close {ticket : ℤ} {closedAt profit : ℚ} (held : Booked world claims) :
    Booked (world.apply (.closeByTicket ticket closedAt profit)) claims ∧
      world.Advances (world.apply (.closeByTicket ticket closedAt profit)) := by
  have there : ∀ key, (world.apply (.closeByTicket ticket closedAt profit)).trades.find? key =
      (world.trades.find? key).map fun row =>
        if row.openWithTicket ticket then row.close closedAt profit else row := by
    intro key
    simp only [World.apply, KeyedTable.find?_update]
  have advances : world.Advances (world.apply (.closeByTicket ticket closedAt profit)) := by
    intro key row found
    refine ⟨_, (there key).trans (congrArg _ found), ?_⟩
    dsimp only
    split
    next opened => exact TradeRow.becomes_closed (held.alive key row found) opened _ _
    next => exact .refl (held.alive key row found)
  refine ⟨⟨?_, ?_, held.alone⟩, advances⟩
  · intro key later known
    rw [there] at known
    obtain ⟨row, found, _⟩ := Option.map_eq_some_iff.mp known
    obtain ⟨next, is, becomes⟩ := advances key row found
    rw [there, known] at is
    obtain rfl := Option.some.inj is
    obtain ⟨_, _, _, lives, _⟩ := becomes.life
    simp [lives]
  · intro other key claimed
    obtain ⟨row, found, undecided⟩ := held.waiting other key claimed
    refine ⟨row, ?_, undecided⟩
    obtain ⟨_, unticketed, _⟩ := TradeRow.undecided_iff.mp undecided
    rw [there, found, Option.map_some, if_neg (by simp [TradeRow.openWithTicket, unticketed])]

theorem Booked.answer {claim : Option String} {effect : Effect}
    {reply : Except PyError effect.Reply} (held : Booked world claims)
    (current : claims pid = some claim) (allowed : (booking service).allowed claim effect)
    (answered : world.answer effect reply = some after) :
    Booked after
      (Function.update claims pid (some ((booking service).advance claim effect reply))) ∧
      world.Advances after := by
  by_cases nothing : effect.BooksNothing
  · rw [(booking_inert service effect nothing).2 reply trivial, ← current, Function.update_eq_self]
    rcases World.answer_eq answered with rfl | rfl
    · exact ⟨held, held.still⟩
    · cases effect with
      | insertPending row => exact nothing.elim
      | setStatus key update => exact nothing.elim
      | closeByTicket ticket closedAt profit => exact nothing.elim
      | _ => exact ⟨⟨held.alive, held.waiting, held.alone⟩, held.still⟩
  · cases effect with
    | insertPending row => exact held.insert allowed answered
    | setStatus key update =>
        obtain ⟨rfl, decides⟩ := allowed
        exact held.setStatus current decides answered
    | closeByTicket ticket closedAt profit =>
        rw [show (booking service).advance claim (.closeByTicket ticket closedAt profit) reply =
          claim from rfl, ← current, Function.update_eq_self]
        rcases World.answer_eq answered with rfl | rfl
        · exact ⟨held, held.still⟩
        · exact held.close
    | xaddClosed entry =>
        rw [show (booking service).advance claim (.xaddClosed entry) reply = claim from rfl,
          ← current, Function.update_eq_self]
        rcases World.answer_eq answered with rfl | rfl
        · exact ⟨held, held.still⟩
        · exact ⟨⟨held.alive, held.waiting, held.alone⟩, held.still⟩
    | _ => exact absurd trivial nothing

theorem booking_maintains (service : ExecutionService) :
    (booking service).Maintains service.system
      (fun world (claims : Pid → Option (Option String)) => Booked world claims) where
  follows := entry_booked
  start _ _ _ _ held _ _ := held.drop nofun
  finish _ _ _ _ held _ _ := held.drop nofun
  fail _ _ _ _ _ held _ _ := held.drop nofun
  crash _ _ _ _ held _ _ := held.drop nofun
  answer _ _ _ _ _ _ _ held current allowed _ _ answered :=
    (held.answer current allowed answered).1
  environment _ _ _ _ held happened := by
    obtain ⟨_, trades, _⟩ := environment_keeps happened
    exact ⟨by simpa only [trades] using held.alive, by simpa only [trades] using held.waiting,
      held.alone⟩

theorem moves_advance {label : ServiceLabel Pid}
    (held : Booked world claims)
    (moved : (booking service).Moves service.system world claims label after) :
    world.Advances after := by
  cases moved with
  | answer pid claim effect reply _ current allowed answered =>
      exact (held.answer current allowed answered).2
  | environment event _ happened =>
      intro key row found
      rw [(environment_keeps happened).2.1]
      exact ⟨row, found, .refl (held.alive key row found)⟩
  | _ => exact held.still

omit [DecidableEq Pid] in
theorem becomes_of_advances (advanced : Relation.ReflTransGen World.Advances world after)
    {key : String} {row : TradeRow} (found : world.trades.find? key = some row)
    (alive : row.life.isSome) :
    ∃ later, after.trades.find? key = some later ∧ row.Becomes later := by
  induction advanced with
  | refl => exact ⟨row, found, .refl alive⟩
  | tail _ step ih =>
      obtain ⟨middle, known, first⟩ := ih
      obtain ⟨later, known, second⟩ := step key middle known
      exact ⟨later, known, first.trans second⟩

/-- Between any two states of a run a row keeps its order, and its life goes on from undecided to
refused, or to opened and then to settled, and never back. -/
theorem trade_lifecycle (service : ExecutionService) {world : World}
    {first second : List (ServiceLabel Pid)} {middle after : ServiceConfig Pid}
    (unused : world.trades.rows = [])
    (ranFirst : service.system.run (ServiceConfig.idle world) first = some middle)
    (ranSecond : service.system.run middle second = some after)
    {key : String} {row : TradeRow} (found : middle.world.trades.find? key = some row) :
    ∃ later, after.world.trades.find? key = some later ∧ row.Becomes later := by
  have initial : Booked world (fun _ : Pid => none) := by
    refine ⟨fun key row known => ?_, nofun, nofun⟩
    simp [KeyedTable.find?, unused] at known
  have assumes : ∀ (claims : Pid → Option (Option String)) (trace : List (ServiceLabel Pid)),
      (booking service).Assumes claims trace := fun claims trace =>
    Discipline.assumes_of_forall (fun _ _ _ _ _ => trivial) fun _ _ _ => trivial
  obtain ⟨matched, held⟩ := (booking_maintains service).run (Discipline.matches_initial world)
    initial (assumes _ first) ranFirst
  have advanced := (booking_maintains service).run_related
    (fun _ _ _ _ held moved => moves_advance held moved) matched held
    (assumes _ second) ranSecond
  exact becomes_of_advances advanced found (held.alive key row found)

structure Unreconciled (published : List ClosedEntry) (world : World) : Prop where
  closed : world.closed = published
  unpaid : ∀ row ∈ world.trades.rows, row.closedAt.isSome → row.profit = some 0

omit [DecidableEq Pid] in
theorem Unreconciled.apply {published : List ClosedEntry} {claim : Option String}
    {effect : Effect} (held : Unreconciled published world)
    (unequipped : service.reconcilerMt5 = none)
    (allowed : (booking service).allowed claim effect) :
    Unreconciled published (world.apply effect) := by
  cases effect with
  | xaddClosed entry => exact absurd unequipped allowed
  | insertPending row =>
      refine ⟨held.closed, fun other member closed => ?_⟩
      rcases KeyedTable.mem_insert member with before | ⟨rfl, _⟩
      · exact held.unpaid other before closed
      · obtain ⟨_, _, open_, _⟩ := TradeRow.undecided_iff.mp allowed
        simp [open_] at closed
  | setStatus key update =>
      refine ⟨held.closed, fun other member closed => ?_⟩
      obtain ⟨row, known, rfl⟩ := List.mem_map.mp member
      have kept : ∀ row : TradeRow, (row.setStatus update).closedAt = row.closedAt ∧
          (row.setStatus update).profit = row.profit := by
        intro row
        unfold TradeRow.setStatus
        split <;> try exact ⟨rfl, rfl⟩
        split <;> exact ⟨rfl, rfl⟩
      by_cases here : decide (row.idempotencyKey = key) = true
      · rw [if_pos here] at closed ⊢
        rw [(kept row).1] at closed
        rw [(kept row).2]
        exact held.unpaid row known closed
      · rw [if_neg here] at closed ⊢
        exact held.unpaid row known closed
  | closeByTicket ticket closedAt profit =>
      refine ⟨held.closed, fun other member closed => ?_⟩
      obtain ⟨row, known, rfl⟩ := List.mem_map.mp member
      by_cases here : row.openWithTicket ticket = true
      · rw [if_pos here, allowed unequipped]
        rfl
      · rw [if_neg here] at closed ⊢
        exact held.unpaid row known closed
  | _ => exact ⟨held.closed, held.unpaid⟩

/-- The entry point hands its reconciler no terminal: whatever happens, no close is ever
announced, and every trade that is closed is booked with a profit of zero. -/
theorem deployed_never_reconciles (service : ExecutionService)
    (unequipped : service.reconcilerMt5 = none) {world : World}
    {trace : List (ServiceLabel Pid)} {after : ServiceConfig Pid}
    (unused : world.trades.rows = [])
    (ran : service.system.run (ServiceConfig.idle world) trace = some after) :
    after.world.closed = world.closed ∧
      ∀ row ∈ after.world.trades.rows, row.closedAt.isSome → row.profit = some 0 := by
  have maintains : (booking service).Maintains service.system
      (fun after (_ : Pid → Option (Option String)) => Unreconciled world.closed after) :=
    { follows := entry_booked
      start := fun _ _ _ _ held _ _ => held
      finish := fun _ _ _ _ held _ _ => held
      fail := fun _ _ _ _ _ held _ _ => held
      crash := fun _ _ _ _ held _ _ => held
      answer := by
        intro world claims pid claim effect reply after held _ allowed _ _ answered
        rcases World.answer_eq answered with rfl | rfl
        · exact held
        · exact held.apply unequipped allowed
      environment := by
        intro world claims event after held happened
        obtain ⟨_, trades, _⟩ := environment_keeps happened
        refine ⟨?_, by rw [trades]; exact held.unpaid⟩
        rw [← held.closed]
        cases event with
        | publish message =>
            simp only [ExecutionService.system, World.environment] at happened
            split at happened
            · cases happened
            · rw [← Option.some.inj happened]
        | expire key => rw [← Option.some.inj happened]
        | loseGroup => rw [← Option.some.inj happened] }
  have assumed : (booking service).Assumes (fun _ : Pid => none) trace :=
    Discipline.assumes_of_forall (fun _ _ _ _ _ => trivial) fun _ _ _ => trivial
  have held := (maintains.run (Discipline.matches_initial world)
    ⟨rfl, by simp [unused]⟩ assumed ran).2
  exact ⟨held.closed, held.unpaid⟩

end Interleavings

theorem trade_lifecycle_filled : ∃ middle after,
    (Sample.service (some {})).system.run (ServiceConfig.idle {}) ((Sample.filling 0).take 5) =
        some middle ∧
      (Sample.service (some {})).system.run middle ((Sample.filling (0 : ℕ)).drop 5) =
        some after ∧
      middle.world.trades.find? Sample.key = some Sample.row ∧
      ∃ later, after.world.trades.find? Sample.key = some later ∧ Sample.row.Becomes later := by
  have ran : ((Sample.service (some {})).system.run (ServiceConfig.idle {})
      ((Sample.filling (0 : ℕ)).take 5)).map (fun middle =>
        middle.world.trades.find? Sample.key) = some (some Sample.row) := by decide +kernel
  obtain ⟨middle, reached, found⟩ := Option.map_eq_some_iff.mp ran
  have whole : ((Sample.service (some {})).system.run (ServiceConfig.idle {})
      ((Sample.filling (0 : ℕ)).take 5 ++ (Sample.filling 0).drop 5)).isSome := by decide +kernel
  obtain ⟨after, ended⟩ := Option.isSome_iff_exists.mp whole
  obtain ⟨other, same, rest⟩ := (Sample.service (some {})).system.run_append.mp ended
  obtain rfl := Option.some.inj (reached.symm.trans same)
  exact ⟨middle, after, reached, rest, found, trade_lifecycle _ rfl reached rest found⟩

namespace Sample

def soldByHand : List (ServiceLabel ℕ) :=
  filling 0 ++ closing [⟨1700000000, none, some 0⟩] ++
    [.answer 0 (.symbolInfoTick "Volatility 75 Index") (.ok (some ⟨1005, 1006⟩)),
     .answer 0 (.orderSend closeRequest) (.ok (some { retcode := 10009 })),
     .answer 0 .time (.ok 1700000060),
     .answer 0 (.closeByTicket 1700000000 1700000060 0) (.ok 1),
     .finish 0]

end Sample

theorem deployed_never_reconciles_byHand : ∃ after,
    (Sample.service (some {})).system.run (ServiceConfig.idle {}) Sample.soldByHand =
        some after ∧
      after.world.trades.rows.map TradeRow.closedAt = [some 1700000060] ∧
      after.world.closed = [] ∧
      ¬∃ row ∈ after.world.trades.rows, row.closedAt.isSome ∧ row.profit ≠ some 0 := by
  have ran : ((Sample.service (some {})).system.run (ServiceConfig.idle {})
      Sample.soldByHand).map (fun after => after.world.trades.rows.map TradeRow.closedAt) =
        some [some 1700000060] := by decide +kernel
  obtain ⟨after, reached, closed⟩ := Option.map_eq_some_iff.mp ran
  obtain ⟨silent, unpaid⟩ := deployed_never_reconciles (Sample.service (some {})) rfl rfl reached
  refine ⟨after, reached, closed, silent, ?_⟩
  rintro ⟨row, member, isClosed, paid⟩
  exact paid (unpaid row member isClosed)

end Vix75
