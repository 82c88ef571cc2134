import Vix75.IngestCore
import Vix75.ProgramRuns

/-! Which closed bars the ingestion worker has stored and announced, over any sequence of polls
and any failures of the table and of the stream. -/

namespace Vix75

open EffectProgram

namespace Ingest

variable {F : Type}

/-- `returned` is what the polls have returned so far and `updates` what was ever added. -/
structure IngestWorld (F : Type) where
  state : IngestState := {}
  ohlcv : KeyedTable (OhlcvRow F) (String × String × Timestamp) OhlcvRow.key := KeyedTable.empty
  updates : List (OhlcvUpdate F) := []
  returned : List (OhlcvRow F) := []

namespace IngestWorld

variable (world : IngestWorld F)

def store (rows : List (OhlcvRow F)) : IngestWorld F :=
  { world with ohlcv := world.ohlcv.insertAll rows }

def add (entries : List (OhlcvUpdate F)) : IngestWorld F :=
  { world with updates := world.updates ++ entries }

def poll (rows : List (OhlcvRow F)) : IngestWorld F :=
  { world with returned := world.returned ++ rows }

def Answers (world : IngestWorld F) : (effect : IngestEffect F) →
    Except PyError effect.Reply → IngestWorld F → Prop
  | .self, reply, after => reply = .ok world.state ∧ after = world
  | .assign state, reply, after => reply = .ok () ∧ after = { world with state := state }
  | .copyBars symbol timeframe _, .ok bars, after =>
      (bars.Pairwise fun earlier later => earlier.ts ≤ later.ts) ∧
        after = world.poll (bars.map (OhlcvRow.mk symbol timeframe))
  | .upsertBars symbol timeframe bars, .ok written, after =>
      written = bars.length ∧ after = world.store (bars.map (OhlcvRow.mk symbol timeframe))
  | .upsertBars symbol timeframe bars, .error _, after =>
      ∃ part : List (Bar F), part.Sublist bars ∧
        after = world.store (part.map (OhlcvRow.mk symbol timeframe))
  | .execute entries, .ok _, after => after = world.add entries
  | .execute entries, .error _, after => ∃ part, part.Sublist entries ∧ after = world.add part
  | .connected, reply, after => (∃ connected, reply = .ok connected) ∧ after = world
  | .uuid4, reply, after => (∃ drawn, reply = .ok drawn) ∧ after = world
  | .sleep _, reply, after => reply = .ok () ∧ after = world
  | _, _, after => after = world

end IngestWorld

def Stored (world : IngestWorld F) (row : OhlcvRow F) : Prop :=
  row.key ∈ world.ohlcv.rows.map OhlcvRow.key

def Announces (update : OhlcvUpdate F) (row : OhlcvRow F) : Prop :=
  update.symbol = row.symbol ∧ update.timeframe = row.timeframe ∧ update.ts = row.bar.ts ∧
    update.close = row.bar.close

def Handled (world : IngestWorld F) (row : OhlcvRow F) : Prop :=
  Stored world row ∧ ∃ update ∈ world.updates, Announces update row

/-- No bar that a poll returned is behind its mark and not handled. -/
def NoBarLost (world : IngestWorld F) : Prop :=
  ∀ row ∈ world.returned, ∀ mark, world.state.lastSeen row.timeframe = some mark →
    row.bar.ts ≤ mark → Handled world row

/-- The windows hold no bar behind the mark but handled ones, and the calls that fail do so after
all. -/
def Reliable (world : IngestWorld F) : (effect : IngestEffect F) →
    Except PyError effect.Reply → IngestWorld F → Prop
  | .copyBars symbol timeframe _, .ok bars, _ => ∀ mark,
      world.state.lastSeen timeframe = some mark → ∀ bar ∈ bars, bar.ts ≤ mark →
        Handled world ⟨symbol, timeframe, bar⟩
  | .upsertBars symbol timeframe bars, .error _, after =>
      ∀ bar ∈ bars, Handled after ⟨symbol, timeframe, bar⟩
  | .execute entries, .error _, after => ∀ entry ∈ entries, ∀ row,
      Announces entry row → ∃ update ∈ after.updates, Announces update row
  | _, _, _ => True

def ReliablyAnswers (world : IngestWorld F) (effect : IngestEffect F)
    (reply : Except PyError effect.Reply) (after : IngestWorld F) : Prop :=
  world.Answers effect reply after ∧ Reliable world effect reply after

def AllHandled (world : IngestWorld F) : Prop := ∀ row ∈ world.returned, Handled world row

theorem AllHandled.noBarLost {world : IngestWorld F} (all : AllHandled world) : NoBarLost world :=
  fun row returned _ _ _ => all row returned

structure Grows (world after : IngestWorld F) : Prop where
  returned : after.returned = world.returned
  stored : ∀ row, Stored world row → Stored after row
  updates : world.updates ⊆ after.updates

section Grows

variable {world middle after : IngestWorld F}

theorem Grows.refl (world : IngestWorld F) : Grows world world := ⟨rfl, fun _ => id, fun _ => id⟩

theorem Grows.trans (first : Grows world middle) (second : Grows middle after) :
    Grows world after :=
  ⟨second.returned.trans first.returned, fun row => second.stored row ∘ first.stored row,
    List.Subset.trans first.updates second.updates⟩

theorem Grows.handled {row : OhlcvRow F} (grown : Grows world after)
    (handled : Handled world row) : Handled after row := by
  obtain ⟨stored, update, member, announces⟩ := handled
  exact ⟨grown.stored row stored, update, grown.updates member, announces⟩

theorem Grows.allHandled (grown : Grows world after) (all : AllHandled world) :
    AllHandled after := by
  intro row member
  rw [grown.returned] at member
  exact grown.handled (all row member)

theorem Grows.store (world : IngestWorld F) (rows : List (OhlcvRow F)) :
    Grows world (world.store rows) :=
  ⟨rfl, fun _ stored => KeyedTable.mem_keys_insertAll.mpr (.inl stored), fun _ => id⟩

theorem Grows.add (world : IngestWorld F) (entries : List (OhlcvUpdate F)) :
    Grows world (world.add entries) :=
  ⟨rfl, fun _ => id, List.subset_append_left _ _⟩

def Polls : IngestEffect F → Prop
  | .copyBars _ _ _ => True
  | _ => False

def Stores : IngestEffect F → Prop
  | .copyBars _ _ _ => True
  | .upsertBars _ _ _ => True
  | _ => False

theorem answers_grow {effect : IngestEffect F} {reply : Except PyError effect.Reply}
    (silent : ¬Polls effect) (answered : world.Answers effect reply after) : Grows world after := by
  cases effect with
  | self => exact answered.2 ▸ .refl world
  | assign state => exact answered.2 ▸ ⟨rfl, fun _ => id, fun _ => id⟩
  | copyBars symbol timeframe count => exact absurd trivial silent
  | upsertBars symbol timeframe bars =>
      cases reply with
      | ok written => exact answered.2 ▸ .store world _
      | error error =>
          obtain ⟨part, _, rfl⟩ := answered
          exact .store world _
  | execute entries =>
      cases reply with
      | ok value => exact (answered : after = _) ▸ .add world entries
      | error error =>
          obtain ⟨part, _, rfl⟩ := answered
          exact .add world part
  | connected => exact answered.2 ▸ .refl world
  | uuid4 => exact answered.2 ▸ .refl world
  | sleep seconds => exact answered.2 ▸ .refl world
  | _ => cases reply <;> exact (answered : after = world) ▸ .refl world

/-! What the programs of a cycle do -/

theorem silent_runs {α : Type} {program : Program F α} {result : Except PyError α}
    (used : program.Uses fun effect => ¬Polls effect)
    (ran : program.Runs ReliablyAnswers world result after) : Grows world after :=
  ran.invariant (Grows world) used
    (fun _ silent _ _ _ grown answered => grown.trans (answers_grow silent answered.1))
    (.refl world)

theorem Uses.silent {α : Type} {program : Program F α}
    (used : program.Uses fun effect => ¬Stores effect) : program.Uses fun effect => ¬Polls effect :=
  used.mono fun effect stores polls => by
    cases effect <;> first | exact stores trivial | exact polls

theorem tally_uses (change : IngestStats → IngestStats) :
    (tally change : Program F Unit).Uses fun effect => ¬Stores effect :=
  Prog.uses_bind (Prog.uses_perform id) fun _ => Prog.uses_perform id

theorem tally_runs {change : IngestStats → IngestStats} {result : Except PyError Unit}
    (ran : (tally change).Runs ReliablyAnswers world result after) : result = .ok () := by
  rcases Prog.runs_perform_bind.mp ran with ⟨state, _, _, assigned⟩ | ⟨_, read, _⟩
  · exact (Prog.runs_perform.mp assigned).1.1
  · cases read.1.1

theorem entriesOf_uses (symbol timeframe : String) (bars : List (Bar F)) :
    (entriesOf symbol timeframe bars).Uses fun effect => ¬Stores effect := by
  induction bars with
  | nil => trivial
  | cons bar rest ih =>
      exact Prog.uses_bind (Prog.uses_perform id) fun _ => Prog.uses_bind ih fun _ => trivial

theorem publish_uses (symbol timeframe : String) (bars : List (Bar F)) :
    (publish symbol timeframe bars).Uses fun effect => ¬Stores effect :=
  Prog.uses_bind (entriesOf_uses symbol timeframe bars) fun _ =>
    Prog.uses_bind (Prog.uses_perform id) fun _ => tally_uses _

theorem filterNew_uses (timeframe : String) (bars : List (Bar F)) :
    (filterNew timeframe bars).Uses fun effect => ¬Polls effect := by
  unfold filterNew
  split
  · trivial
  · refine Prog.uses_bind (Prog.uses_perform id) fun state => ?_
    refine Prog.uses_bind (Prog.uses_perform id) fun _ => ?_
    split <;> trivial

theorem filterNew_runs {timeframe : String} {bars : List (Bar F)}
    {result : Except PyError (List (Bar F))}
    (ran : (filterNew timeframe bars).Runs ReliablyAnswers world result after) :
    ∃ fresh, result = .ok fresh ∧ ∀ bar ∈ bars, bar ∈ fresh ∨
      ∃ mark, world.state.lastSeen timeframe = some mark ∧ bar.ts ≤ mark := by
  unfold filterNew at ran
  split at ran
  · rename_i none
    obtain rfl := List.getLast?_eq_none_iff.mp none
    exact ⟨[], ran.1, by simp⟩
  · rcases Prog.runs_perform_bind.mp ran with ⟨state, _, read, rest⟩ | ⟨_, read, _⟩
    rotate_left
    · cases read.1.1
    obtain ⟨⟨same, rfl⟩, _⟩ := read
    obtain rfl := Except.ok.inj same
    rcases Prog.runs_perform_bind.mp rest with ⟨_, _, _, ended⟩ | ⟨_, written, _⟩
    rotate_left
    · cases written.1.1
    split at ended
    · exact ⟨bars, ended.1, fun bar member => .inl member⟩
    · rename_i previous marked
      refine ⟨_, ended.1, fun bar member => ?_⟩
      rcases le_or_gt bar.ts previous with behind | newer
      · exact .inr ⟨previous, marked, behind⟩
      · exact .inl (List.mem_filter.mpr ⟨member, by simpa using newer⟩)

theorem entriesOf_runs {symbol timeframe : String} {bars : List (Bar F)}
    {result : Except PyError (List (OhlcvUpdate F))}
    (ran : (entriesOf symbol timeframe bars).Runs ReliablyAnswers world result after) :
    ∃ entries, result = .ok entries ∧
      ∀ bar ∈ bars, ∃ entry ∈ entries, Announces entry ⟨symbol, timeframe, bar⟩ := by
  induction bars generalizing world after result with
  | nil => exact ⟨[], ran.1, by simp⟩
  | cons bar rest ih =>
      rcases Prog.runs_perform_bind.mp ran with ⟨correlationId, _, _, fromRest⟩ | ⟨_, drawn, _⟩
      rotate_left
      · obtain ⟨⟨⟨_, same⟩, _⟩, _⟩ := drawn
        cases same
      obtain ⟨later, _, announced, _, ended⟩ := fromRest.bind_returns ih
      refine ⟨_, ended.1, fun other member => ?_⟩
      rcases List.mem_cons.mp member with rfl | member
      · exact ⟨_, List.mem_cons_self, rfl, rfl, rfl, rfl⟩
      · obtain ⟨entry, here, announces⟩ := announced other member
        exact ⟨entry, List.mem_cons_of_mem _ here, announces⟩

theorem publish_announces {symbol timeframe : String} {bars : List (Bar F)}
    {result : Except PyError Unit}
    (ran : (publish symbol timeframe bars).Runs ReliablyAnswers world result after) :
    ∀ bar ∈ bars, ∃ update ∈ after.updates, Announces update ⟨symbol, timeframe, bar⟩ := by
  unfold publish at ran
  obtain ⟨entries, _, announced, _, fromExecute⟩ := ran.bind_returns entriesOf_runs
  intro bar member
  obtain ⟨entry, here, announces⟩ := announced bar member
  rcases Prog.runs_perform_bind.mp fromExecute with ⟨_, added, executed, tallied⟩ | ⟨_, failed, _⟩
  · have grown := silent_runs (Uses.silent (tally_uses _)) tallied
    have entered : added = IngestWorld.add _ entries := executed.1
    refine ⟨entry, grown.updates ?_, announces⟩
    rw [entered]
    exact List.mem_append_right _ here
  · exact failed.2 entry here _ announces

theorem forward_uses (symbol timeframe : String) (bars : List (Bar F)) :
    (forward symbol timeframe bars).Uses fun effect => ¬Polls effect := by
  unfold forward
  refine Prog.uses_bind (filterNew_uses timeframe bars) fun fresh => ?_
  split
  · trivial
  · exact Prog.uses_bind (Prog.uses_perform id) fun _ =>
      Uses.silent (Prog.uses_bind (tally_uses _) fun _ => publish_uses symbol timeframe _)

theorem forward_handles {symbol timeframe : String} {bars : List (Bar F)}
    {result : Except PyError Unit}
    (ran : (forward symbol timeframe bars).Runs ReliablyAnswers world result after)
    (behind : ∀ mark, world.state.lastSeen timeframe = some mark → ∀ bar ∈ bars, bar.ts ≤ mark →
      Handled world ⟨symbol, timeframe, bar⟩) :
    ∀ bar ∈ bars, Handled after ⟨symbol, timeframe, bar⟩ := by
  have grown := silent_runs (forward_uses symbol timeframe bars) ran
  unfold forward at ran
  obtain ⟨fresh, marked, covered, _, rest⟩ := ran.bind_returns filterNew_runs
  intro bar member
  rcases covered bar member with new | ⟨mark, known, old⟩
  rotate_left
  · exact grown.handled (behind mark known bar member old)
  rw [if_neg (by simpa using List.ne_nil_of_mem new)] at rest
  rcases Prog.runs_perform_bind.mp rest with ⟨written, _, upserted, fromTally⟩ | ⟨_, failed, _⟩
  rotate_left
  · exact failed.2 bar new
  obtain ⟨⟨_, rfl⟩, _⟩ := upserted
  have afterwards := silent_runs (Uses.silent (Prog.uses_bind (tally_uses _) fun _ =>
    publish_uses symbol timeframe fresh)) fromTally
  have stored : Stored after ⟨symbol, timeframe, bar⟩ := by
    refine afterwards.stored _ (KeyedTable.mem_keys_insertAll.mpr (.inr ?_))
    exact List.mem_map_of_mem (List.mem_map_of_mem new)
  rcases Prog.runs_bind.mp fromTally with ⟨_, _, _, published⟩ | ⟨_, failed, _⟩
  · exact ⟨stored, publish_announces published bar new⟩
  · cases tally_runs failed

theorem pollTimeframe_keeps (ingestor : Ingestor) (symbol timeframe : String) :
    Prog.Keeps ReliablyAnswers AllHandled
      (ingestor.pollTimeframe symbol timeframe : Program F Unit) := by
  intro world result after all ran
  unfold Ingestor.pollTimeframe at ran
  rcases Prog.runs_perform_bind.mp ran with ⟨bars, polled, copied, forwarded⟩ | ⟨_, failed, _⟩
  rotate_left
  · exact (show after = world from failed.1) ▸ all
  obtain ⟨⟨_, rfl⟩, reliable⟩ := copied
  have grown := silent_runs (forward_uses symbol timeframe bars) forwarded
  intro row member
  rw [grown.returned] at member
  rcases List.mem_append.mp member with old | new
  · exact grown.handled (all row old)
  · obtain ⟨bar, inWindow, rfl⟩ := List.mem_map.mp new
    exact forward_handles forwarded reliable bar inWindow

theorem silent_keeps {α : Type} {program : Program F α}
    (used : program.Uses fun effect => ¬Polls effect) :
    Prog.Keeps ReliablyAnswers AllHandled program :=
  Prog.keeps_of_uses used fun _ silent _ _ _ all answered =>
    (answers_grow silent answered.1).allHandled all

theorem cycle_keeps (ingestor : Ingestor) (symbol : Option String) :
    Prog.Keeps ReliablyAnswers AllHandled (ingestor.cycle symbol : Program F Unit) := by
  refine Prog.keeps_bind (silent_keeps (Prog.uses_perform id)) fun connected => ?_
  have polled (named : String) : Prog.Keeps ReliablyAnswers AllHandled (do
      Prog.forEach ingestor.timeframes (ingestor.pollTimeframe named)
      tally fun stats => { stats with cycles := stats.cycles + 1 } : Program F Unit) :=
    Prog.keeps_bind (Prog.keeps_forEach fun timeframe => pollTimeframe_keeps ingestor _ timeframe)
      fun _ => silent_keeps (Uses.silent (tally_uses _))
  cases connected with
  | true => exact Prog.keeps_bind (Prog.keeps_done ()) fun _ => polled _
  | false => exact Prog.keeps_bind (silent_keeps (Prog.uses_perform id)) fun _ => polled _

theorem turn_keeps (ingestor : Ingestor) :
    Prog.Keeps ReliablyAnswers AllHandled (ingestor.turn : Program F Unit) := by
  refine Prog.keeps_bind ?_ fun failure => ?_
  · exact Prog.keeps_rescue (Prog.keeps_bind (cycle_keeps ingestor _) fun _ => Prog.keeps_done _)
      fun _ => Prog.keeps_done _
  · have slept (seconds : ℚ) : Prog.Keeps ReliablyAnswers AllHandled
        (await (.sleep seconds) : Program F Unit) := silent_keeps (Prog.uses_perform id)
    split
    · exact slept _
    · exact Prog.keeps_bind (silent_keeps (Uses.silent (tally_uses _))) fun _ => slept 30
    · exact Prog.keeps_bind (silent_keeps (Uses.silent (tally_uses _))) fun _ => slept _

/-- As long as the table and the stream take what they are given and no bar first shows up behind
its mark, no bar is lost. -/
theorem no_bar_lost (ingestor : Ingestor) (start after : IngestWorld F)
    (unpolled : start.returned = [])
    (ran : Prog.Repeats ReliablyAnswers ingestor.turn start after) : NoBarLost after := by
  have handled : AllHandled start := by
    intro row member
    simp [unpolled] at member
  exact (ran.invariant (turn_keeps ingestor) handled).noBarLost

end Grows

namespace Sample

def bar : Bar ℚ where
  ts := 1735689600000000
  open_ := 100
  high := 101
  low := 99
  close := 100

def ingestor : Ingestor := { timeframes := ["M5"] }

def window (world : IngestWorld ℚ) (timeframe : String) : List (Bar ℚ) :=
  if world.state.lastSeen timeframe = none then [bar] else []

def respond (refuses : Bool) (world : IngestWorld ℚ) :
    (effect : IngestEffect ℚ) → Except PyError effect.Reply × IngestWorld ℚ
  | .self => (.ok world.state, world)
  | .assign state => (.ok (), { world with state := state })
  | .connected => (.ok true, world)
  | .connect => (.ok (), world)
  | .copyBars symbol timeframe _ => (.ok (window world timeframe),
      world.poll ((window world timeframe).map (OhlcvRow.mk symbol timeframe)))
  | .upsertBars symbol timeframe bars =>
      if refuses then (.error (.psycopgError false), world)
      else (.ok bars.length, world.store (bars.map (OhlcvRow.mk symbol timeframe)))
  | .uuid4 => (.ok "c-1", world)
  | .execute entries => (.ok (), world.add entries)
  | .sleep _ => (.ok (), world)

def turned (refuses : Bool) : Except PyError Unit × IngestWorld ℚ :=
  Prog.eval (respond refuses) {} ingestor.turn

theorem respond_answers (refuses : Bool) (world : IngestWorld ℚ) (effect : IngestEffect ℚ) :
    world.Answers effect (respond refuses world effect).1 (respond refuses world effect).2 := by
  cases effect with
  | upsertBars symbol timeframe bars =>
      cases refuses with
      | true => exact ⟨[], List.nil_sublist _, rfl⟩
      | false => exact ⟨rfl, rfl⟩
  | copyBars symbol timeframe count =>
      refine ⟨?_, rfl⟩
      unfold window
      split <;> simp
  | connected => exact ⟨⟨true, rfl⟩, rfl⟩
  | uuid4 => exact ⟨⟨_, rfl⟩, rfl⟩
  | connect => rfl
  | execute entries => rfl
  | _ => exact ⟨rfl, rfl⟩

theorem respond_reliable (world : IngestWorld ℚ) (effect : IngestEffect ℚ) :
    Reliable world effect (respond false world effect).1 (respond false world effect).2 := by
  cases effect with
  | copyBars symbol timeframe count =>
      intro mark known inWindow member
      simp [window, known] at member
  | _ => trivial

theorem turned_runs (refuses : Bool) : ingestor.turn.Runs IngestWorld.Answers {}
    (turned refuses).1 (turned refuses).2 :=
  Prog.runs_eval (fun _ => True) (Prog.uses_of_forall (fun _ => trivial) _) trivial
    fun effect _ world _ => ⟨respond_answers refuses world effect, trivial⟩

end Sample

theorem no_bar_lost_stored :
    (Sample.turned false).2.returned ≠ [] ∧ NoBarLost (Sample.turned false).2 := by
  have ran : Sample.ingestor.turn.Runs ReliablyAnswers {} (Sample.turned false).1
      (Sample.turned false).2 :=
    Prog.runs_eval (fun _ => True) (Prog.uses_of_forall (fun _ => trivial) _) trivial
      fun effect _ world _ => ⟨⟨Sample.respond_answers false world effect,
        Sample.respond_reliable world effect⟩, trivial⟩
  refine ⟨by decide +kernel, ?_⟩
  exact no_bar_lost Sample.ingestor {} _ rfl (.more .none ran)

/-- A bar that the table refuses once is behind its mark from then on. -/
theorem bar_lost : ¬∀ (ingestor : Ingestor) (start after : IngestWorld ℚ), start.returned = [] →
    Prog.Repeats IngestWorld.Answers ingestor.turn start after → NoBarLost after := by
  intro kept
  have handled := kept Sample.ingestor {} (Sample.turned true).2 rfl
    (.more .none (Sample.turned_runs true))
  have row := handled ⟨"Volatility 75 Index", "M5", Sample.bar⟩ (by decide +kernel)
    1735689600000000 (by decide +kernel) le_rfl
  exact absurd row.1 (by unfold Stored; decide +kernel)

end Ingest

end Vix75
