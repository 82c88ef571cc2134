import Mathlib.Data.List.TakeDrop
import Vix75.BackfillCore
import Vix75.IngestChecks

/-! Which of the rows that backfills and ingest cycles store are the broker's final bars, while
the newest bar moves and new bars open. -/

namespace Vix75

open EffectProgram

namespace BrokerHistory

variable {F : Type} {history after : BrokerHistory F} {bar other : Bar F} {start count : ℕ}

theorem eq_of_ts (member : bar ∈ history.bars) (here : other ∈ history.bars)
    (same : bar.ts = other.ts) : bar = other :=
  List.inj_on_of_nodup_map (history.ascending.imp ne_of_lt) member here same

theorem closed_subset (history : BrokerHistory F) : history.closed ⊆ history.bars :=
  List.dropLast_subset _

theorem dropLast_copyRatesFromPos (history : BrokerHistory F) (count : ℕ) :
    (history.copyRatesFromPos 0 count).dropLast ⊆ history.closed := by
  rw [copyRatesFromPos, Nat.sub_zero, List.take_length, List.dropLast_drop_eq_drop_dropLast]
  exact List.drop_subset _ _

theorem closedPart_subset (history : BrokerHistory F) (start count : ℕ) :
    closedPart start (history.copyRatesFromPos start count) ⊆ history.closed := by
  unfold closedPart
  split
  · rename_i zero
    subst zero
    exact history.dropLast_copyRatesFromPos count
  · rename_i later
    intro bar member
    rw [closed, List.dropLast_eq_take]
    have earlier := List.mem_of_mem_drop member
    have fewer : history.bars.length - start ≤ history.bars.length - 1 := by omega
    exact (List.take_sublist_take_left fewer).subset earlier

theorem tick_eq_some (moved : history.tick bar = some after) :
    after.bars = history.bars.dropLast ++ [bar] ∧
      ∃ forming, history.bars.getLast? = some forming ∧ forming.ts = bar.ts := by
  unfold tick at moved
  split at moved
  · rename_i newest
    obtain rfl := Option.some.inj moved
    exact ⟨rfl, Option.map_eq_some_iff.mp newest⟩
  · cases moved

theorem closed_tick (moved : history.tick bar = some after) : after.closed = history.closed := by
  rw [closed, (tick_eq_some moved).1, List.dropLast_concat, closed]

theorem mem_tick (moved : history.tick bar = some after) (member : other ∈ history.bars) :
    other ∈ after.bars ∨ other.ts = bar.ts := by
  obtain ⟨bars, forming, last, same⟩ := tick_eq_some moved
  rw [← List.dropLast_append_getLast? forming last, List.mem_append, List.mem_singleton] at member
  rw [bars, List.mem_append]
  rcases member with old | rfl
  · exact .inl (.inl old)
  · exact .inr same

theorem tick_mem (moved : history.tick bar = some after) : bar ∈ after.bars := by
  rw [(tick_eq_some moved).1]
  exact List.mem_append_right _ (List.mem_singleton_self bar)

theorem opens_eq_some (opened : history.opens bar = some after) :
    after.bars = history.bars ++ [bar] := by
  unfold opens at opened
  split at opened
  · obtain rfl := Option.some.inj opened
    rfl
  · cases opened

theorem closed_opens (opened : history.opens bar = some after) : after.closed = history.bars := by
  rw [closed, opens_eq_some opened, List.dropLast_concat]

end BrokerHistory

theorem mem_parts {F : Type} (start : ℕ) {rates : List (Bar F)} {bar : Bar F}
    (member : bar ∈ rates) : bar ∈ closedPart start rates ∨ formingPart start rates = some bar := by
  unfold closedPart formingPart
  split
  · cases last : rates.getLast? with
    | none => simp [List.getLast?_eq_none_iff.mp last] at member
    | some newest =>
        rw [← List.dropLast_append_getLast? newest last, List.mem_append,
          List.mem_singleton] at member
        exact member.imp id fun same => congrArg some same.symm
  · exact .inl member

namespace Data

variable {F : Type}

structure Holding (F : Type) where
  backfills : Bool
  closed : List (OhlcvRow F) := []
  forming : Option (OhlcvRow F) := none

def Holding.read (holding : Holding F) (symbol timeframe : String) (start : ℕ)
    (rates : List (Bar F)) : Holding F where
  backfills := holding.backfills
  closed := (closedPart start rates).map (OhlcvRow.mk symbol timeframe)
  forming := (formingPart start rates).map (OhlcvRow.mk symbol timeframe)

/-- Only a backfill writes a bar that was still forming when it was read. -/
def reading : Discipline (DataEffect F) DataEffect.Reply PyError DataRequest (Holding F) where
  initial := fun request => { backfills := request.backfills }
  allowed := fun holding effect => match effect with
    | .insertBar row => row ∈ holding.closed ∨
        holding.backfills = true ∧ holding.forming = some row
    | _ => True
  advance := fun holding effect reply => match effect, reply with
    | .copyRatesFromPos symbol timeframe start _, .ok (some rates) =>
        holding.read symbol timeframe start rates
    | _, _ => holding

def polling : Discipline (IngestEffect F) IngestEffect.Reply PyError Unit (List (OhlcvRow F)) where
  initial := fun _ => []
  allowed := fun rows effect => match effect with
    | .upsertBars symbol timeframe bars => ∀ bar ∈ bars, ⟨symbol, timeframe, bar⟩ ∈ rows
    | _ => True
  advance := fun rows effect reply => match effect, reply with
    | .copyBars symbol timeframe _, .ok bars => bars.map (OhlcvRow.mk symbol timeframe)
    | .copyBars _ _ _, .error _ => []
    | _, _ => rows

theorem polling_inert {rows : List (OhlcvRow F)} (effect : IngestEffect F)
    (silent : ¬Ingest.Stores effect) : polling.allowed rows effect ∧
      ∀ reply, polling.assumed rows effect reply → polling.advance rows effect reply = rows := by
  cases effect with
  | copyBars symbol timeframe count => exact absurd trivial silent
  | upsertBars symbol timeframe bars => exact absurd trivial silent
  | _ => exact ⟨trivial, fun _ _ => rfl⟩

theorem polling_of_uses {α : Type} {rows : List (OhlcvRow F)} {program : Ingest.Program F α}
    (used : program.Uses fun effect => ¬Ingest.Stores effect) :
    polling.wp rows program (fun after _ => after = rows) (fun _ _ => True) :=
  Discipline.wp_mono (Discipline.wp_of_uses used polling_inert) (fun _ _ same => same)
    fun _ _ _ => trivial

theorem filterNew_polling {rows : List (OhlcvRow F)} (timeframe : String) (bars : List (Bar F)) :
    polling.wp rows (Ingest.filterNew timeframe bars)
      (fun after fresh => after = rows ∧ fresh ⊆ bars) (fun _ _ => True) := by
  unfold Ingest.filterNew
  split
  · exact ⟨rfl, List.nil_subset _⟩
  · refine Discipline.wp_perform_bind trivial (fun _ _ => trivial) fun state _ => ?_
    refine Discipline.wp_perform_bind trivial (fun _ _ => trivial) fun _ _ => ?_
    split
    · exact ⟨rfl, List.Subset.refl _⟩
    · exact ⟨rfl, List.filter_subset_self bars⟩

theorem pollTimeframe_polling {rows : List (OhlcvRow F)} (ingestor : Ingest.Ingestor)
    (symbol timeframe : String) : polling.wp rows (ingestor.pollTimeframe symbol timeframe)
      (fun _ _ => True) (fun _ _ => True) := by
  unfold Ingest.Ingestor.pollTimeframe
  refine Discipline.wp_perform_bind trivial (fun _ _ => trivial) fun bars _ => ?_
  refine Discipline.wp_seq _ (filterNew_polling timeframe bars) ?_
  rintro after fresh ⟨rfl, known⟩
  split
  · trivial
  · refine Discipline.wp_perform_bind (fun bar member => ?_) (fun _ _ => trivial) fun _ _ => ?_
    · exact List.mem_map_of_mem (known member)
    · refine Discipline.wp_mono (polling_of_uses (Prog.uses_bind (Ingest.tally_uses _) fun _ =>
        Ingest.publish_uses symbol timeframe fresh)) (fun _ _ _ => trivial) fun _ _ _ => trivial

theorem cycle_polling {rows : List (OhlcvRow F)} (ingestor : Ingest.Ingestor)
    (symbol : Option String) : polling.wp rows (ingestor.cycle symbol : Ingest.Program F Unit)
      (fun _ _ => True) (fun _ _ => True) := by
  have polled (rows : List (OhlcvRow F)) (named : String) : polling.wp rows (do
      Prog.forEach ingestor.timeframes (ingestor.pollTimeframe named)
      Ingest.tally fun stats => { stats with cycles := stats.cycles + 1 } : Ingest.Program F Unit)
      (fun _ _ => True) (fun _ _ => True) := by
    refine Discipline.wp_seq (fun _ _ => True) ?_ fun after _ _ => ?_
    · exact Discipline.wp_forEach (fun _ _ => True) trivial fun timeframe _ current _ =>
        pollTimeframe_polling ingestor named timeframe
    · exact Discipline.wp_mono (polling_of_uses (Ingest.tally_uses _)) (fun _ _ _ => trivial)
        fun _ _ _ => trivial
  refine Discipline.wp_perform_bind trivial (fun _ _ => trivial) fun connected _ => ?_
  cases connected with
  | true => exact polled _ _
  | false =>
      exact Discipline.wp_perform_bind trivial (fun _ _ => trivial) fun _ _ => polled _ _

theorem upsertBars_reading {holding : Holding F} {symbol timeframe : String}
    {bars : List (Bar F)}
    (each : ∀ bar ∈ bars, reading.allowed holding (.insertBar ⟨symbol, timeframe, bar⟩)) :
    reading.wp holding (upsertBars symbol timeframe bars) (fun after _ => after = holding)
      (fun after _ => after = holding) := by
  refine Discipline.wp_seq (fun after _ => after = holding) ?_ fun after _ same => same
  refine Discipline.wp_mono (Discipline.wp_forEach
    (fun rest after => after = holding ∧ rest ⊆ bars) ⟨rfl, List.Subset.refl _⟩ ?_)
    (fun _ _ held => held.1) fun _ _ held => held
  rintro bar rest _ ⟨rfl, known⟩
  refine Discipline.wp_perform.mpr ⟨each bar (known List.mem_cons_self), fun _ _ => ?_,
    fun _ _ => rfl⟩
  exact ⟨rfl, fun other member => known (List.mem_cons_of_mem _ member)⟩

theorem copyBars_reading {holding : Holding F} (symbol timeframe : String) (count : ℕ) :
    reading.wp holding (copyBars symbol timeframe count)
      (fun after bars => bars.map (OhlcvRow.mk symbol timeframe) ⊆ after.closed)
      (fun _ _ => True) := by
  unfold copyBars
  split
  · trivial
  · refine Discipline.wp_perform_bind trivial (fun _ _ => trivial) fun page _ => ?_
    match page with
    | none => trivial
    | some [] => trivial
    | some (oldest :: later) => exact List.Subset.refl _

theorem interpret_reading {rows : List (OhlcvRow F)} {holding : Holding F} (state : IngestState)
    (effect : IngestEffect F) (known : rows ⊆ holding.closed)
    (allowed : polling.allowed rows effect) :
    reading.wp holding (interpret state effect) (fun after outcome =>
      polling.assumed rows effect outcome.1 ∧
        polling.advance rows effect outcome.1 ⊆ after.closed) (fun _ _ => False) := by
  cases effect with
  | self => exact ⟨trivial, known⟩
  | assign assigned => exact ⟨trivial, known⟩
  | copyBars symbol timeframe count =>
      refine Discipline.wp_bind.mpr (Discipline.wp_attempt.mpr ?_)
      exact Discipline.wp_mono (copyBars_reading symbol timeframe count)
        (fun after bars closed => ⟨trivial, closed⟩) fun after error _ =>
          ⟨trivial, List.nil_subset _⟩
  | upsertBars symbol timeframe bars =>
      refine Discipline.wp_bind.mpr (Discipline.wp_attempt.mpr ?_)
      have each (bar : Bar F) (member : bar ∈ bars) :
          reading.allowed holding (.insertBar ⟨symbol, timeframe, bar⟩) :=
        .inl (known (allowed bar member))
      refine Discipline.wp_mono (upsertBars_reading each) ?_ ?_ <;>
      · rintro _ _ rfl
        exact ⟨trivial, known⟩
  | _ =>
      refine Discipline.wp_bind.mpr (Discipline.wp_attempt.mpr (Discipline.wp_perform.mpr ?_))
      exact ⟨trivial, fun _ _ => ⟨trivial, known⟩, fun _ _ => ⟨trivial, known⟩⟩

theorem iterPages_reading {holding : Holding F} (backfills : holding.backfills = true)
    (symbol timeframe : String) (chunkSize : ℕ) (cutoff : Timestamp) (fuel startPos total : ℕ) :
    reading.wp holding (iterPages (fun total rates => upsertBars symbol timeframe rates >>=
        fun written => .done (total + written)) symbol timeframe chunkSize cutoff fuel startPos
      total) (fun _ _ => True) (fun _ _ => True) := by
  induction fuel generalizing holding startPos total with
  | zero => trivial
  | succ fuel ih =>
      refine Discipline.wp_perform_bind trivial (fun _ _ => trivial) fun page _ => ?_
      match page with
      | none => trivial
      | some [] => trivial
      | some (oldest :: later) =>
          let page := holding.read symbol timeframe startPos (oldest :: later)
          have each (bar : Bar F) (member : bar ∈ oldest :: later) :
              reading.allowed page (.insertBar ⟨symbol, timeframe, bar⟩) := by
            rcases mem_parts startPos member with closed | forming
            · exact .inl (List.mem_map_of_mem closed)
            · exact .inr ⟨backfills, by simp only [page, Holding.read, forming, Option.map_some]⟩
          refine Discipline.wp_seq (fun after _ => after = page) (Discipline.wp_seq _
            (Discipline.wp_mono (upsertBars_reading each) (fun _ _ same => same)
              fun _ _ _ => trivial) fun _ _ same => same) ?_
          rintro _ written rfl
          split
          · trivial
          · exact ih (show page.backfills = true from backfills) _ _

theorem entry_reading (request : DataRequest) : reading.wp (reading.initial request)
    (entry request : Program F Unit) (fun _ _ => True) (fun _ _ => True) := by
  cases request with
  | cycle ingestor state symbol =>
      refine Discipline.wp_bind.mpr (Discipline.wp_mono (Discipline.wp_handle reading
        (fun _ rows holding => rows ⊆ holding.closed) (fun _ _ => False)
        (fun state rows holding effect known allowed =>
          interpret_reading state effect known allowed)
        (List.nil_subset _) (cycle_polling ingestor symbol)) ?_ ?_)
      · exact fun _ _ _ => trivial
      · exact fun _ _ _ => trivial
  | backfill symbol timeframe lookbackDays chunkSize fuel =>
      refine Discipline.wp_bind.mpr ?_
      refine Discipline.wp_seq (fun _ _ => True) ?_ fun after total _ =>
        Discipline.wp_perform_bind trivial (fun _ _ => trivial) fun _ _ => trivial
      unfold iterHistoryChunks
      split
      · trivial
      · refine Discipline.wp_perform_bind trivial (fun _ _ => trivial) fun now _ => ?_
        split
        · trivial
        · exact iterPages_reading rfl symbol timeframe chunkSize _ fuel 0 0

/-! What stays true of the table -/

def History (world : DataWorld F) (row : OhlcvRow F) : BrokerHistory F :=
  world.terminal (row.symbol, row.timeframe)

/-- A row whose bar has closed, and was seen closed, has the bar as it closed. -/
def BarsFinal (world : DataWorld F) : Prop :=
  ∀ row ∈ world.ohlcv.rows, row.key ∈ world.seenClosed →
    ∀ bar ∈ (History world row).closed, bar.ts = row.bar.ts → row.bar = bar

/-- No bar moves between the moment a backfill reads it, still forming, and its close, unless its
timestamp is stored already when the backfill writes it. -/
def Unmoved [DecidableEq F] (world : DataWorld F) (holdings : Pid → Option (Holding F)) :
    DataLabel Pid F → Prop
  | .answer pid (.insertBar row) _ => match holdings pid with
      | some holding => row ∈ holding.closed ∨ row.key ∈ world.ohlcv.rows.map OhlcvRow.key ∨
          row.bar ∈ (History world row).bars
      | none => True
  | .environment (.tick symbol timeframe bar) =>
      ∀ row ∈ world.ohlcv.rows, row.key = (symbol, timeframe, bar.ts) → row.bar = bar
  | _ => True

structure Current (world : DataWorld F) (holdings : Pid → Option (Holding F)) : Prop where
  stored : ∀ row ∈ world.ohlcv.rows, row.bar ∈ (History world row).bars
  held : ∀ pid holding, holdings pid = some holding →
    ∀ row ∈ holding.closed, row.bar ∈ (History world row).closed

section Invariant

variable {Pid : Type} {world : DataWorld F} {holdings : Pid → Option (Holding F)}

theorem history_turn_of_ne {row : OhlcvRow F} {key : String × String} {history : BrokerHistory F}
    (other : (row.symbol, row.timeframe) ≠ key) :
    History (world.turn key history) row = History world row :=
  Function.update_of_ne other _ _

theorem history_turn {row : OhlcvRow F} {key : String × String} {history : BrokerHistory F}
    (here : (row.symbol, row.timeframe) = key) :
    History (world.turn key history) row = history := by
  subst here
  exact Function.update_self _ _ _

theorem Current.insert {row : OhlcvRow F} (current : Current world holdings)
    (sound : row.key ∈ world.ohlcv.rows.map OhlcvRow.key ∨ row.bar ∈ (History world row).bars) :
    Current (world.insert row) holdings := by
  refine ⟨fun other member => ?_, current.held⟩
  rcases KeyedTable.mem_insert member with old | ⟨rfl, absent⟩
  · exact current.stored other old
  · exact sound.resolve_left absent

theorem Current.turn {key : String × String} {history : BrokerHistory F}
    (current : Current world holdings) (closed : (world.terminal key).closed ⊆ history.closed)
    (bars : ∀ row ∈ world.ohlcv.rows, (row.symbol, row.timeframe) = key →
      row.bar ∈ (world.terminal key).bars → row.bar ∈ history.bars) :
    Current (world.turn key history) holdings := by
  refine ⟨fun row member => ?_, fun pid holding here row member => ?_⟩
  · have stored := current.stored row member
    by_cases same : (row.symbol, row.timeframe) = key
    · rw [history_turn same]
      exact bars row member same (by rwa [History, same] at stored)
    · rwa [history_turn_of_ne same]
  · have held := current.held pid holding here row member
    by_cases same : (row.symbol, row.timeframe) = key
    · rw [history_turn same]
      exact closed (by rwa [History, same] at held)
    · rwa [history_turn_of_ne same]

variable [DecidableEq Pid]

theorem Current.update {pid : Pid} {holding : Option (Holding F)}
    (current : Current world holdings) (sound : ∀ held, holding = some held →
      ∀ row ∈ held.closed, row.bar ∈ (History world row).closed) :
    Current world (Function.update holdings pid holding) := by
  refine ⟨current.stored, fun other held here => ?_⟩
  by_cases same : other = pid
  · subst same
    rw [Function.update_self] at here
    exact sound held here
  · rw [Function.update_of_ne same] at here
    exact current.held other held here

theorem Current.hold {pid : Pid} {holding : Holding F} (current : Current world holdings)
    (sound : ∀ row ∈ holding.closed, row.bar ∈ (History world row).closed) :
    Current world (Function.update holdings pid (some holding)) :=
  current.update fun held same => by
    obtain rfl := Option.some.inj same
    exact sound

theorem Current.drop (current : Current world holdings) (pid : Pid) :
    Current world (Function.update holdings pid none) :=
  current.update fun _ none => by cases none

theorem read_current {pid : Pid} {holding : Holding F} {symbol timeframe : String}
    {start count : ℕ} (current : Current world holdings) :
    Current (world.see symbol timeframe
        (closedPart start ((world.terminal (symbol, timeframe)).copyRatesFromPos start count)))
      (Function.update holdings pid (some (holding.read symbol timeframe start
        ((world.terminal (symbol, timeframe)).copyRatesFromPos start count)))) := by
  refine Current.hold ⟨current.stored, current.held⟩ fun row member => ?_
  obtain ⟨bar, inPage, rfl⟩ := List.mem_map.mp member
  exact BrokerHistory.closedPart_subset _ start count inPage

variable [DecidableEq F]

omit [DecidableEq Pid] in
theorem environment_current {event : TerminalEvent F} {after : DataWorld F}
    (current : Current world holdings)
    (unmoved : Unmoved world holdings (.environment event : DataLabel Pid F))
    (happened : world.environment event = some after) : Current after holdings := by
  cases event with
  | tick symbol timeframe bar =>
      obtain ⟨history, moved, rfl⟩ := Option.map_eq_some_iff.mp happened
      refine current.turn (BrokerHistory.closed_tick moved ▸ List.Subset.refl _)
        fun row member here stored => ?_
      rcases BrokerHistory.mem_tick moved stored with kept | same
      · exact kept
      · have key : row.key = (symbol, timeframe, bar.ts) := by
          rw [OhlcvRow.key, same]
          exact congrArg (fun place => (place.1, place.2, bar.ts)) here
        rw [unmoved row member key]
        exact BrokerHistory.tick_mem moved
  | opens symbol timeframe bar =>
      obtain ⟨history, opened, rfl⟩ := Option.map_eq_some_iff.mp happened
      refine current.turn ?_ fun row member here stored => ?_
      · rw [BrokerHistory.closed_opens opened]
        exact BrokerHistory.closed_subset _
      · rw [BrokerHistory.opens_eq_some opened]
        exact List.mem_append_left _ stored

theorem answer_current {pid : Pid} {holding : Holding F} {effect : DataEffect F}
    {reply : Except PyError effect.Reply} {after : DataWorld F}
    (current : Current world holdings) (here : holdings pid = some holding)
    (allowed : reading.allowed holding effect)
    (unmoved : Unmoved world holdings (.answer pid effect reply))
    (answered : world.answer effect reply = some after) :
    Current after
      (Function.update holdings pid (some (reading.advance holding effect reply))) := by
  have kept : Current world (Function.update holdings pid (some holding)) :=
    current.hold (current.held pid holding here)
  cases effect with
  | copyRatesFromPos symbol timeframe start count =>
      match reply with
      | .error error =>
          obtain rfl := Option.some.inj answered
          exact kept
      | .ok none =>
          obtain rfl := Option.some.inj answered
          exact kept
      | .ok (some rates) =>
          simp only [DataWorld.answer] at answered
          split at answered
          · rename_i page
            obtain rfl := Option.some.inj answered
            subst page
            exact read_current current
          · cases answered
  | insertBar row =>
      have sound : row.key ∈ world.ohlcv.rows.map OhlcvRow.key ∨
          row.bar ∈ (History world row).bars := by
        simp only [Unmoved, here] at unmoved
        rcases unmoved with closed | sound
        · exact .inr (BrokerHistory.closed_subset _ (current.held pid holding here row closed))
        · exact sound
      have inserted := kept.insert sound
      match reply with
      | .ok () =>
          obtain rfl := Option.some.inj answered
          exact inserted
      | .error error =>
          obtain rfl := Option.some.inj answered
          split
          · exact inserted
          · exact kept
  | _ =>
      obtain rfl := Option.some.inj answered
      exact kept

theorem moves_current {label : DataLabel Pid F} {after : DataWorld F}
    (current : Current world holdings) (unmoved : Unmoved world holdings label)
    (moved : reading.Moves system world holdings label after) :
    Current after (reading.track holdings label) := by
  cases moved with
  | start pid request idle => exact current.hold fun row member => by cases member
  | answer pid holding effect reply after here allowed answered =>
      have stepped := answer_current current here allowed unmoved answered
      simpa [Discipline.track, here] using stepped
  | finish pid holding here finished => exact current.drop pid
  | fail pid holding error here failed => exact current.drop pid
  | crash pid holding here => exact current.drop pid
  | environment event after happened => exact environment_current current unmoved happened

end Invariant

def idle {Pid : Type} (world : DataWorld F) : DataConfig Pid F := ⟨world, fun _ => none⟩

theorem Current.barsFinal {Pid : Type} {world : DataWorld F}
    {holdings : Pid → Option (Holding F)} (current : Current world holdings) :
    BarsFinal world := fun row member _ _ closed same =>
  BrokerHistory.eq_of_ts (current.stored row member) (BrokerHistory.closed_subset _ closed)
    same.symm

/-- As long as no bar moves under a backfill, every row stays the broker's bar. -/
theorem bars_final {Pid : Type} [DecidableEq Pid] [DecidableEq F] (world : DataWorld F)
    (trace : List (DataLabel Pid F)) (after : DataConfig Pid F) (unstored : world.ohlcv.rows = [])
    (unmoved : reading.Guarded system Unmoved (idle world) (fun _ => none) trace)
    (ran : system.run (idle world) trace = some after) : BarsFinal after.world := by
  have start : Current world (fun _ : Pid => none) :=
    ⟨by simp [unstored], fun _ _ none => by cases none⟩
  exact (Discipline.run_guarded Current entry_reading
    (fun _ _ _ _ current unmoved moved => moves_current current unmoved moved)
    (Discipline.matches_initial world) start
    (Discipline.assumes_of_forall (fun _ _ _ _ _ => trivial) fun _ _ _ => trivial)
    unmoved ran).2.barsFinal

namespace Sample

def bar (minute : ℕ) (close : ℚ) : Bar ℚ where
  ts := 1735689600000000 + minute * 60000000
  open_ := 100
  high := 103
  low := 99
  close := close

def symbol : String := "Volatility 75 Index"

def row (minute : ℕ) (close : ℚ) : OhlcvRow ℚ := ⟨symbol, "M1", bar minute close⟩

def opening : DataWorld ℚ where
  terminal := fun key =>
    if key = (symbol, "M1") then ⟨[bar 0 101, bar 1 100], by decide +kernel⟩ else .empty

def backfill : DataLabel ℕ ℚ := .start 0 (.backfill symbol "M1" 1 10 1)

def page : List (DataLabel ℕ ℚ) :=
  [.answer 0 .now (.ok 1735689700000000),
   .answer 0 (.copyRatesFromPos symbol "M1" 0 10) (.ok (some [bar 0 101, bar 1 100]))]

def write : List (DataLabel ℕ ℚ) :=
  [.answer 0 (.insertBar (row 0 101)) (.ok ()), .answer 0 (.insertBar (row 1 100)) (.ok ())]

def moves : List (DataLabel ℕ ℚ) :=
  [.environment (.tick symbol "M1" (bar 1 102)), .environment (.opens symbol "M1" (bar 2 102))]

def cycle : List (DataLabel ℕ ℚ) :=
  [.start 1 (.cycle { timeframes := ["M1"] } {} none),
   .answer 1 .connected (.ok true),
   .answer 1 (.copyRatesFromPos symbol "M1" 0 301)
     (.ok (some [bar 0 101, bar 1 102, bar 2 102])),
   .answer 1 (.insertBar (row 0 101)) (.ok ()),
   .answer 1 (.insertBar (row 1 102)) (.ok ())]

end Sample

instance {Pid : Type} [DecidableEq F] (world : DataWorld F)
    (holdings : Pid → Option (Holding F)) (label : DataLabel Pid F) :
    Decidable (Unmoved world holdings label) := by
  unfold Unmoved
  split
  · split <;> infer_instance
  · infer_instance
  · infer_instance

theorem bars_final_conflict : ∃ after,
    system.run (idle Sample.opening) (Sample.backfill :: Sample.page ++ Sample.moves ++
      Sample.cycle ++ Sample.write) = some after ∧ after.world.ohlcv.rows.length = 2 ∧
      BarsFinal after.world := by
  let trace := Sample.backfill :: Sample.page ++ Sample.moves ++ Sample.cycle ++ Sample.write
  have counted : (system.run (idle Sample.opening) trace).map
      (fun after => after.world.ohlcv.rows.length) = some 2 := by decide +kernel
  obtain ⟨after, ran, two⟩ := Option.map_eq_some_iff.mp counted
  exact ⟨after, ran, two, bars_final Sample.opening trace after (by decide +kernel)
    (by decide +kernel) ran⟩

/-- A bar that a backfill stores while it forms keeps the values of that moment. -/
theorem bars_not_final : ¬∀ (trace : List (DataLabel ℕ ℚ)) (world : DataWorld ℚ)
    (after : DataConfig ℕ ℚ), world.ohlcv.rows = [] →
      system.run (idle world) trace = some after → BarsFinal after.world := by
  intro final
  let trace := Sample.backfill :: Sample.page ++ Sample.write ++ Sample.moves ++ Sample.cycle
  have reached : (system.run (idle Sample.opening) trace).map (fun after =>
      decide (Sample.row 1 100 ∈ after.world.ohlcv.rows ∧
        (Sample.row 1 100).key ∈ after.world.seenClosed ∧
        Sample.bar 1 102 ∈ (History after.world (Sample.row 1 100)).closed)) = some true := by
    decide +kernel
  obtain ⟨after, ran, shown⟩ := Option.map_eq_some_iff.mp reached
  obtain ⟨stored, seen, closed⟩ := of_decide_eq_true shown
  have same := final trace Sample.opening after (by decide +kernel) ran _ stored seen _ closed rfl
  exact absurd same (by decide +kernel)

end Data

end Vix75
