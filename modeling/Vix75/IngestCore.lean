import Vix75.EffectProgram
import Vix75.KeyedTable
import Vix75.Schemas

/-! data-service: the ingestion worker, as a program over what it awaits and over its own
attributes. -/

namespace Vix75

open EffectProgram

structure IngestStats where
  cycles : ℕ := 0
  barsWritten : ℕ := 0
  eventsPublished : ℕ := 0
  lastBarTs : Option Timestamp := none
  errors : ℕ := 0

/-- The attributes that a cycle changes. The marks are ISO texts in the code; those of UTC
instants compare as the instants do. -/
structure IngestState where
  stats : IngestStats := {}
  lastSeen : String → Option Timestamp := fun _ => none

structure OhlcvRow (F : Type) where
  symbol : String
  timeframe : String
  bar : Bar F
deriving DecidableEq

def OhlcvRow.key {F : Type} (row : OhlcvRow F) : String × String × Timestamp :=
  (row.symbol, row.timeframe, row.bar.ts)

structure OhlcvUpdate (F : Type) where
  symbol : String
  timeframe : String
  ts : Timestamp
  close : F
  correlationId : String
deriving DecidableEq

/-- `self` and `assign` read and write the attributes; `execute` runs a pipeline of XADDs. -/
inductive IngestEffect (F : Type) where
  | self
  | assign (state : IngestState)
  | connected
  | connect
  | copyBars (symbol timeframe : String) (count : ℕ)
  | upsertBars (symbol timeframe : String) (bars : List (Bar F))
  | uuid4
  | execute (entries : List (OhlcvUpdate F))
  | sleep (seconds : ℚ)

@[reducible] def IngestEffect.Reply {F : Type} : IngestEffect F → Type
  | .self => IngestState
  | .connected => Bool
  | .copyBars _ _ _ => List (Bar F)
  | .upsertBars _ _ _ => ℕ
  | .uuid4 => String
  | _ => Unit

namespace Ingest

abbrev Program (F α : Type) := Prog (IngestEffect F) IngestEffect.Reply PyError α

abbrev await {F : Type} (effect : IngestEffect F) : Program F effect.Reply := Prog.perform effect

def ingestTimeframes : List String := ["M1", "M5", "M15", "H1"]

structure Ingestor where
  settings : Settings := {}
  timeframes : List String := ingestTimeframes
  historyBars : ℕ := 300
  pollIntervalSeconds : ℚ := 5

section Ingestor

variable {F : Type}

def tally (change : IngestStats → IngestStats) : Program F Unit := do
  let state ← await .self
  await (.assign { state with stats := change state.stats })

def filterNew (timeframe : String) (bars : List (Bar F)) : Program F (List (Bar F)) :=
  match bars.getLast? with
  | none => .done []
  | some last => do
      let state ← await .self
      await (.assign { state with
        lastSeen := Function.update state.lastSeen timeframe (some last.ts) })
      match state.lastSeen timeframe with
      | none => .done bars
      | some previous => .done (bars.filter fun bar => previous < bar.ts)

def entriesOf (symbol timeframe : String) : List (Bar F) → Program F (List (OhlcvUpdate F))
  | [] => .done []
  | bar :: rest => do
      let correlationId ← await .uuid4
      let entries ← entriesOf symbol timeframe rest
      .done (⟨symbol, timeframe, bar.ts, bar.close, correlationId⟩ :: entries)

def publish (symbol timeframe : String) (bars : List (Bar F)) : Program F Unit := do
  let entries ← entriesOf symbol timeframe bars
  await (.execute entries)
  tally fun stats => { stats with
    eventsPublished := stats.eventsPublished + bars.length
    lastBarTs := bars.getLast?.map Bar.ts }

def forward (symbol timeframe : String) (bars : List (Bar F)) : Program F Unit := do
  let fresh ← filterNew timeframe bars
  if fresh.isEmpty then .done ()
  else do
    let written ← await (.upsertBars symbol timeframe fresh)
    tally fun stats => { stats with barsWritten := stats.barsWritten + written }
    publish symbol timeframe fresh

namespace Ingestor

variable (ingestor : Ingestor)

def pollTimeframe (symbol timeframe : String) : Program F Unit := do
  let bars ← await (.copyBars symbol timeframe ingestor.historyBars)
  forward symbol timeframe bars

def cycle (symbol : Option String) : Program F Unit := do
  let symbol := (symbol.filter (· ≠ "")).getD ingestor.settings.symbol
  let connected ← await .connected
  if connected then .done () else await .connect
  Prog.forEach ingestor.timeframes (ingestor.pollTimeframe symbol)
  tally fun stats => { stats with cycles := stats.cycles + 1 }

/-- One turn of `run_forever`; a terminal error is an `MT5UnavailableError`. -/
def turn : Program F Unit := do
  let failure ← (do
      ingestor.cycle (some ingestor.settings.symbol)
      .done none).rescue fun error => .done (some error)
  match failure with
  | none => await (.sleep ingestor.pollIntervalSeconds)
  | some (.terminalError _) => do
      tally fun stats => { stats with errors := stats.errors + 1 }
      await (.sleep 30)
  | some _ => do
      tally fun stats => { stats with errors := stats.errors + 1 }
      await (.sleep ingestor.pollIntervalSeconds)

end Ingestor

end Ingestor

end Ingest

end Vix75
