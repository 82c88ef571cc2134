import Vix75.IngestCore
import Vix75.ProgramHandlers

/-! data-service: chunked backfills, and the ingest cycle carried out over the same terminal and
table. Every row of an `executemany` is an insertion of its own. -/

namespace Vix75

open EffectProgram

/-- The bars of one symbol and timeframe in the terminal, oldest first; the newest one is still
forming. -/
structure BrokerHistory (F : Type) where
  bars : List (Bar F)
  ascending : (bars.map Bar.ts).Pairwise (· < ·)

namespace BrokerHistory

variable {F : Type} (history : BrokerHistory F)

def empty : BrokerHistory F := ⟨[], .nil⟩

def closed : List (Bar F) := history.bars.dropLast

/-- `mt5.copy_rates_from_pos`: positions count back from the newest bar, rows come oldest first. -/
def copyRatesFromPos (start count : ℕ) : List (Bar F) :=
  let upTo := history.bars.length - start
  (history.bars.take upTo).drop (upTo - count)

def tick (bar : Bar F) : Option (BrokerHistory F) :=
  if newest : history.bars.getLast?.map Bar.ts = some bar.ts then
    some ⟨history.bars.dropLast ++ [bar], by
      obtain ⟨forming, last, same⟩ := Option.map_eq_some_iff.mp newest
      have whole := List.dropLast_append_getLast? forming last
      have ascending := history.ascending
      rw [← whole, List.map_append] at ascending
      simpa [same] using ascending⟩
  else none

def opens (bar : Bar F) : Option (BrokerHistory F) :=
  if later : ∀ other ∈ history.bars, other.ts < bar.ts then
    some ⟨history.bars ++ [bar], by
      rw [List.map_append, List.pairwise_append]
      refine ⟨history.ascending, by simp, fun ts known next here => ?_⟩
      obtain ⟨other, member, rfl⟩ := List.mem_map.mp known
      obtain rfl := List.mem_singleton.mp here
      exact later other member⟩
  else none

end BrokerHistory

def closedPart {F : Type} (start : ℕ) (rates : List (Bar F)) : List (Bar F) :=
  if start = 0 then rates.dropLast else rates

def formingPart {F : Type} (start : ℕ) (rates : List (Bar F)) : Option (Bar F) :=
  if start = 0 then rates.getLast? else none

inductive DataEffect (F : Type) where
  | now
  | connected
  | connect
  | copyRatesFromPos (symbol timeframe : String) (start count : ℕ)
  | insertBar (row : OhlcvRow F)
  | audit (subject : String) (bars lookbackDays : ℕ)
  | uuid4
  | execute (entries : List (OhlcvUpdate F))
  | sleep (seconds : ℚ)
deriving DecidableEq

@[reducible] def DataEffect.Reply {F : Type} : DataEffect F → Type
  | .now => Timestamp
  | .connected => Bool
  | .copyRatesFromPos _ _ _ _ => Option (List (Bar F))
  | .uuid4 => String
  | _ => Unit

namespace Data

abbrev Program (F α : Type) := Prog (DataEffect F) DataEffect.Reply PyError α

abbrev await {F : Type} (effect : DataEffect F) : Program F effect.Reply := Prog.perform effect

def timeframeMap : List String := ["M1", "M5", "M15", "M30", "H1", "H4", "D1"]

section Programs

variable {F : Type}

def copyBars (symbol timeframe : String) (count : ℕ) : Program F (List (Bar F)) :=
  if timeframe ∉ timeframeMap then
    .raise (.valueError ("unsupported timeframe '" ++ timeframe ++ "'"))
  else do
    match ← await (.copyRatesFromPos symbol timeframe 0 (count + 1)) with
    | none => .raise (.runtimeError ("copy_rates failed for " ++ symbol))
    | some [] => .raise (.runtimeError ("copy_rates failed for " ++ symbol))
    | some rates => .done rates.dropLast

def upsertBars (symbol timeframe : String) (bars : List (Bar F)) : Program F ℕ := do
  Prog.forEach bars fun bar => await (.insertBar ⟨symbol, timeframe, bar⟩)
  .done bars.length

def interpret (state : IngestState) : (effect : IngestEffect F) →
    Program F (Except PyError effect.Reply × IngestState)
  | .self => .done (.ok state, state)
  | .assign assigned => .done (.ok (), assigned)
  | .connected => do .done (← (await .connected).attempt, state)
  | .connect => do .done (← (await .connect).attempt, state)
  | .copyBars symbol timeframe count => do
      .done (← (copyBars symbol timeframe count).attempt, state)
  | .upsertBars symbol timeframe bars => do
      .done (← (upsertBars symbol timeframe bars).attempt, state)
  | .uuid4 => do .done (← (await .uuid4).attempt, state)
  | .execute entries => do .done (← (await (.execute entries)).attempt, state)
  | .sleep seconds => do .done (← (await (.sleep seconds)).attempt, state)

def datetimeMin : Timestamp := -62135596800000000

def datetimeMax : Timestamp := 253402300799999999

/-- `datetime.now(tz=UTC) - timedelta(days=lookback_days)`. -/
def cutoffOf (now : Timestamp) (lookbackDays : ℤ) : Except PyError Timestamp :=
  if |lookbackDays| > 999999999 then
    .error (.overflowError ("days=" ++ toString lookbackDays ++
      "; must have magnitude <= 999999999"))
  else if datetimeMin ≤ now - lookbackDays * 86400000000 ∧
      now - lookbackDays * 86400000000 ≤ datetimeMax then
    .ok (now - lookbackDays * 86400000000)
  else .error (.overflowError "date value out of range")

section Generator

variable {σ : Type} (body : σ → List (Bar F) → Program F σ)

/-- `while True` of the generator, with the body of the loop that asks it for chunks. `false` says
that the fuel ran out. -/
def iterPages (symbol timeframe : String) (chunkSize : ℕ) (cutoff : Timestamp) :
    ℕ → ℕ → σ → Program F (σ × Bool)
  | 0, _, state => .done (state, false)
  | fuel + 1, startPos, state => do
      match ← await (.copyRatesFromPos symbol timeframe startPos chunkSize) with
      | none => .done (state, true)
      | some [] => .done (state, true)
      | some (oldest :: later) => do
          let rates := oldest :: later
          let state ← body state rates
          if oldest.ts ≤ cutoff ∨ rates.length < chunkSize then .done (state, true)
          else iterPages symbol timeframe chunkSize cutoff fuel (startPos + rates.length) state

def iterHistoryChunks (symbol timeframe : String) (lookbackDays : ℤ) (chunkSize fuel : ℕ)
    (state : σ) : Program F (σ × Bool) :=
  if timeframe ∉ Ingest.ingestTimeframes ∧ timeframe ∉ ["M30", "H4", "D1"] then
    .raise (.valueError ("unsupported backfill timeframe '" ++ timeframe ++ "'"))
  else do
    let now ← await .now
    match cutoffOf now lookbackDays with
    | .error error => .raise error
    | .ok cutoff => iterPages body symbol timeframe chunkSize cutoff fuel 0 state

end Generator

def backfillTimeframe (symbol timeframe : String) (lookbackDays chunkSize fuel : ℕ) :
    Program F ℕ := do
  let stored := fun (total : ℕ) (rates : List (Bar F)) =>
    (upsertBars symbol timeframe rates >>= fun written => .done (total + written) : Program F ℕ)
  let (total, _) ← iterHistoryChunks stored symbol timeframe lookbackDays chunkSize fuel 0
  await (.audit (symbol ++ ":" ++ timeframe) total lookbackDays)
  .done total

end Programs

/-! The processes of data-service -/

inductive DataRequest where
  | cycle (ingestor : Ingest.Ingestor) (state : IngestState) (symbol : Option String)
  | backfill (symbol timeframe : String) (lookbackDays chunkSize fuel : ℕ)

def DataRequest.backfills : DataRequest → Bool
  | .cycle _ _ _ => false
  | .backfill _ _ _ _ _ => true

/-- `seenClosed` are the bars that some read has returned closed. -/
structure DataWorld (F : Type) where
  terminal : String × String → BrokerHistory F
  ohlcv : KeyedTable (OhlcvRow F) (String × String × Timestamp) OhlcvRow.key := KeyedTable.empty
  seenClosed : List (String × String × Timestamp) := []

inductive TerminalEvent (F : Type) where
  | tick (symbol timeframe : String) (bar : Bar F)
  | opens (symbol timeframe : String) (bar : Bar F)

namespace DataWorld

variable {F : Type} (world : DataWorld F)

def insert (row : OhlcvRow F) : DataWorld F := { world with ohlcv := world.ohlcv.insert row }

def see (symbol timeframe : String) (bars : List (Bar F)) : DataWorld F :=
  { world with seenClosed := world.seenClosed ++ bars.map fun bar => (symbol, timeframe, bar.ts) }

def answer [DecidableEq F] (world : DataWorld F) :
    (effect : DataEffect F) → Except PyError effect.Reply → Option (DataWorld F)
  | .copyRatesFromPos symbol timeframe start count, .ok (some rates) =>
      if rates = (world.terminal (symbol, timeframe)).copyRatesFromPos start count then
        some (world.see symbol timeframe (closedPart start rates))
      else none
  | .insertBar row, .ok () => some (world.insert row)
  | .insertBar row, .error error => some (if error.applied then world.insert row else world)
  | _, _ => some world

def turn (key : String × String) (history : BrokerHistory F) : DataWorld F :=
  { world with terminal := Function.update world.terminal key history }

def environment (world : DataWorld F) : TerminalEvent F → Option (DataWorld F)
  | .tick symbol timeframe bar =>
      ((world.terminal (symbol, timeframe)).tick bar).map (world.turn (symbol, timeframe))
  | .opens symbol timeframe bar =>
      ((world.terminal (symbol, timeframe)).opens bar).map (world.turn (symbol, timeframe))

end DataWorld

abbrev DataLabel (Pid F : Type) :=
  Label Pid (DataEffect F) DataEffect.Reply PyError (TerminalEvent F) DataRequest

abbrev DataConfig (Pid F : Type) := Config Pid (DataEffect F) DataEffect.Reply PyError (DataWorld F)

def entry {F : Type} : DataRequest → Program F Unit
  | .cycle ingestor state symbol => do
      let _ ← Prog.handle interpret state (ingestor.cycle symbol)
      .done ()
  | .backfill symbol timeframe lookbackDays chunkSize fuel => do
      let _ ← backfillTimeframe symbol timeframe lookbackDays chunkSize fuel
      .done ()

def system {F : Type} [DecidableEq F] :
    System (DataEffect F) DataEffect.Reply PyError (DataWorld F) (TerminalEvent F) DataRequest where
  entry := entry
  answer := DataWorld.answer
  environment := DataWorld.environment

end Data

end Vix75
