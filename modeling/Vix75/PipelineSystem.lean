import Mathlib.Data.List.Sort
import Vix75.FeatureConsumer
import Vix75.RiskSystem
import Vix75.SignalConsumer

/-! All interleavings of feature-service, signal-service and risk-service replicas over the
streams and tables between a stored bar and an order request. -/

namespace Vix75

open EffectProgram

abbrev RowKey := String × String × Timestamp

def Snapshot.rowKey (row : Snapshot ℚ) : RowKey := (row.symbol, row.timeframe, row.ts)

def LtfSnapshot.rowKey (ltf : LtfSnapshot ℚ) : RowKey := (ltf.symbol, ltf.timeframe, ltf.ts)

structure StoredBar where
  symbol : String
  timeframe : String
  bar : Bar ℚ

def StoredBar.rowKey (row : StoredBar) : RowKey := (row.symbol, row.timeframe, row.bar.ts)

namespace Pipeline

inductive PipelineEffect where
  | feature (effect : FeatureEffect ℚ)
  | signal (effect : SignalEffect ℚ)
  | risk (effect : RiskEffect)
deriving DecidableEq

@[reducible] def PipelineEffect.Reply : PipelineEffect → Type
  | .feature effect => effect.Reply
  | .signal effect => effect.Reply
  | .risk effect => effect.Reply

abbrev Program (α : Type) := Prog PipelineEffect PipelineEffect.Reply PyError α

structure Services where
  feature : Feature.FeatureConsumer ℚ
  signal : Signalling.SignalConsumer ℚ
  risk : Risk.RiskConsumer
  dumps : Signal ℚ → String

structure EntryStream where
  entries : List Message := []
  cursor : ℕ := 0

namespace EntryStream

def undelivered (stream : EntryStream) : List Message := stream.entries.drop stream.cursor

def deliver (stream : EntryStream) (count : ℕ) : EntryStream :=
  { stream with cursor := stream.cursor + (stream.undelivered.take count).length }

def add (stream : EntryStream) (message : Message) : EntryStream :=
  { stream with entries := stream.entries ++ [message] }

end EntryStream

structure PipelineWorld where
  bars : KeyedTable StoredBar RowKey StoredBar.rowKey := .empty
  barEvents : EntryStream := {}
  features : KeyedTable (Snapshot ℚ) RowKey Snapshot.rowKey := .empty
  computed : EntryStream := {}
  /-- The ids of the signals that fired, each with the row it was fired on. -/
  minted : List (String × RowKey) := []
  risk : Risk.RiskWorld := {}
  orders : List (OrderRequest ℚ) := []

/-- Entry ids are positions here; nothing depends on their form. -/
def entryId (position : ℕ) : String := toString position

def computedFields (symbol timeframe correlationId : String) : Fields :=
  [("symbol", symbol), ("timeframe", timeframe), ("correlation_id", correlationId)]

namespace Services

variable (services : Services)

def signalFields (signal : Signal ℚ) (correlationId : String) : Fields :=
  [("signal", services.dumps signal), ("correlation_id", correlationId)]

def fires (ltf : LtfSnapshot ℚ) (market : MarketContext ℚ) : Bool :=
  (services.signal.engine.evaluate "" ltf market).signal.isSome

end Services

namespace PipelineWorld

variable (world : PipelineWorld)

def fetchBars (symbol timeframe : String) (limit : ℕ) : List (Bar ℚ) :=
  let bars := (world.bars.rows.filter fun row =>
    row.symbol = symbol ∧ row.timeframe = timeframe).map StoredBar.bar
  ((bars.insertionSort fun first second => second.ts ≤ first.ts).take limit).reverse

def latestRow (symbol timeframe : String) : Option (Snapshot ℚ) :=
  ((world.features.rows.filter fun row =>
    row.symbol = symbol ∧ row.timeframe = timeframe).insertionSort
      fun first second => second.ts ≤ first.ts).head?

def applyFeature : FeatureEffect ℚ → PipelineWorld
  | .xreadgroup count => { world with barEvents := world.barEvents.deliver count }
  | .upsertFeatureRow row => { world with features := world.features.put row }
  | .xaddComputed symbol timeframe _ correlationId => { world with
      computed := world.computed.add ⟨entryId world.computed.entries.length,
        computedFields symbol timeframe correlationId⟩ }
  | _ => world

def repliesFeature : (effect : FeatureEffect ℚ) → effect.Reply → Bool
  | .xreadgroup count, messages => decide (messages = world.barEvents.undelivered.take count)
  | .fetchBars symbol timeframe limit, bars =>
      decide (bars = world.fetchBars symbol timeframe limit)
  | _, _ => true

variable (services : Services)

def applySignal : SignalEffect ℚ → PipelineWorld
  | .xreadgroup count => { world with computed := world.computed.deliver count }
  | .xaddGenerated signal correlationId => { world with
      risk := { world.risk with signals := world.risk.signals ++
        [⟨entryId world.risk.signals.length, services.signalFields signal correlationId⟩] } }
  | _ => world

def evaluates (ltf : LtfSnapshot ℚ) (market : MarketContext ℚ)
    (evaluation : EvaluationResult ℚ) : Bool :=
  match evaluation.signal with
  | none => decide (evaluation = services.signal.engine.evaluate "" ltf market)
  | some signal => decide (signal.id ∉ world.minted.map Prod.fst ∧
      evaluation = services.signal.engine.evaluate signal.id ltf market)

def repliesSignal : (effect : SignalEffect ℚ) → effect.Reply → Bool
  | .xreadgroup count, messages => decide (messages = world.computed.undelivered.take count)
  | .fetchFeatureRow symbol timeframe, row => decide (row = world.latestRow symbol timeframe)
  | .evaluate ltf market, evaluation => world.evaluates services ltf market evaluation
  | _, _ => true

def applyRisk (effect : RiskEffect) : PipelineWorld :=
  { world with
    risk := world.risk.apply effect
    orders := match effect with
      | .xaddApproved order _ => world.orders ++ [order]
      | _ => world.orders }

def apply : PipelineEffect → PipelineWorld
  | .feature effect => world.applyFeature effect
  | .signal effect => world.applySignal services effect
  | .risk effect => world.applyRisk effect

def replies : (effect : PipelineEffect) → effect.Reply → Bool
  | .feature effect, value => world.repliesFeature effect value
  | .signal effect, value => world.repliesSignal services effect value
  | .risk effect, value => world.risk.replies effect value

def mint (ltf : LtfSnapshot ℚ) (evaluation : EvaluationResult ℚ) : PipelineWorld :=
  { world with minted := world.minted ++
      (evaluation.signal.map fun signal => (signal.id, ltf.rowKey)).toList }

def answer : (effect : PipelineEffect) → Except PyError effect.Reply → Option PipelineWorld
  | .signal (.evaluate ltf market), .ok evaluation =>
      if world.evaluates services ltf market evaluation then some (world.mint ltf evaluation)
      else none
  | .risk .hang, _ => none
  | effect, .ok value =>
      if world.replies services effect value then some (world.apply services effect) else none
  | effect, .error error => some (if error.applied then world.apply services effect else world)

end PipelineWorld

/-- What other parties do: ingestion stores and announces bars, any entry may be announced
again, and rows may be stored in batches. -/
inductive PipelineEvent where
  | storeBar (row : StoredBar)
  | announceBar (message : Message)
  | storeRow (row : Snapshot ℚ)
  | announceRow (message : Message)

def PipelineWorld.environment (world : PipelineWorld) : PipelineEvent → Option PipelineWorld
  | .storeBar row => some { world with bars := world.bars.put row }
  | .announceBar message => some { world with barEvents := world.barEvents.add message }
  | .storeRow row => some { world with features := world.features.put row }
  | .announceRow message => some { world with computed := world.computed.add message }

inductive PipelineRequest where
  | ensureFeatureGroup
  | pollBars
  | ensureSignalGroup
  | drainRows
  | risk (request : Risk.RiskRequest)

namespace Services

variable (services : Services)

def liftFeature {α : Type} : Feature.Program ℚ α → Program α :=
  Prog.lift .feature fun _ reply => reply

def liftSignal {α : Type} : Signalling.Program ℚ α → Program α :=
  Prog.lift .signal fun _ reply => reply

def liftRisk {α : Type} : Risk.Program α → Program α :=
  Prog.lift .risk fun _ reply => reply

def entry : PipelineRequest → Program Unit
  | .ensureFeatureGroup => liftFeature Feature.ensureGroup
  | .pollBars => liftFeature (Feature.poll services.feature)
  | .ensureSignalGroup => liftSignal Signalling.ensureGroup
  | .drainRows => liftSignal (Signalling.drain services.signal)
  | .risk request => liftRisk (services.risk.entry request)

def system : System PipelineEffect PipelineEffect.Reply PyError PipelineWorld PipelineEvent
    PipelineRequest where
  entry := services.entry
  answer := fun world => world.answer services
  environment := PipelineWorld.environment

end Services

abbrev PipelineLabel (Pid : Type) :=
  Label Pid PipelineEffect PipelineEffect.Reply PyError PipelineEvent PipelineRequest

abbrev PipelineConfig (Pid : Type) :=
  Config Pid PipelineEffect PipelineEffect.Reply PyError PipelineWorld

def PipelineConfig.idle {Pid : Type} (world : PipelineWorld) : PipelineConfig Pid :=
  ⟨world, fun _ => none⟩

end Pipeline

end Vix75
