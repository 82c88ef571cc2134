import Vix75.EffectProgram
import Vix75.SignalCore

/-! signal-service: the consumer of `feature.computed`, as a program over the commands it
awaits. -/

namespace Vix75

open EffectProgram PyMath

inductive SignalEffect (F : Type) where
  | xgroupCreate
  | xreadgroup (count : ℕ)
  | xack (messageId : String)
  | sleep (seconds : ℚ)
  | uuid4
  | get (key : String)
  | fetchFeatureRow (symbol timeframe : String)
  | evaluate (ltf : LtfSnapshot F) (market : MarketContext F)
  | insertSignal (id : String) (signal : Signal F)
  | xaddGenerated (signal : Signal F) (correlationId : String)
deriving DecidableEq

@[reducible] def SignalEffect.Reply {F : Type} : SignalEffect F → Type
  | .xreadgroup _ => List Message
  | .uuid4 => String
  | .get _ => Option String
  | .fetchFeatureRow _ _ => Option (Snapshot F)
  | .evaluate _ _ => EvaluationResult F
  | .insertSignal _ _ => Bool
  | _ => Unit

structure SignalDecoders (F : Type) where
  loads : String → Except PyError Json
  floatOf : Json → Except PyError F

namespace Signalling

structure SignalConsumer (F : Type) where
  ltfTimeframes : List String
  htfTimeframes : List String
  engine : SignalEngine F
  codec : SignalDecoders F

abbrev Program (F α : Type) := Prog (SignalEffect F) SignalEffect.Reply PyError α

abbrev await {F : Type} (effect : SignalEffect F) : Program F effect.Reply := Prog.perform effect

variable {F : Type} [Add F] [Div F] [LT F] [DecidableLT F] [PyMath F]

def getOrCreateCorrelationId (decoded : Fields) : Program F String :=
  match decoded.correlationId with
  | some raw => .done raw
  | none => await .uuid4

def engineOf (settings : Settings) : SignalEngine F where
  minConfluence := ofRat settings.confluenceMin
  minPWin := ofRat settings.minPWin
  allowS0Fade := settings.allowS0Fade
  slAtrBuffer := ofRat settings.slAtrBuffer
  rrTp1 := ofRat settings.tpRr1
  rrTp2 := ofRat settings.tpRr2

def consumerOf (settings : Settings) (codec : SignalDecoders F) : SignalConsumer F where
  ltfTimeframes := settings.ltfTimeframes
  htfTimeframes := settings.htfTimeframes
  engine := engineOf settings
  codec := codec

def required (value : Option F) : Except PyError F :=
  match value with
  | some value => .ok value
  | none => .error (.typeError "float() argument must be a string or a real number")

def rowToSnapshot (symbol timeframe : String) (row : Snapshot F) :
    Except PyError (LtfSnapshot F) := do
  .ok {
    symbol := symbol
    timeframe := timeframe
    ts := row.ts
    close := row.close
    atr := ← required row.atr
    rsi := ← required row.rsi
    ema50 := ← required row.ema50
    ema200 := ← required row.ema200
    zones := row.zones }

def fetchLtfRow (symbol timeframe : String) : Program F (Option (LtfSnapshot F)) := do
  match ← await (.fetchFeatureRow symbol timeframe) with
  | none => .done none
  | some row => do
      let snapshot ← Prog.ofExcept (rowToSnapshot symbol timeframe row)
      .done (some snapshot)

def fetchVotes (symbol : String) : List String → Program F (List String)
  | [] => .done []
  | timeframe :: rest => do
      let row ← await (.fetchFeatureRow symbol timeframe)
      let votes ← fetchVotes symbol rest
      match row.bind fun row => row.ema50.bind fun ema50 => row.ema200.map fun ema200 =>
          htfTrendFromEmas ema50 ema200 with
      | some vote => .done (vote :: votes)
      | none => .done votes

def trendOf (votes : List String) : String :=
  if "up" ∈ votes ∧ "down" ∉ votes then "up"
  else if "down" ∈ votes ∧ "up" ∉ votes then "down"
  else votes.headD "flat"

def fetchHtfTrend (symbol : String) (timeframes : List String) : Program F String := do
  let votes ← fetchVotes symbol timeframes
  .done (trendOf votes)

/-- `json.loads` and the `.get` calls on its result, which must be a dict. -/
def document (loads : String → Except PyError Json) (raw : String) : Except PyError Json := do
  match ← loads raw with
  | .dict entries => .ok (.dict entries)
  | _ => .error (.attributeError "object has no attribute 'get'")

/-- The regime of the cached text. `str` of a value that is not a string names no regime. -/
def regimeOf (loads : String → Except PyError Json) (raw : Option String) : Except PyError String :=
  match raw with
  | none => .ok "unknown"
  | some raw => do
      let data ← document loads raw
      match data.item? "regime" with
      | some (.str candidate) =>
          match RegimeState.ofValue candidate with
          | some regime => .ok regime.value
          | none => .ok "unknown"
      | _ => .ok "unknown"

def pWinOf (codec : SignalDecoders F) (raw : Option String) : Except PyError (Option F) :=
  match raw with
  | none => .ok none
  | some raw => do
      let data ← document codec.loads raw
      match data.item? "p_up", data.item? "p_down" with
      | some up, some down =>
          if up.isNumber && down.isNumber then do
            let pUp ← codec.floatOf up
            let pDown ← codec.floatOf down
            .ok (some (pUp / pyMax (pUp + pDown) (ofRat (1 / 10 ^ 9))))
          else .ok none
      | _, _ => .ok none

def regimeKey : String := "regime:current"

def metaKey : String := "meta_label:current"

namespace SignalConsumer

variable (consumer : SignalConsumer F)

def marketContext (symbol : String) : Program F (MarketContext F) := do
  let regimeRaw ← await (.get regimeKey)
  let metaRaw ← await (.get metaKey)
  let regime ← Prog.ofExcept (regimeOf consumer.codec.loads regimeRaw)
  let pWin ← Prog.ofExcept (pWinOf consumer.codec metaRaw)
  let htfTrend ← fetchHtfTrend symbol consumer.htfTimeframes
  .done { htfTrend := htfTrend, regime := regime, pWin := pWin }

def publish (signal : Signal F) (correlationId : String) : Program F Unit := do
  let id ← Prog.ofExcept (uuidFromHex signal.id)
  let _ ← await (.insertSignal id signal)
  await (.xaddGenerated signal correlationId)

def handle (decoded : Fields) : Program F Unit := do
  let correlationId ← getOrCreateCorrelationId decoded
  let symbol := (decoded.get? "symbol").getD ""
  let timeframe := (decoded.get? "timeframe").getD ""
  if timeframe ∉ consumer.ltfTimeframes then .done ()
  else do
    let market ← consumer.marketContext symbol
    match ← fetchLtfRow symbol timeframe with
    | none => .done ()
    | some ltf => do
        let evaluation ← await (.evaluate ltf market)
        match evaluation.signal with
        | none => .done ()
        | some signal => publish signal correlationId

def handleMessage (message : Message) : Program F Unit := do
  consumer.handle message.fields
  await (.xack message.id)

end SignalConsumer

def ensureGroup : Program F Unit :=
  (await .xgroupCreate).rescue fun
    | .busyGroup => .done ()
    | error => .raise error

def readBatch : Program F (List Message) :=
  (await (.xreadgroup 16)).rescue fun
    | .noGroup => do
        ensureGroup
        .done []
    | _ => do
        await (.sleep 2)
        .done []

def drain (consumer : SignalConsumer F) : Program F Unit := do
  let messages ← readBatch
  Prog.forEach messages consumer.handleMessage

end Signalling

end Vix75
