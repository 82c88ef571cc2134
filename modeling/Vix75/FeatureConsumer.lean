import Vix75.EffectProgram
import Vix75.FeatureCore

/-! feature-service: the consumer of `ohlcv.update`, as a program over the commands it
awaits. -/

namespace Vix75

open EffectProgram

inductive FeatureEffect (F : Type) where
  | xgroupCreate
  | xreadgroup (count : ℕ)
  | xack (messageId : String)
  | sleep (seconds : ℚ)
  | uuid4
  | zoneIds
  | xpendingRange (messageId : String)
  | fetchBars (symbol timeframe : String) (limit : ℕ)
  | upsertFeatureRow (row : Snapshot F)
  | xaddComputed (symbol timeframe : String) (ts : Timestamp) (correlationId : String)
  | xaddDeadLetter (entry : Fields)
deriving DecidableEq

@[reducible] def FeatureEffect.Reply {F : Type} : FeatureEffect F → Type
  | .xreadgroup _ => List Message
  | .uuid4 => String
  | .zoneIds => ℕ → String
  | .xpendingRange _ => Option ℕ
  | .fetchBars _ _ _ => List (Bar F)
  | _ => Unit

namespace Feature

abbrev Program (F α : Type) := Prog (FeatureEffect F) FeatureEffect.Reply PyError α

abbrev await {F : Type} (effect : FeatureEffect F) : Program F effect.Reply := Prog.perform effect

structure FeatureConsumer (F : Type) where
  numerics : Numerics F
  /-- The client decodes replies, so that a message id is a `str`. -/
  decodeResponses : Bool := true

def minBars : ℕ := 250

def maxDeliveries : ℕ := 3

section Consumer

variable {F : Type} [Add F] [Sub F] [Mul F] [Div F] [LT F] [LE F] [DecidableLT F] [DecidableLE F]
variable [DecidableEq F] [PyMath F]

def getOrCreateCorrelationId (decoded : Fields) : Program F String :=
  match decoded.correlationId with
  | some raw => .done raw
  | none => await .uuid4

def deliveryCount (messageId : String) : Program F ℕ := do
  match ← await (.xpendingRange messageId) with
  | none => .done 1
  | some deliveries => .done (if deliveries = 0 then 1 else deliveries)

namespace FeatureConsumer

variable (consumer : FeatureConsumer F)

def processBarEvent (symbol timeframe correlationId : String) : Program F Unit := do
  let bars ← await (.fetchBars symbol timeframe featureWindow)
  if bars.length < minBars then .done ()
  else do
    let mint ← await .zoneIds
    let snapshot ← Prog.ofExcept (snapshotFromBars consumer.numerics mint bars symbol timeframe)
    await (.upsertFeatureRow snapshot)
    await (.xaddComputed symbol timeframe snapshot.ts correlationId)

/-- `_dead_letter`: `message_id.decode()` needs bytes. -/
def deadLetter (message : Message) (reason : String) : Program F Unit :=
  if consumer.decodeResponses then .raise (.attributeError "'str' object has no attribute 'decode'")
  else do
    await (.xaddDeadLetter
      ([("dlq_reason", reason), ("original_id", message.id)] ++ message.fields))
    await (.xack message.id)

def handle (message : Message) : Program F Unit := do
  let decoded := message.fields
  let correlationId ← getOrCreateCorrelationId decoded
  let symbol := (decoded.get? "symbol").getD ""
  let timeframe := (decoded.get? "timeframe").getD ""
  if symbol = "" ∨ timeframe = "" ∨ decoded.get? "ts" = none then
    consumer.deadLetter message "malformed"
  else do
    let deliveries ← deliveryCount message.id
    let processed ← (do
      consumer.processBarEvent symbol timeframe correlationId
      .done true).rescue fun _ => do
        if maxDeliveries ≤ deliveries then do
          consumer.deadLetter message "max_deliveries"
          await (.xack message.id)
          .done false
        else .done false
    if processed then await (.xack message.id) else .done ()

end FeatureConsumer

def ensureGroup : Program F Unit :=
  (await .xgroupCreate).rescue fun
    | .busyGroup => .done ()
    | error => .raise error

def readBatch : Program F (List Message) :=
  (await (.xreadgroup 16)).rescue fun
    | .noGroup => do
        ensureGroup
        .done []
    | _ => do
        await (.sleep 2)
        .done []

def poll (consumer : FeatureConsumer F) : Program F Unit := do
  let messages ← readBatch
  Prog.forEach messages consumer.handle

end Consumer

end Feature

end Vix75
