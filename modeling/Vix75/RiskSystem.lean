import Vix75.RiskCore

/-! All interleavings of risk-service replicas over one Redis, and what one handler has
read when it approves a signal. -/

namespace Vix75

open EffectProgram

namespace Risk

abbrev ExposureTable := KeyedTable (OpenPosition ℚ) String OpenPosition.idempotencyKey

structure RiskWorld where
  signals : List Message := []
  cursor : ℕ := 0
  openPositions : ExposureTable := .empty
  /-- Keys of the `order.request` entries that are not released, in publishing order. -/
  outstanding : List String := []
  rejected : List SignalRejection := []

namespace RiskWorld

def undelivered (world : RiskWorld) : List Message := world.signals.drop world.cursor

def apply (world : RiskWorld) : RiskEffect → RiskWorld
  | .xreadgroup count => { world with
      cursor := world.cursor + (world.undelivered.take count).length }
  | .hset position => { world with openPositions := world.openPositions.put position }
  | .hdel key => { world with
      openPositions := world.openPositions.erase key
      outstanding := world.outstanding.filter (· ≠ key) }
  | .xaddApproved order _ => { world with
      outstanding := world.outstanding ++ [order.idempotencyKey] }
  | .xaddRejected entry => { world with rejected := world.rejected ++ [entry] }
  | _ => world

def replies (world : RiskWorld) : (effect : RiskEffect) → effect.Reply → Bool
  | .xreadgroup count, messages => decide (messages = world.undelivered.take count)
  | .hgetall, positions => decide (positions = world.openPositions.rows)
  | _, _ => true

/-- Snapshots may change at any time; every command may fail, applied or not. -/
def answer (world : RiskWorld) (effect : RiskEffect) :
    Except PyError effect.Reply → Option RiskWorld
  | .ok value => if world.replies effect value then some (world.apply effect) else none
  | .error error =>
      if effect = .hang then none
      else some (if error.applied then world.apply effect else world)

theorem answer_eq {world after : RiskWorld} {effect : RiskEffect}
    {reply : Except PyError effect.Reply} (answered : world.answer effect reply = some after) :
    after = world ∨ after = world.apply effect := by
  cases reply with
  | ok value =>
      simp only [answer] at answered
      split at answered
      · exact .inr (Option.some.inj answered).symm
      · simp at answered
  | error error =>
      simp only [answer] at answered
      split at answered
      · simp at answered
      · rw [Option.some.injEq] at answered
        subst answered
        split
        · exact .inr rfl
        · exact .inl rfl

theorem answer_ok {world after : RiskWorld} {effect : RiskEffect} {value : effect.Reply}
    (answered : world.answer effect (.ok value) = some after) :
    world.replies effect value = true ∧ after = world.apply effect := by
  simp only [answer] at answered
  split at answered
  · rename_i given
    exact ⟨given, (Option.some.inj answered).symm⟩
  · simp at answered

end RiskWorld

inductive RiskEvent where
  | publish (message : Message)
deriving DecidableEq

def RiskWorld.environment (world : RiskWorld) : RiskEvent → Option RiskWorld
  | .publish message => some { world with signals := world.signals ++ [message] }

inductive RiskRequest where
  | ensureGroup
  | drain
  | release (idempotencyKey : String)
deriving DecidableEq

namespace RiskConsumer

def entry (consumer : RiskConsumer) : RiskRequest → Program Unit
  | .ensureGroup => ensureGroup
  | .drain => drain consumer
  | .release idempotencyKey => release idempotencyKey

def system (consumer : RiskConsumer) :
    System RiskEffect RiskEffect.Reply PyError RiskWorld RiskEvent RiskRequest where
  entry := consumer.entry
  answer := RiskWorld.answer
  environment := RiskWorld.environment

def idOf (consumer : RiskConsumer) (message : Message) : Option String :=
  match consumer.parseSignal message.fields with
  | .ok (some signal) => some signal.id
  | _ => none

def signalIds (consumer : RiskConsumer) (messages : List Message) : List String :=
  messages.filterMap consumer.idOf

end RiskConsumer

abbrev RiskLabel (Pid : Type) :=
  Label Pid RiskEffect RiskEffect.Reply PyError RiskEvent RiskRequest

abbrev RiskConfig (Pid : Type) := Config Pid RiskEffect RiskEffect.Reply PyError RiskWorld

def RiskConfig.idle {Pid : Type} (world : RiskWorld) : RiskConfig Pid := ⟨world, fun _ => none⟩

/-! What a handler has read. -/

inductive Look where
  | fresh
  | seen (positions : List (OpenPosition ℚ))
  | funded (positions : List (OpenPosition ℚ)) (account : Option (AccountSnapshot ℚ))
  | specified (positions : List (OpenPosition ℚ)) (account : Option (AccountSnapshot ℚ))
      (constraints : Option (SymbolConstraints ℚ))
deriving DecidableEq

def Look.positions : Look → Option (List (OpenPosition ℚ))
  | .fresh => none
  | .seen positions => some positions
  | .funded positions _ => some positions
  | .specified positions _ _ => some positions

def Look.read (codec : Decoders) (raw : Option String) : Look → Look
  | .seen positions =>
      match codec.account raw with
      | .ok account => .funded positions account
      | .error _ => .seen positions
  | .funded positions account =>
      match codec.constraints raw with
      | .ok constraints => .specified positions account constraints
      | .error _ => .funded positions account
  | look => look

@[simp] theorem Look.positions_read (codec : Decoders) (raw : Option String) (look : Look) :
    (look.read codec raw).positions = look.positions := by
  cases look with
  | seen positions => simp only [Look.read]; split <;> rfl
  | funded positions account => simp only [Look.read]; split <;> rfl
  | _ => rfl

structure Approval where
  signal : Signal ℚ
  positions : List (OpenPosition ℚ)
  account : AccountSnapshot ℚ
  constraints : SymbolConstraints ℚ
  lots : ℚ
deriving DecidableEq

inductive Review where
  | outside
  | between
  | facing (message : Message) (look : Look) (rest : List Message)
  | published (approval : Approval) (rest : List Message)
  | settled (rest : List Message)
deriving DecidableEq

namespace Review

def pending : Review → List Message
  | .outside => []
  | .between => []
  | .facing message _ rest => message :: rest
  | .published _ rest => rest
  | .settled rest => rest

/-- The registered positions the handler decides on, from its look at them until it has
registered its own. -/
def window : Review → Option (List (OpenPosition ℚ))
  | .facing _ look _ => look.positions
  | .published approval _ => some approval.positions
  | _ => none

def approval? : Review → Option Approval
  | .published approval _ => some approval
  | _ => none

def next : List Message → Review
  | [] => .between
  | message :: rest => .facing message .fresh rest

@[simp] theorem pending_next (messages : List Message) : (next messages).pending = messages := by
  cases messages <;> rfl

@[simp] theorem window_next (messages : List Message) : (next messages).window = none := by
  cases messages <;> rfl

@[simp] theorem approval_next (messages : List Message) : (next messages).approval? = none := by
  cases messages <;> rfl

end Review

def reviewing (consumer : RiskConsumer)
    (assumed : Review → (effect : RiskEffect) → Except PyError effect.Reply → Prop)
    (crashes : Review → Prop) :
    Discipline RiskEffect RiskEffect.Reply PyError RiskRequest Review where
  initial := fun request => match request with
    | .drain => .between
    | _ => .outside
  allowed := fun review effect => match effect, review with
    | .xreadgroup _, .between => True
    | .xack id, .facing message _ _ =>
        message.id = id ∧ consumer.parseSignal message.fields = .ok none
    | .xack _, .settled _ => True
    | .hgetall, .facing _ .fresh _ => True
    | .get _, .facing _ _ _ => True
    | .xaddApproved order _, .facing message (.specified _ (some account) (some constraints)) _ =>
        ∃ signal result, consumer.parseSignal message.fields = .ok (some signal) ∧
          consumer.sizePosition signal account constraints = .returned result ∧
          result.status.Accepted ∧ order = orderOf signal result.lots
    | .xaddRejected _, .facing _ _ _ => True
    | .hset position, .published approval _ =>
        position = positionOf approval.signal
          (orderOf approval.signal approval.lots)
          (riskAmount approval.signal approval.constraints approval.lots)
    | .xreadgroup _, _ | .xack _, _ | .hgetall, _ | .get _, _ | .xaddApproved _ _, _
    | .xaddRejected _, _ | .hset _, _ => False
    | _, _ => True
  assumed := assumed
  advance := fun review effect reply => match effect, reply, review with
    | .xreadgroup _, .ok messages, _ => .next messages
    | .xack _, .ok _, .facing _ _ rest => .next rest
    | .xack _, .ok _, .settled rest => .next rest
    | .hgetall, .ok positions, .facing message _ rest =>
        if consumer.settings.maxOpenPositions ≤ (positions.length : ℤ) then
          .facing message .fresh rest
        else .facing message (.seen positions) rest
    | .get _, .ok raw, .facing message look rest =>
        .facing message (look.read consumer.codec raw) rest
    | .xaddApproved order _, .ok _,
      .facing message (.specified positions (some account) (some constraints)) rest =>
        match consumer.parseSignal message.fields with
        | .ok (some signal) => .published ⟨signal, positions, account, constraints, order.lots⟩ rest
        | _ => .settled rest
    | .xaddApproved _ _, .error _, .facing _ _ rest => .settled rest
    | .xaddRejected _, _, .facing _ _ rest => .settled rest
    | .hset _, _, .published _ rest => .settled rest
    | _, _, _ => review
  finished := fun review => review.approval? = none
  failed := fun review _ => review.approval? = none
  crashes := crashes

end Risk

end Vix75
