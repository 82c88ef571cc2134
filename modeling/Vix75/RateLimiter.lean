import Mathlib.Algebra.Order.Round
import Mathlib.Data.List.Sort
import Mathlib.Data.Rat.Floor
import Vix75.EffectProgram
import Vix75.KeyedTable
import Vix75.Schemas

/-! The sliding-window rate limiter of api-gateway over one Redis, and all interleavings of the
commands of its calls. Times are in milliseconds. -/

namespace Vix75

open EffectProgram

structure ScoredMember where
  member : String
  score : ℤ
deriving DecidableEq

inductive RedisCommand where
  | zremrangebyscore (key : String) (max : ℤ)
  | zadd (key member : String) (score : ℤ)
  | zcard (key : String)
  | expire (key : String) (seconds : ℤ)
  | zrange (key : String)
deriving DecidableEq

@[reducible] def RedisCommand.Reply : RedisCommand → Type
  | .zremrangebyscore _ _ => ℕ
  | .zadd _ _ _ => ℕ
  | .zcard _ => ℕ
  | .expire _ _ => Bool
  | .zrange _ => Option ScoredMember

namespace RateLimit

abbrev Program (α : Type) := Prog RedisCommand RedisCommand.Reply PyError α

abbrev await (command : RedisCommand) : Program command.Reply := Prog.perform command

structure RateDecision where
  allowed : Bool
  remaining : ℤ
  retryAfterS : ℤ
deriving DecidableEq

structure SlidingWindowLimiter where
  limit : ℤ := 100
  windowS : ℤ := 60

def keyOf (subject : String) : String := "rate:" ++ subject

namespace SlidingWindowLimiter

variable (limiter : SlidingWindowLimiter)

def windowMs : ℤ := limiter.windowS * 1000

/-- `check` from the moment it has read the clock and drawn its member. -/
def check (key : String) (nowMs : ℤ) (member : String) : Program RateDecision := do
  let windowStart := nowMs - limiter.windowMs
  let _ ← await (.zremrangebyscore key windowStart)
  let _ ← await (.zadd key member nowMs)
  let count ← await (.zcard key)
  let _ ← await (.expire key limiter.windowS)
  if count ≤ limiter.limit then
    .done ⟨true, max (limiter.limit - count) 0, 0⟩
  else
    let oldest ← await (.zrange key)
    let oldestMs := match oldest with
      | some oldest => oldest.score
      | none => windowStart
    .done ⟨false, 0, max 1 ⌈((oldestMs + limiter.windowMs - nowMs : ℤ) : ℚ) / 1000⌉⟩

end SlidingWindowLimiter

/-! Redis -/

structure SortedSet where
  members : KeyedTable ScoredMember String ScoredMember.member := .empty
  expireAt : Option ℤ := none

namespace SortedSet

def ofMembers (members : KeyedTable ScoredMember String ScoredMember.member)
    (expireAt : Option ℤ) : SortedSet :=
  if members.rows = [] then {} else ⟨members, expireAt⟩

/-- A key outlives the instant at which it expires. -/
def expired (set : SortedSet) (clock : ℤ) : Bool :=
  match set.expireAt with
  | some expireAt => decide (expireAt < clock)
  | none => false

end SortedSet

abbrev Keyspace := String → SortedSet

def execute (clock : ℤ) (keys : Keyspace) : (command : RedisCommand) → command.Reply × Keyspace
  | .zremrangebyscore key max =>
      let set := keys key
      let kept := set.members.keep fun entry => max < entry.score
      (set.members.rows.length - kept.rows.length,
        Function.update keys key (.ofMembers kept set.expireAt))
  | .zadd key member score =>
      let set := keys key
      (set.members.insertCount ⟨member, score⟩,
        Function.update keys key { set with members := set.members.put ⟨member, score⟩ })
  | .zcard key => ((keys key).members.rows.length, keys)
  | .expire key seconds =>
      let set := keys key
      if set.members.rows = [] then (false, keys)
      else if seconds ≤ 0 then (true, Function.update keys key {})
      else (true, Function.update keys key { set with expireAt := some (clock + seconds * 1000) })
  | .zrange key =>
      (((keys key).members.rows.insertionSort fun first second => first.score < second.score ∨
        first.score = second.score ∧ first.member ≤ second.member).head?, keys)

structure Call where
  subject : String
  nowMs : ℤ
  member : String
  rest : Program RateDecision

structure Gateway where
  clock : ℤ
  keys : Keyspace := fun _ => {}
  calls : List Call := []

/-- The reply of a command, or the exception of a connection that is lost before or after the
command took effect. -/
inductive Outcome where
  | replied
  | lost (applied : Bool)
deriving DecidableEq

inductive Event where
  | tick (later : ℤ)
  | start (subject suffix : String)
  | command (index : ℕ) (outcome : Outcome)
deriving DecidableEq

namespace Gateway

variable (limiter : SlidingWindowLimiter)

def startCall (gateway : Gateway) (subject suffix : String) : Option Gateway :=
  let member := toString gateway.clock ++ "-" ++ suffix
  if member ∈ gateway.calls.map Call.member then none
  else some { gateway with
    calls := gateway.calls ++ [⟨subject, gateway.clock, member,
      limiter.check (keyOf subject) gateway.clock member⟩] }

def advance (gateway : Gateway) (index : ℕ) (outcome : Outcome) : Option Gateway :=
  gateway.calls[index]?.bind fun call =>
    match call.rest with
    | .call command next =>
        let (reply, keys) := execute gateway.clock gateway.keys command
        match outcome with
        | .replied => some { gateway with
            keys := keys
            calls := gateway.calls.set index { call with rest := next (.ok reply) } }
        | .lost applied => some { gateway with
            keys := if applied then keys else gateway.keys
            calls := gateway.calls.set index
              { call with rest := next (.error (.connectionError applied)) } }
    | _ => none

def step (gateway : Gateway) : Event → Option Gateway
  | .tick later =>
      if gateway.clock ≤ later then
        some { gateway with
          clock := later
          keys := fun key => if (gateway.keys key).expired later then {} else gateway.keys key }
      else none
  | .start subject suffix => gateway.startCall limiter subject suffix
  | .command index outcome => gateway.advance index outcome

def run (gateway : Gateway) : List Event → Option Gateway
  | [] => some gateway
  | event :: rest => (gateway.step limiter event).bind fun after => after.run rest

end Gateway

def Call.allowed (call : Call) : Bool :=
  match call.rest with
  | .done decision => decision.allowed
  | _ => false

/-- The calls of a subject in the window that ends at an instant and that were allowed. -/
def Gateway.allowedIn (gateway : Gateway) (limiter : SlidingWindowLimiter) (subject : String)
    (instant : ℤ) : List Call :=
  gateway.calls.filter fun call => decide (call.subject = subject) &&
    decide (instant - limiter.windowMs < call.nowMs) && decide (call.nowMs ≤ instant) &&
      call.allowed

end RateLimit

end Vix75
