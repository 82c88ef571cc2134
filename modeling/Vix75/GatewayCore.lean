import Mathlib
import Vix75.ProgramStories
import Vix75.ProxyCore
import Vix75.RateLimiter

/-! api-gateway: the token route, the dependencies of the proxied routes and the middleware around
both, as programs over the clock, Redis, the upstream services and the client. -/

namespace Vix75

open EffectProgram

namespace Gateway

deriving instance DecidableEq for UpstreamRequest
deriving instance DecidableEq for Response
deriving instance DecidableEq for HttpxError

inductive GatewayEffect where
  /-- The clock of the host, in milliseconds. -/
  | now
  | uuid4
  | redis (command : RedisCommand)
  | upstream (request : UpstreamRequest)
  | send (response : Response)
deriving DecidableEq

@[reducible] def GatewayEffect.Reply : GatewayEffect → Type
  | .now => ℤ
  | .uuid4 => String
  | .redis command => command.Reply
  | .upstream _ => UpstreamResponse
  | .send _ => Unit

inductive Fault where
  | httpException (statusCode : ℕ) (detail : String) (headers : Fields)
  | httpx (error : HttpxError)
deriving DecidableEq

abbrev Program (α : Type) := Prog GatewayEffect GatewayEffect.Reply Fault α

abbrev await (effect : GatewayEffect) : Program effect.Reply := Prog.perform effect

def raisePy {α : Type} (error : PyError) : Program α := .raise (.httpx (.other error))

def redisHoisting : Hoisting RedisCommand RedisCommand.Reply PyError GatewayEffect
    GatewayEffect.Reply Fault where
  embed := .redis
  value := fun _ reply => reply
  fault := fun error => .httpx (.other error)
  recognise := fun fault => match fault with
    | .httpx (.other error) => some error
    | _ => none
  faithful := by
    rintro (_ | _ | _ | fault) error known
    all_goals simp_all

def upstreamHoisting : Hoisting ProxyEffect ProxyEffect.Reply HttpxError GatewayEffect
    GatewayEffect.Reply Fault where
  embed := fun effect => match effect with
    | .request upstream => .upstream upstream
  value := fun effect => match effect with
    | .request _ => fun reply => reply
  fault := .httpx
  recognise := fun fault => match fault with
    | .httpx error => some error
    | _ => none
  faithful := by
    rintro (_ | fault) error known
    all_goals simp_all

structure GatewaySettings where
  gatewayUsername : String := "vix-admin"
  gatewayPassword : String := "change-me-gateway"
  jwtSecret : String
  tokenExpireMinutes : ℤ := 60
  rateLimitPerMinute : ℤ := 100
  rateLimitWindowSeconds : ℤ := 60

structure Claims where
  sub : String
  iat : ℤ
  exp : ℤ
deriving DecidableEq

/-- PyJWT with HS256. `decode` is asked at an instant, in milliseconds, and requires `exp` and
`sub`; `none` is any `PyJWTError`. -/
structure Jwt where
  encode : Claims → String → String
  decode : ℤ → String → String → Option Claims

structure App where
  settings : GatewaySettings
  jwt : Jwt
  /-- `HTTPBearer(auto_error=False)` on the headers of a request. -/
  bearer : List (String × String) → Option String
  routes : Option Fields := none

def compareDigest (first second : String) : Program Bool :=
  if (first ++ second).toList.all fun char => decide (char.toNat < 128) then
    .done (decide (first = second))
  else raisePy (.typeError "comparing strings with non-ASCII characters is not supported")

namespace App

variable (app : App)

def expiresIn : ℤ := app.settings.tokenExpireMinutes * 60

def claimsAt (subject : String) (now : ℤ) : Claims where
  sub := subject
  iat := now / 1000
  exp := (now + app.expiresIn * 1000) / 1000

def createToken (subject : String) : Program (String × ℤ) := do
  let now ← await .now
  .done (app.jwt.encode (app.claimsAt subject now) app.settings.jwtSecret, app.expiresIn)

def rawToken (request : Request) : Option String :=
  match app.bearer request.headers with
  | some token => some token
  | none => (Fields.dict request.queryParams).lookup "token"

def verifyToken (request : Request) : Program Claims :=
  match (app.rawToken request).filter (· ≠ "") with
  | none => .raise (.httpException 401 "missing bearer token" [])
  | some token => do
      let now ← await .now
      match app.jwt.decode now token app.settings.jwtSecret with
      | some claims => .done claims
      | none => .raise (.httpException 401 "invalid or expired token" [])

def tokenResponse (token : String) (expiresIn : ℤ) : Response where
  content := ("\x7b\"access_token\":\"" ++ token ++
    "\",\"token_type\":\"bearer\",\"expires_in\":" ++ toString expiresIn ++ "\x7d").toUTF8
  statusCode := 200
  mediaType := some "application/json"

def issueToken (username password : String) : Program Response := do
  let userOk ← compareDigest username app.settings.gatewayUsername
  let passOk ← compareDigest password app.settings.gatewayPassword
  if ¬(userOk && passOk) then .raise (.httpException 401 "invalid credentials" [])
  else do
    let token ← app.createToken username
    .done (tokenResponse token.1 token.2)

/-- `health`; the application has a Redis client, given or made. -/
def health : Response where
  content := ("\x7b\"service\":\"api-gateway\",\"status\":\"ok\",\"redis\":\"up\"," ++
    "\"rate_limit_per_minute\":" ++ toString app.settings.rateLimitPerMinute ++ "\x7d").toUTF8
  statusCode := 200
  mediaType := some "application/json"

def limiter : RateLimit.SlidingWindowLimiter where
  limit := app.settings.rateLimitPerMinute
  windowS := app.settings.rateLimitWindowSeconds

def check (subject : String) : Program RateLimit.RateDecision := do
  let now ← await .now
  let suffix ← await .uuid4
  let member := toString now ++ "-" ++ String.ofList (suffix.toList.take 8)
  (app.limiter.check (RateLimit.keyOf subject) now member).hoist redisHoisting

def enforce (request : Request) (claims : Claims) : Program Unit := do
  let decision ← app.check claims.sub
  if decision.allowed then .done ()
  else do
    -- The default of `getattr` is evaluated whether it is needed or not.
    let fresh ← await .uuid4
    .raise (.httpException 429 "rate limit exceeded"
      [("Retry-After", toString decision.retryAfterS),
        (correlationHeader, request.stateCorrelationId.getD fresh)])

def proxied (service path : String) (request : Request) : Program Response := do
  let claims ← app.verifyToken request
  let _ ← app.enforce request claims
  (proxy app.routes service path request).hoist upstreamHoisting

end App

def jsonDetail (statusCode : ℕ) (detail : String) (headers : Fields) : Response where
  content := ("\x7b\"detail\":\"" ++ detail ++ "\"\x7d").toUTF8
  statusCode := statusCode
  mediaType := some "application/json"
  headers := headers

def setDefault (headers : Fields) (name value : String) : Fields :=
  match headers.lookup name with
  | some _ => headers
  | none => headers.set name value

def orNewCorrelationId : Option String → Program String
  | some id => .done id
  | none => await .uuid4

def handleException (request : Request) : Fault → Program Response
  | .httpException statusCode detail headers => do
      let id ← orNewCorrelationId (request.stateCorrelationId.filter (· ≠ ""))
      .done (jsonDetail statusCode detail (setDefault headers correlationHeader id))
  | fault => .raise fault

/-- `headers[name] = value` on the headers of a Starlette response: the first entry of that name,
whose case it ignores, is replaced and the others are dropped. -/
def setFirst (key value : String) : List (String × String) → List (String × String)
  | [] => [(key, value)]
  | entry :: rest =>
      if entry.1 = key then (key, value) :: rest.filter fun other => other.1 ≠ key
      else entry :: setFirst key value rest

def Response.stamp (response : Response) (correlationId : String) : Response :=
  { response with
    headers := setFirst correlationHeader.toLower correlationId
      (response.headers.map fun entry => (entry.1.toLower, entry.2)) }

def Request.incoming (request : Request) : Option String :=
  (header? request.headers correlationHeader).filter (· ≠ "")

/-- The middleware `correlation_header` around a handler. -/
def correlated (request : Request) (callNext : Request → Program Response) : Program Response := do
  let id ← orNewCorrelationId request.incoming
  let response ← callNext { request with stateCorrelationId := some id }
  .done (response.stamp id)

inductive GatewayRequest where
  | health (request : Request)
  | token (username password : String) (request : Request)
  | proxied (service path : String) (request : Request)
  /-- A request that FastAPI answers itself: another path or method, `/metrics`, the documentation,
  a body of `POST /token` that is no `TokenRequest`. -/
  | unhandled (response : Response) (request : Request)

def GatewayRequest.request : GatewayRequest → Request
  | .health request | .token _ _ request | .proxied _ _ request | .unhandled _ request => request

def internalServerError : Response where
  content := "Internal Server Error".toUTF8
  statusCode := 500
  mediaType := some "text/plain"

namespace App

variable (app : App)

/-- What a request is answered with, inside the middleware. -/
def route : GatewayRequest → Request → Program Response
  | .health _, _ => .done app.health
  | .token username password _, _ => app.issueToken username password
  | .proxied service path _, request => app.proxied service path request
  | .unhandled response _, _ => .done response

def serve (arrived : GatewayRequest) : Program Response :=
  correlated arrived.request fun request =>
    (app.route arrived request).rescue (handleException request)

def entry (request : GatewayRequest) : Program Unit := do
  let response ← (app.serve request).rescue fun _ => .done internalServerError
  await (.send response)

end App

/-! Any number of workers over one Redis -/

instance : (command : RedisCommand) → DecidableEq command.Reply
  | .zremrangebyscore _ _ => inferInstanceAs (DecidableEq ℕ)
  | .zadd _ _ _ => inferInstanceAs (DecidableEq ℕ)
  | .zcard _ => inferInstanceAs (DecidableEq ℕ)
  | .expire _ _ => inferInstanceAs (DecidableEq Bool)
  | .zrange _ => inferInstanceAs (DecidableEq (Option ScoredMember))

structure GatewayWorld where
  clock : ℤ
  keys : RateLimit.Keyspace := fun _ => {}

namespace GatewayWorld

/-- Upstream services answer as they like; a Redis command that fails may have been applied. -/
def answer (world : GatewayWorld) :
    (effect : GatewayEffect) → Except Fault effect.Reply → Option GatewayWorld
  | .now, .ok now => if now = world.clock then some world else none
  | .uuid4, .ok _ => some world
  | .redis command, .ok reply =>
      let answered := RateLimit.execute world.clock world.keys command
      if reply = answered.1 then some { world with keys := answered.2 } else none
  | .redis command, .error (.httpx (.other error)) =>
      some (if error.applied then
        { world with keys := (RateLimit.execute world.clock world.keys command).2 } else world)
  | .upstream _, .ok _ => some world
  | .upstream _, .error (.httpx _) => some world
  | .send _, .ok _ => some world
  | .send _, .error (.httpx (.other _)) => some world
  | _, .error _ => none

inductive Tick where
  | tick (later : ℤ)

def environment (world : GatewayWorld) : Tick → Option GatewayWorld
  | .tick later =>
      if world.clock ≤ later then some {
        clock := later
        keys := fun key => if (world.keys key).expired later then {} else world.keys key }
      else none

end GatewayWorld

def App.system (app : App) : System GatewayEffect GatewayEffect.Reply Fault GatewayWorld
    GatewayWorld.Tick GatewayRequest where
  entry := app.entry
  answer := GatewayWorld.answer
  environment := GatewayWorld.environment

abbrev GatewayLabel (Pid : Type) :=
  Label Pid GatewayEffect GatewayEffect.Reply Fault GatewayWorld.Tick GatewayRequest

abbrev GatewayConfig (Pid : Type) := Config Pid GatewayEffect GatewayEffect.Reply Fault GatewayWorld

end Gateway

end Vix75
