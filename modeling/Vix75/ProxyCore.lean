import Vix75.EffectProgram
import Vix75.WireFormats

/-! The catch-all proxy of the gateway. A request and the answer of an upstream service are the
multi-valued views that Starlette and httpx give of them; what the proxy makes of them is a dict,
as in the source. -/

namespace Vix75

open EffectProgram

/-- `dict(pairs)`: a name keeps its first place and its last value. -/
def Fields.dict (pairs : List (String × String)) : Fields :=
  pairs.foldl (fun entries pair => entries.set pair.1 pair.2) []

def Fields.del (entries : Fields) (name : String) : Fields :=
  entries.filter fun entry => entry.1 ≠ name

namespace Gateway

def correlationHeader : String := "X-Correlation-Id"

def serviceRoutes : Fields :=
  [("signals", "http://signal-service:8000"),
    ("signal-service", "http://signal-service:8000"),
    ("risk", "http://risk-service:8000"),
    ("risk-service", "http://risk-service:8000"),
    ("ml", "http://ml-service:8000"),
    ("ml-service", "http://ml-service:8000"),
    ("data", "http://data-service:8000"),
    ("data-service", "http://data-service:8000"),
    ("features", "http://feature-service:8000"),
    ("feature-service", "http://feature-service:8000"),
    ("execution", "http://execution-service:8000"),
    ("execution-service", "http://execution-service:8000"),
    ("notify", "http://notify-service:8000"),
    ("notify-service", "http://notify-service:8000"),
    ("viz", "http://visualization-service:8000"),
    ("visualization-service", "http://visualization-service:8000")]

def hopByHop : List String :=
  ["connection", "keep-alive", "proxy-authenticate", "proxy-authorization", "te", "trailers",
    "transfer-encoding", "upgrade", "host", "content-length"]

def proxyTimeoutS : ℚ := 15

structure Request where
  method : String
  headers : List (String × String)
  queryParams : List (String × String)
  body : ByteArray
  stateCorrelationId : Option String := none

structure UpstreamRequest where
  method : String
  target : String
  params : Fields
  content : ByteArray
  headers : Fields
  timeout : ℚ

structure UpstreamResponse where
  statusCode : ℕ
  headers : Fields
  content : ByteArray

structure Response where
  content : ByteArray
  statusCode : ℕ
  mediaType : Option String
  headers : Fields := []
  aclose : Bool := false

/-- What `client.request` raises: the timeouts, the rest of `httpx.HTTPError`, and anything
that is not one. -/
inductive HttpxError where
  | timeoutException
  | httpError
  | other (error : PyError)

inductive ProxyEffect where
  | request (upstream : UpstreamRequest)

abbrev ProxyEffect.Reply : ProxyEffect → Type
  | .request _ => UpstreamResponse

def header? (headers : List (String × String)) (name : String) : Option String :=
  (headers.find? fun entry => entry.1.toLower = name.toLower).map Prod.snd

def safeHeaders (headers : List (String × String)) : Fields :=
  Fields.dict (headers.filter fun entry => entry.1.toLower ∉ hopByHop)

def Request.correlationId (request : Request) : String :=
  (request.stateCorrelationId.filter (· ≠ "")).getD
    ((header? request.headers correlationHeader).getD "")

def Request.forwardHeaders (request : Request) : Fields :=
  let forwarded := safeHeaders request.headers
  let names := (forwarded.map Prod.fst).filter fun name =>
    name.toLower = correlationHeader.toLower
  (names.foldl Fields.del forwarded).set correlationHeader request.correlationId

def Request.upstream (request : Request) (base path : String) : UpstreamRequest where
  method := request.method
  target := base ++ "/" ++ path
  params := Fields.dict request.queryParams
  content := request.body
  headers := request.forwardHeaders
  timeout := proxyTimeoutS

def routeMap : Option Fields → Fields
  | none => serviceRoutes
  | some [] => serviceRoutes
  | some routes => routes

def unknownService (service : String) : Response where
  content := ("\x7b\"detail\":\"unknown service " ++ service ++ "\"\x7d").toUTF8
  statusCode := 404
  mediaType := some "application/json"

def upstreamTimeout (correlationId : String) : Response where
  content := ("\x7b\"detail\":\"upstream timeout\"\x7d").toUTF8
  statusCode := 504
  mediaType := some "application/json"
  headers := [(correlationHeader, correlationId)]

def upstreamUnavailable (correlationId : String) : Response where
  content := ("\x7b\"detail\":\"upstream unavailable\"\x7d").toUTF8
  statusCode := 502
  mediaType := some "application/json"
  headers := [(correlationHeader, correlationId)]

def UpstreamResponse.relay (upstream : UpstreamResponse) (correlationId : String) : Response where
  content := upstream.content
  statusCode := upstream.statusCode
  mediaType := header? upstream.headers "content-type"
  headers := (safeHeaders upstream.headers).set correlationHeader correlationId
  aclose := true

def proxy (routes : Option Fields) (service path : String) (request : Request) :
    Prog ProxyEffect ProxyEffect.Reply HttpxError Response :=
  match (routeMap routes).lookup service with
  | none => .done (unknownService service)
  | some base => .call (.request (request.upstream base path)) fun
      | .ok upstream => .done (upstream.relay request.correlationId)
      | .error .timeoutException => .done (upstreamTimeout request.correlationId)
      | .error .httpError => .done (upstreamUnavailable request.correlationId)
      | .error (.other error) => .raise (.other error)

end Gateway

end Vix75
