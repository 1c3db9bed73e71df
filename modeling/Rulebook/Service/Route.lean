import Rulebook.Service.Request
import Rulebook.Service.Operation
import Rulebook.Text.Basic

/-! # Routes

A request over HTTP is routed by method and path, answered, and recorded: a span encloses what
was done for it, and its method, path and status are counted. The request keeps its identifier,
or gets one.
-/

namespace Rulebook.Service

structure HttpRequest where
  method : String
  path : String
  contentType : Option String
  requestId : Option String
  body : List UInt8

structure HttpResponse where
  status : Nat
  requestId : String
  body : String
deriving DecidableEq

/-- What comes from outside: an identifier that is new, and the microseconds of an evaluation. -/
structure Surroundings where
  freshId : String
  micros : Nat

structure Reply where
  status : Nat
  body : String
  activities : List Activity := []
  samples : List Sample := []

inductive Endpoint
  | compile
  | combine
  | evaluate
  | health
deriving DecidableEq

namespace Endpoint

def ofPath? (path : String) : Option Endpoint :=
  if path = "/api/rules/compile" then some .compile
  else if path = "/api/rules/combine" then some .combine
  else if path = "/api/rules/evaluate" then some .evaluate
  else if path = "/health" then some .health
  else none

/-- The methods of an endpoint; `HEAD` goes wherever `GET` goes. -/
def methods : Endpoint → List String
  | health => ["GET", "HEAD"]
  | _ => ["POST"]

end Endpoint

def maxBody : Nat := 2 * 1024 * 1024

def readBody {α : Type} (reader : Json.Document → Option α) (r : HttpRequest) :
    Except ServiceFault α :=
  if !(r.contentType.map MediaType.isJson).getD false then
    throw (.validation "Expected request with \x60Content-Type: application/json\x60")
  else if maxBody < r.body.length then
    throw (.validation "Failed to buffer the request body: length limit exceeded")
  else match Json.Document.read? reader (Text.ofBytes r.body) with
    | some a => return a
    | none => throw (.validation "<bad body>")

def Effect.reply (effect : Effect) : Reply :=
  match effect.result with
  | .ok success =>
    ⟨200, (envelope success.message success.data).print, effect.activities, effect.samples⟩
  | .error fault => ⟨fault.status, fault.toJson.print, effect.activities, effect.samples⟩

def perform {α : Type} (reader : Json.Document → Option α) (operation : α → Effect)
    (r : HttpRequest) : Reply :=
  match readBody reader r with
  | .ok a => (operation a).reply
  | .error fault => (Effect.mk (.error fault) [] []).reply

def dispatch (s : Service) (around : Surroundings) (r : HttpRequest) : Endpoint → Reply
  | .compile => perform CompileRequest.ofDocument? s.compile r
  | .combine => perform CombineRequest.ofDocument? s.combine r
  | .evaluate => perform EvaluateRequest.ofDocument? (s.evaluate around.micros) r
  | .health => ⟨200, if r.method = "HEAD" then "" else "OK", [], []⟩

/-- An unknown path is not found, and a known one may not allow the method. -/
def route (s : Service) (around : Surroundings) (r : HttpRequest) : Reply :=
  match Endpoint.ofPath? r.path with
  | none => ⟨404, "", [], []⟩
  | some endpoint =>
    if endpoint.methods.contains r.method then s.dispatch around r endpoint else ⟨405, "", [], []⟩

/-- Whether a text can be a request's identifier: visible ASCII, spaces and tabs. -/
def isIdentifier (text : String) : Bool :=
  text.toList.all fun c => c = '\t' || (0x20 ≤ c.toNat && c.toNat < 0x7f)

/-- The identifier that a request brings along, or a fresh one. -/
def identify (around : Surroundings) (requestId : Option String) : String :=
  (requestId.filter isIdentifier).getD around.freshId

/-- The span of a request, with its status and its latency once it is answered. -/
def requestSpan (method path : String) (status : Nat) : Span :=
  { level := .info, target := "rule_shared::observability::middleware", name := "http_request",
    fields := [("method", .plain method), ("uri", .plain path)],
    lateFields := [("status", .integer status)], hiddenFields := ["latency_ms"] }

/-- An answered request, with all that was done and counted for it. -/
structure Exchange where
  response : HttpResponse
  activity : Activity
  samples : List Sample

def handle (s : Service) (around : Surroundings) (r : HttpRequest) : Exchange :=
  let reply := s.route around r
  { response := ⟨reply.status, identify around r.requestId, reply.body⟩
    activity := .span (requestSpan r.method r.path reply.status) reply.activities
    samples := reply.samples ++ Sample.ofRequest r.method r.path reply.status }

end Rulebook.Service
