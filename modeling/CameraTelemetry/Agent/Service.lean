import CameraTelemetry.Agent.Basic
import CameraTelemetry.Exposition.TextFormat
import CameraTelemetry.Http.Form
import CameraTelemetry.Http.Message
import CameraTelemetry.Number.Count

/-!
# The service

Four documents are served, each under its path: the metrics, the health document, the identity of
the camera and the latest events. They can be got and nothing else, and every request is counted,
also one that is refused.
-/
namespace CameraTelemetry.Agent

open Exposition Http Journal Number

inductive Route
  | metrics
  | health
  | device
  | logs
deriving DecidableEq, Repr

def Route.ofPath? (path : String) : Option Route :=
  if path = "/metrics" then some metrics
  else if path = "/health" then some health
  else if path = "/device" then some device
  else if path = "/logs" then some logs
  else none

def serviceTarget : String := "camwatch_agent::http"

def requestEvent (r : Http.Request) : Event :=
  ⟨.debug, serviceTarget, "request", [("method", .bare r.method), ("path", .bare r.path)]⟩

def encodingFailedEvent (e : RenderError) : Event :=
  ⟨.error, serviceTarget, "encoding metrics failed", [("error", .bare e.message)]⟩

inductive QueryError
  | badLimit (e : CountError)
  | duplicateLimit
deriving DecidableEq, Repr

def QueryError.message : QueryError → String
  | badLimit e => "Failed to deserialize query string: " ++ e.message
  | duplicateLimit => "Failed to deserialize query string: duplicate field \x60limit\x60"

def readLimit : Option Nat → List (String × String) → Except QueryError (Option Nat)
  | found, [] => .ok found
  | found, (name, value) :: rest =>
    if name ≠ "limit" then readLimit found rest
    else if found.isSome then .error .duplicateLimit
    else match readCount maxCount value.toList with
      | .error e => .error (.badLimit e)
      | .ok n => readLimit (some n) rest

def logsDocument (entries : List Entry) : Json.Value :=
  .object [("count", .count entries.length), ("logs", .array (entries.map Entry.toJson))]

def deviceDocument (l : Cache.Lookup Camera.DeviceInfo) : Json.Value :=
  .object [("device", l.value.toJson), ("stale", .bool l.stale),
    ("age_secs", .count l.age.wholeSecs)]

section

variable {ω : Type}

def getMetrics (setup : Setup) (w : Surroundings ω) (a : Agent ω) : Response × Agent ω :=
  let (scrape, a) := a.scrape setup w
  let (set, dropped) := scrape.metrics
  let (text, more) := set.render
  match text with
  | .ok text => (.text 200 Exposition.contentType text, a.record setup w (dropped ++ more))
  | .error e =>
    (.failure 500 e.message, a.record setup w (dropped ++ more ++ [encodingFailedEvent e]))

/-- The verdict is in the body: a bad one does not show in the status. -/
def getHealth (setup : Setup) (w : Surroundings ω) (a : Agent ω) : Response × Agent ω :=
  let (document, a) := a.health setup w
  (.json 200 document.toJson, a)

def getDevice (setup : Setup) (w : Surroundings ω) (a : Agent ω) : Response × Agent ω :=
  match a.askDevice setup w with
  | (none, a) => (.failure 503 "device info collection is disabled", a)
  | (some feed, a) =>
    match feed.lookup with
    | .ok l => (.json 200 (deviceDocument l), a)
    | .error e => (.failure 503 e.message, a)

def getLogs (query : String) (a : Agent ω) : Response :=
  match readLimit none (parseForm query) with
  | .ok limit => .json 200 (logsDocument (a.journal.recent (limit.getD Ring.defaultCapacity)))
  | .error e => .text 400 "text/plain; charset=utf-8" e.message

def get (setup : Setup) (w : Surroundings ω) (query : String) (a : Agent ω) :
    Route → Response × Agent ω
  | .metrics => a.getMetrics setup w
  | .health => a.getHealth setup w
  | .device => a.getDevice setup w
  | .logs => (a.getLogs query, a)

/-- The response to a request by its path and method. A request for the head alone is answered as
any other and the body left out, but only where there is a document: a path without one is refused
with its reason. -/
def respond (setup : Setup) (w : Surroundings ω) (r : Http.Request) (a : Agent ω) :
    Response × Agent ω :=
  match Route.ofPath? r.path with
  | none => (.failure 404 "not found", a)
  | some route =>
    if r.method = "GET" then a.get setup w r.query route
    else if r.method = "HEAD" then
      let (response, a) := a.get setup w r.query route
      (response.withoutBody, a)
    else (.methodNotAllowed "GET,HEAD", a)

def serve (setup : Setup) (w : Surroundings ω) (r : Http.Request) (a : Agent ω) :
    Response × Agent ω :=
  let counted := { a with requests := a.requests + 1 }
  (counted.record setup w [requestEvent r]).respond setup w r

end

end CameraTelemetry.Agent
