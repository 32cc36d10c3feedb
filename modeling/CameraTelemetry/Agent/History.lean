import CameraTelemetry.Agent.Service

/-!
# Runs of an agent

Requests come one after the other, and between them time passes and the outside changes. A run
leaves behind what it served, each request with what the host would have answered when it came.
-/
namespace CameraTelemetry.Agent

open Host

inductive Happening (ω : Type)
  | request (r : Http.Request)
  | pass (time : Duration)
  /-- Something changes outside. -/
  | turn (world : ω)

structure Served where
  request : Http.Request
  readings : Readings
  response : Http.Response

def document? (r : Http.Request) : Option Route :=
  if r.method = "GET" ∨ r.method = "HEAD" then Route.ofPath? r.path else none

def Route.polls : Route → Bool
  | metrics | health => true
  | device | logs => false

def Served.polls (x : Served) : Bool := (document? x.request).any Route.polls

section

variable {ω : Type}

def step (setup : Setup) (w : Surroundings ω) (a : Agent ω) : Happening ω → Agent ω × List Served
  | .request r =>
    let (response, next) := a.serve setup w r
    (next, [⟨r, w.readings a.world, response⟩])
  | .pass time => (a.pass time, [])
  | .turn world => ({ a with world }, [])

def run (setup : Setup) (w : Surroundings ω) (a : Agent ω) :
    List (Happening ω) → Agent ω × List Served
  | [] => (a, [])
  | happening :: rest =>
    let (next, served) := a.step setup w happening
    let (last, later) := next.run setup w rest
    (last, served ++ later)

end

end CameraTelemetry.Agent
