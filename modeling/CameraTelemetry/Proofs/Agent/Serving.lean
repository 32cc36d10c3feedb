import CameraTelemetry.Agent.History
import CameraTelemetry.Proofs.Host.Baseline

/-!
# What serving does

The sampler of an agent changes by the polls of the requests it serves and by nothing else. After a
run it is therefore the sampler that has polled once for each of them.
-/
namespace CameraTelemetry.Agent

open Exposition (MetricSet)
open Host Http

variable {ω : Type} {setup : Setup} {w : Surroundings ω} {a : Agent ω}

@[simp] theorem record_sampler (events : List Journal.Event) :
    (a.record setup w events).sampler = a.sampler := rfl

@[simp] theorem record_world (events : List Journal.Event) :
    (a.record setup w events).world = a.world := rfl

@[simp] theorem poll_sampler :
    (a.poll setup w).2.sampler = (a.sampler.sample (w.readings a.world)).sampler := by
  simp only [poll]
  split <;> rfl

/-- A poll that comes to an end is the snapshot; after any other one the usage is unknown. -/
theorem poll_snapshot :
    (a.poll setup w).1 =
      match (a.sampler.sample (w.readings a.world)).outcome with
      | .ok snapshot => snapshot
      | .error payload => .unavailable (panickedTask payload) := by
  simp only [poll]
  split <;> simp [*]

@[simp] theorem askTemperature_sampler : (a.askTemperature setup w).2.sampler = a.sampler := by
  unfold askTemperature
  split <;> rfl

@[simp] theorem askDevice_sampler : (a.askDevice setup w).2.sampler = a.sampler := by
  unfold askDevice
  split <;> rfl

@[simp] theorem scrape_snapshot : (a.scrape setup w).1.snapshot = (a.poll setup w).1 := rfl

@[simp] theorem scrape_sampler :
    (a.scrape setup w).2.sampler = (a.sampler.sample (w.readings a.world)).sampler := by
  simp [scrape]

@[simp] theorem health_sampler :
    (a.health setup w).2.sampler = (a.sampler.sample (w.readings a.world)).sampler := by
  simp [health]

def shown (set : MetricSet) : Response :=
  match set.render.1 with
  | .ok text => .text 200 Exposition.contentType text
  | .error e => .failure 500 e.message

theorem getMetrics_response :
    (a.getMetrics setup w).1 = shown (a.scrape setup w).1.metrics.1 := by
  simp only [getMetrics, shown]
  split <;> simp [*]

@[simp] theorem getMetrics_sampler :
    (a.getMetrics setup w).2.sampler = (a.sampler.sample (w.readings a.world)).sampler := by
  simp only [getMetrics]
  split <;> simp

@[simp] theorem getHealth_sampler :
    (a.getHealth setup w).2.sampler = (a.sampler.sample (w.readings a.world)).sampler := by
  simp [getHealth]

@[simp] theorem getDevice_sampler : (a.getDevice setup w).2.sampler = a.sampler := by
  have kept : (a.askDevice setup w).2.sampler = a.sampler := askDevice_sampler
  unfold getDevice
  split
  · simp_all
  · split <;> simp_all

theorem get_sampler (query : String) (route : Route) :
    (a.get setup w query route).2.sampler =
      if route.polls then (a.sampler.sample (w.readings a.world)).sampler else a.sampler := by
  cases route <;> simp [get, Route.polls]

theorem serve_sampler (r : Request) :
    (a.serve setup w r).2.sampler =
      if (document? r).any Route.polls then (a.sampler.sample (w.readings a.world)).sampler
      else a.sampler := by
  unfold serve respond document?
  split
  case h_1 unknown => simp [unknown]
  case h_2 route known =>
    by_cases get : r.method = "GET"
    · simp [get, known, get_sampler]
    · by_cases head : r.method = "HEAD"
      · simp [head, known, get_sampler]
      · simp [get, head]

/-- The agent once it has taken notice of a request. -/
def noticed (setup : Setup) (w : Surroundings ω) (r : Request) (a : Agent ω) : Agent ω :=
  { a with requests := a.requests + 1 }.record setup w [requestEvent r]

theorem serve_metrics {r : Request} (get : r.method = "GET")
    (path : Route.ofPath? r.path = some .metrics) :
    (a.serve setup w r).1 = shown ((noticed setup w r a).scrape setup w).1.metrics.1 := by
  rw [← getMetrics_response]
  simp [serve, respond, get, path, Agent.get, noticed]

def polled (h : List Served) : List Readings := (h.filter Served.polls).map (·.readings)

theorem step_sampler (setup : Setup) (w : Surroundings ω) (a : Agent ω)
    (happening : Happening ω) :
    (a.step setup w happening).1.sampler =
      a.sampler.after (polled (a.step setup w happening).2) := by
  cases happening with
  | request r =>
    simp only [step, serve_sampler, polled]
    split <;> simp [*, Served.polls, Sampler.after]
  | pass time => rfl
  | turn world => rfl

theorem run_sampler (setup : Setup) (w : Surroundings ω) (a : Agent ω)
    (happenings : List (Happening ω)) :
    (a.run setup w happenings).1.sampler =
      a.sampler.after (polled (a.run setup w happenings).2) := by
  induction happenings generalizing a with
  | nil => rfl
  | cons happening rest ih =>
    simp only [run, ih, step_sampler]
    simp [polled, Sampler.after_append]

end CameraTelemetry.Agent
