import CameraTelemetry.Agent.HealthDocument
import CameraTelemetry.Agent.Scrape
import CameraTelemetry.Cache.Schedule
import CameraTelemetry.Host.Sampler
import CameraTelemetry.Journal.Ring

/-!
# The agent

An agent keeps a sampler of the host, a cache for each metric of the camera, the latest events and a
count of the requests it has seen. It serves one request after the other: whoever asks a cache waits
for the answer, so that no refresh is under way between requests.
-/
namespace CameraTelemetry.Agent

open Cache Host Journal Number

/-- What surrounds an agent: what the host would answer now, which paths can be opened, the sources
of the camera's metrics, and how a moment is written. -/
structure Surroundings (ω : Type) where
  readings : ω → Readings
  reachable : ω → String → Bool
  temperature : Remote ω Binary64
  device : Remote ω Camera.DeviceInfo
  timestamp : Instant → String

def metricsTarget : String := "camwatch_agent::metrics"

def pollFailedEvent (reason : String) : Event :=
  ⟨.warn, metricsTarget, "local sampling task failed: " ++ reason, []⟩

/-- One caller asks a cache and waits for the answer. The note of it is there at the end of every
run; failing that, the entry at hand would be the answer. -/
def ask {ω α : Type} (r : Remote ω α) (p : Policy) (s : Site ω α) :
    Feed α × Site ω α × List Event :=
  let (done, notes) := s.getAll r p [0]
  let lookup := (Site.answerTo 0 notes).getD (resolve p.name done.cache.entry (.ok ()) done.now)
  (⟨p.name, lookup, done.cache.counters⟩, done, Cache.events p notes)

end CameraTelemetry.Agent

namespace CameraTelemetry

open Agent Cache Host Journal Number

structure Agent (ω : Type) where
  sampler : Sampler
  temperature : Cache Binary64
  device : Cache Camera.DeviceInfo
  journal : Ring
  requests : Nat
  now : Instant
  world : ω

namespace Agent

variable {ω : Type}

def start (capacity : Nat) (now : Instant) (world : ω) : Agent ω :=
  ⟨.empty, .empty, .empty, .empty capacity, 0, now, world⟩

def record (setup : Setup) (w : Surroundings ω) (events : List Event) (a : Agent ω) : Agent ω :=
  let wanted := events.filter setup.filter.passes
  { a with journal := a.journal.recordAll setup.logLimit (w.timestamp a.now) wanted }

def pass (time : Duration) (a : Agent ω) : Agent ω := { a with now := a.now + time.nanos }

/-- Polls the host. A poll that ends by a panic leaves a snapshot without readings. -/
def poll (setup : Setup) (w : Surroundings ω) (a : Agent ω) : Snapshot × Agent ω :=
  let poll := a.sampler.sample (w.readings a.world)
  let polled := { a with sampler := poll.sampler }
  match poll.outcome with
  | .ok snapshot => (snapshot, polled.record setup w poll.events)
  | .error payload =>
    let reason := panickedTask payload
    (.unavailable reason, polled.record setup w (poll.events ++ [pollFailedEvent reason]))

def askTemperature (setup : Setup) (w : Surroundings ω) (a : Agent ω) :
    Option (Feed Binary64) × Agent ω :=
  match setup.temperature with
  | none => (none, a)
  | some p =>
    let (feed, site, events) := ask w.temperature p ⟨a.temperature, a.world, a.now⟩
    let asked := { a with temperature := site.cache, world := site.world, now := site.now }
    (some feed, asked.record setup w events)

def askDevice (setup : Setup) (w : Surroundings ω) (a : Agent ω) :
    Option (Feed Camera.DeviceInfo) × Agent ω :=
  match setup.device with
  | none => (none, a)
  | some p =>
    let (feed, site, events) := ask w.device p ⟨a.device, a.world, a.now⟩
    let asked := { a with device := site.cache, world := site.world, now := site.now }
    (some feed, asked.record setup w events)

def scrape (setup : Setup) (w : Surroundings ω) (a : Agent ω) : Scrape × Agent ω :=
  let (snapshot, a) := a.poll setup w
  let (temperature, a) := a.askTemperature setup w
  let (device, a) := a.askDevice setup w
  (⟨snapshot, temperature, device, a.requests⟩, a)

def health (setup : Setup) (w : Surroundings ω) (a : Agent ω) : HealthDocument × Agent ω :=
  let (snapshot, a) := a.poll setup w
  let (temperature, a) := a.askTemperature setup w
  (.of setup (w.reachable a.world) (w.timestamp a.now) snapshot (temperature.map (·.lookup)), a)

end Agent

end CameraTelemetry
