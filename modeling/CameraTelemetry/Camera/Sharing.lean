import CameraTelemetry.Cache.Machine
import CameraTelemetry.Camera.Client
import Mathlib.Logic.Function.Basic

/-!
# One client behind two caches

The cache of the temperature and the cache of the identity ask through the same client. Both move in
small steps, in any order, and between two steps anything may change outside, such as the file with
the credentials. Each step leaves an episode: the notes of the cache that moved, and what the client
did meanwhile.
-/
namespace CameraTelemetry.Camera

open Cache Journal Json

/-! ## What a client does -/

/-- The client turned to its surroundings. -/
inductive Deed
  /-- It asked for credentials. -/
  | acquired (result : Except FetchFailure Credentials)
  /-- It sent a request, which became of it after some time. -/
  | sent (request : Request) (exchange : Exchange) (delay : Duration)

structure Recorded (ν : Type) where
  world : ν
  deeds : List Deed

/-- The same surroundings, in which all deeds are put down. -/
def Surroundings.recorded {ν : Type} (w : Surroundings ν) : Surroundings (Recorded ν) where
  acquire := fun v => w.acquire v.world
  exchange := fun request v =>
    let (exchange, delay, world) := w.exchange request v.world
    (exchange, delay, ⟨world, v.deeds ++ [.sent request exchange delay]⟩)
  acquired := fun v => ⟨w.acquired v.world, v.deeds ++ [.acquired (w.acquire v.world)]⟩
  identityFaults := w.identityFaults

/-! ## Two metrics -/

inductive Metric
  | temperature
  | identity
deriving DecidableEq, Repr

namespace Metric

abbrev Value : Metric → Type
  | temperature => Number.Binary64
  | identity => DeviceInfo

def query (setup : ClientSetup) : Metric → Query
  | temperature => setup.temperatureQuery
  | identity => setup.deviceInfoQuery

def read (identityFaults : Wording) :
    (m : Metric) → String → Except FetchFailure m.Value × List Event
  | temperature => readTemperature
  | identity => fun body => (readDeviceInfo body identityFaults, [])

def remote {ν : Type} (w : Surroundings ν) (setup : ClientSetup) :
    (m : Metric) → Remote (Client ν) m.Value
  | temperature => Client.temperatureRemote w setup
  | identity => Client.deviceRemote w setup

theorem remote_eq {ν : Type} (w : Surroundings ν) (setup : ClientSetup) (m : Metric) :
    m.remote w setup =
      ⟨Client.send w setup (m.query setup) (m.read w.identityFaults), some (Client.renew w)⟩ := by
  cases m <;> rfl

end Metric

/-! ## Steps -/

structure Shared (ν : Type) where
  caches : (m : Metric) → Cache m.Value
  client : Client ν
  now : Instant

inductive Occurrence (ν : Type)
  /-- One of the caches moves. -/
  | step (m : Metric) (action : Action)
  /-- Something changes outside. -/
  | change (f : ν → ν)

/-- What happened in one step. -/
structure Episode where
  moment : Instant
  notes : (m : Metric) → List (Note m.Value)
  deeds : List Deed

namespace Shared

variable {ν : Type}

def start (world : ν) (now : Instant) : Shared ν := ⟨fun _ => .empty, ⟨none, world⟩, now⟩

/-- One of the caches with the client behind it, whose deeds are put down from now on. -/
def site (s : Shared ν) (m : Metric) : Site (Client (Recorded ν)) m.Value :=
  ⟨s.caches m, ⟨s.client.held, ⟨s.client.outside, []⟩⟩, s.now⟩

def step (w : Surroundings ν) (setup : ClientSetup) (policy : Metric → Policy) (s : Shared ν) :
    Occurrence ν → Shared ν × Episode
  | .step m action =>
    let (done, notes) := (s.site m).step (m.remote w.recorded setup) (policy m) action
    let outside := done.world.outside
    (⟨Function.update s.caches m done.cache, ⟨done.world.held, outside.world⟩, done.now⟩,
      ⟨s.now, Function.update (fun _ => []) m notes, outside.deeds⟩)
  | .change f =>
    ({ s with client.outside := f s.client.outside }, ⟨s.now, fun _ => [], []⟩)

def run (w : Surroundings ν) (setup : ClientSetup) (policy : Metric → Policy) (s : Shared ν) :
    List (Occurrence ν) → Shared ν × List Episode
  | [] => (s, [])
  | occurrence :: rest =>
    let (next, episode) := s.step w setup policy occurrence
    let (last, later) := next.run w setup policy rest
    (last, episode :: later)

end Shared

end CameraTelemetry.Camera
