import CameraTelemetry.Host.Snapshot
import CameraTelemetry.Journal.Event

/-!
# The sampler

Polls the families of a host one after the other, the processor first. A failed family is reported
by a warning and leaves the others alone; a failed read of the processor leaves the earlier sample
in place for the next one to be compared with.
-/
namespace CameraTelemetry.Host

open Journal

/-- The sampler keeps the latest processor sample between polls. -/
structure Sampler where
  tracker : Cpu.Tracker
deriving DecidableEq, Repr

/-- What a poll leaves: the snapshot, or the payload of the panic that ended it, with the events
emitted by then. -/
structure Poll where
  outcome : Except String Snapshot
  sampler : Sampler
  events : List Event

namespace Sampler

def empty : Sampler := ⟨.empty⟩

def target : String := "camwatch_agent::sampler"

private def warning (message : String) (fields : List (String × FieldValue)) : Event :=
  ⟨.warn, target, message, fields⟩

def cpuWarning (e : SourceFailure) : Event :=
  warning ("cpu sample failed: " ++ e.message) []

def familyWarning (e : SourceFailure) : Event :=
  warning ("local source failed: " ++ e.message) [("source", .bare e.source.name)]

def readOthers (r : Readings) (usage : Cpu.Usage) : Except String Snapshot :=
  match r.uptime.result with
  | .error payload => .error payload
  | .ok uptime => match r.memory.result with
  | .error payload => .error payload
  | .ok memory => match r.load.result with
  | .error payload => .error payload
  | .ok load => match r.network.result with
  | .error payload => .error payload
  | .ok network => match r.filesystem.result with
  | .error payload => .error payload
  | .ok filesystem => match r.processes.result with
  | .error payload => .error payload
  | .ok processes => .ok ⟨uptime, memory, load, usage, network, filesystem, processes⟩

/-- The rest of a poll, after the read of the processor. -/
def finish (r : Readings) (usage : Cpu.Usage) (sampler : Sampler) (events : List Event) : Poll :=
  match readOthers r usage with
  | .error payload => ⟨.error payload, sampler, events⟩
  | .ok snapshot => ⟨.ok snapshot, sampler, events ++ snapshot.failures.map familyWarning⟩

def sample (s : Sampler) (r : Readings) : Poll :=
  match r.cpu with
  | .panicked payload => ⟨.error payload, s, []⟩
  | .failed e => finish r (.unknown .sourceUnavailable) s [cpuWarning e]
  | .value ticks =>
    let (usage, tracker) := s.tracker.observe ticks
    finish r usage ⟨tracker⟩ []

def after (s : Sampler) : List Readings → Sampler
  | [] => s
  | r :: rest => (s.sample r).sampler.after rest

def polls (s : Sampler) : List Readings → List Poll
  | [] => []
  | r :: rest => s.sample r :: (s.sample r).sampler.polls rest

end Sampler

end CameraTelemetry.Host
