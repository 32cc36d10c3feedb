import CameraTelemetry.Cpu.Usage
import CameraTelemetry.Host.Reading

/-!
# Snapshots of the host

The host counters of one poll. A family that failed keeps its failure, and a snapshot that could not
be taken at all has every family failed for the same reason.
-/
namespace CameraTelemetry.Host

open Number

structure Snapshot where
  uptime : Except SourceFailure Binary64
  memory : Except SourceFailure Memory
  load : Except SourceFailure Load
  cpu : Cpu.Usage
  network : Except SourceFailure (List Interface)
  filesystem : Except SourceFailure Filesystem
  processes : Except SourceFailure UInt64

namespace Snapshot

def failure? {α : Type} : Except SourceFailure α → Option SourceFailure
  | .error e => some e
  | .ok _ => none

def failures (s : Snapshot) : List SourceFailure :=
  [failure? s.uptime, failure? s.memory, failure? s.load, failure? s.network,
    failure? s.filesystem, failure? s.processes].filterMap id

/-- Each family with whether it was read. The processor was read even when its usage is unknown for
want of a useful earlier sample. -/
def sources (s : Snapshot) : List (Family × Bool) :=
  [(.uptime, s.uptime.isOk), (.memory, s.memory.isOk), (.load, s.load.isOk),
    (.cpu, s.cpu != .unknown .sourceUnavailable), (.network, s.network.isOk),
    (.filesystem, s.filesystem.isOk), (.processes, s.processes.isOk)]

/-- The busier of two interfaces; of two equally busy ones the one whose name comes first, and of
two that agree in this too the second. -/
def busier (a b : Interface) : Interface :=
  if b.rxBytes < a.rxBytes then a
  else if a.rxBytes < b.rxBytes then b
  else if a.name < b.name then a
  else b

/-- The busiest interface of a list by bytes received, loopback apart. -/
def busiest? (interfaces : List Interface) : Option Interface :=
  match interfaces.filter (!·.isLoopback) with
  | [] => none
  | first :: rest => some (rest.foldl busier first)

def primaryInterface? (s : Snapshot) : Option Interface :=
  match s.network with
  | .ok interfaces => busiest? interfaces
  | .error _ => none

/-- The snapshot of a poll that could not be carried out. -/
def unavailable (reason : String) : Snapshot :=
  let down (f : Family) : SourceFailure := .unavailable f "sampler" reason
  { uptime := .error (down .uptime)
    memory := .error (down .memory)
    load := .error (down .load)
    cpu := .unknown .sourceUnavailable
    network := .error (down .network)
    filesystem := .error (down .filesystem)
    processes := .error (down .processes) }

end Snapshot

end CameraTelemetry.Host
