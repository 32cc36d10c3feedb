import CameraTelemetry.Cache.Machine
import CameraTelemetry.Camera.Answer
import CameraTelemetry.Exposition.MetricSet
import CameraTelemetry.Host.Snapshot

/-!
# What one scrape shows

The observations made of a snapshot of the host, of what the caches answered, and of the agent's own
counters. A family that failed has no observation of its own, only the one that its source is down.
-/
namespace CameraTelemetry.Agent

open Exposition (Observation MetricSet)
open Host Journal Number

/-- The answer of one cache to a scrape, and what the cache has counted by then. -/
structure Feed (α : Type) where
  cache : String
  lookup : Except NoData (Cache.Lookup α)
  counters : Cache.Counters

/-- What a scrape gathers. A feed that is missing is not kept. -/
structure Scrape where
  snapshot : Snapshot
  temperature : Option (Feed Binary64)
  device : Option (Feed Camera.DeviceInfo)
  requests : Nat

def flag (b : Bool) : Binary64 := if b then 1 else 0

/-! ## The host -/

def ofResult {α : Type} (result : Except SourceFailure α) (observe : α → List Observation) :
    List Observation :=
  match result with
  | .ok a => observe a
  | .error _ => []

def bytes (n : UInt64) : Binary64 := .ofNat n.toNat

def memoryObservations (m : Memory) : List Observation :=
  [.gauge "camwatch_memory_total_bytes" "Total physical memory" [] (bytes m.total),
    .gauge "camwatch_memory_available_bytes" "Memory available for new allocations" []
      (bytes m.available)]

def loadObservations (l : Load) : List Observation :=
  [.gauge "camwatch_load_average_1m" "1 minute load average" [] l.one,
    .gauge "camwatch_load_average_5m" "5 minute load average" [] l.five,
    .gauge "camwatch_load_average_15m" "15 minute load average" [] l.fifteen]

def filesystemObservations (f : Filesystem) : List Observation :=
  let labels := [("path", f.mountPoint)]
  [.gauge "camwatch_disk_total_bytes" "Filesystem size" labels (bytes f.total),
    .gauge "camwatch_disk_free_bytes" "Filesystem space available to unprivileged users" labels
      (bytes f.available)]

def interfaceObservations (i : Interface) : List Observation :=
  let labels := [("interface", i.name)]
  [.counter "camwatch_network_rx_bytes_total" "Bytes received" labels i.rxBytes,
    .counter "camwatch_network_rx_packets_total" "Packets received" labels i.rxPackets,
    .counter "camwatch_network_rx_errors_total" "Receive errors" labels i.rxErrors,
    .counter "camwatch_network_tx_bytes_total" "Bytes transmitted" labels i.txBytes,
    .counter "camwatch_network_tx_packets_total" "Packets transmitted" labels i.txPackets,
    .counter "camwatch_network_tx_errors_total" "Transmit errors" labels i.txErrors]

def ofFamily (s : Snapshot) : Family → List Observation
  | .uptime => ofResult s.uptime fun x =>
    [.gauge "camwatch_uptime_seconds" "Seconds since boot" [] x]
  | .memory => ofResult s.memory memoryObservations
  | .load => ofResult s.load loadObservations
  | .cpu => s.cpu.percent?.toList.map fun x =>
    .gauge "camwatch_cpu_usage_percent" "CPU busy share since the previous scrape" [] x
  | .network => ofResult s.network (·.flatMap interfaceObservations)
  | .filesystem => ofResult s.filesystem filesystemObservations
  | .processes => ofResult s.processes fun n =>
    [.gauge "camwatch_process_count" "Number of processes" [] (.ofNat n.toNat)]

def shownFamilies : List Family :=
  [.uptime, .memory, .load, .cpu, .filesystem, .processes, .network]

def ofSnapshot (s : Snapshot) : List Observation := shownFamilies.flatMap (ofFamily s)

/-! ## The camera -/

def Feed.found? {α : Type} (f : Feed α) : Option (Cache.Lookup α) := f.lookup.toOption

def temperatureObservations (l : Cache.Lookup Binary64) : List Observation :=
  [.gauge "camwatch_temperature_celsius" "Camera sensor temperature in degrees Celsius" [] l.value,
    .gauge "camwatch_temperature_stale"
      "1 when the temperature is the last known value past its TTL" [] (flag l.stale)]

def deviceObservation (d : Camera.DeviceInfo) : Observation :=
  .gauge "camwatch_device_info" "Camera identity, always 1"
    [("serial", d.serialNumber.getD ""), ("firmware", d.firmwareVersion.getD ""),
      ("model", d.model.getD ""), ("architecture", d.architecture.getD ""),
        ("soc", d.soc.getD "")] 1

/-! ## The sources and the agent -/

def sourceObservation (source : String) (up : Bool) : Observation :=
  .gauge "camwatch_source_up" "1 when the source produced a value on this scrape"
    [("source", source)] (flag up)

def feedSource {α : Type} (name : String) (feed : Option (Feed α)) : List Observation :=
  feed.toList.map fun f => sourceObservation name f.found?.isSome

def fetchObservations (cache : String) (c : Cache.Counters) : List Observation :=
  let labels := [("source", cache)]
  [.counter "camwatch_remote_fetches_total" "Remote fetch attempts, retries included" labels
      (.ofNat c.fetches),
    .counter "camwatch_remote_fetch_failures_total" "Refreshes that ended without a new value"
      labels
      (.ofNat c.failures)]

def feedFetches {α : Type} (feed : Option (Feed α)) : List Observation :=
  feed.toList.flatMap fun f => fetchObservations f.cache f.counters

namespace Scrape

def observations (s : Scrape) : List Observation :=
  ofSnapshot s.snapshot
    ++ (s.temperature.bind (·.found?)).toList.flatMap temperatureObservations
    ++ (s.device.bind (·.found?)).toList.map (deviceObservation ·.value)
    ++ s.snapshot.sources.map (fun (family, up) => sourceObservation family.name up)
    ++ feedSource "temperature" s.temperature
    ++ feedSource "device_info" s.device
    ++ feedFetches s.temperature
    ++ feedFetches s.device
    ++ [.counter "camwatch_http_requests_total" "HTTP requests served" [] (.ofNat s.requests)]

/-- The metric set of a scrape, and the warnings about observations that are not in it. -/
def metrics (s : Scrape) : MetricSet × List Event := MetricSet.empty.addAll s.observations

end Scrape

end CameraTelemetry.Agent
