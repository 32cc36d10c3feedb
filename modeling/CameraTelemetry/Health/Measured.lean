import CameraTelemetry.Health.Report
import CameraTelemetry.Host.Snapshot

/-!
# The measurements of a snapshot

The names under which a snapshot of the host and the temperature of the camera are judged. A family
that failed has no measurement.
-/
namespace CameraTelemetry.Health

open Number

def mebibytes (bytes : UInt64) : Binary64 := .ofNat bytes.toNat / .ofNat (2 ^ 20)

private def entry (name : String) (value : Option Binary64) : Measurements :=
  (value.map fun v => (name, v)).toList

def Measurements.of (s : Host.Snapshot) (temperature : Option Binary64) : Measurements :=
  entry "memory_available_mb" (s.memory.toOption.map fun m => mebibytes m.available)
    ++ entry "disk_free_mb" (s.filesystem.toOption.map fun f => mebibytes f.available)
    ++ entry "cpu_usage_percent" s.cpu.percent?
    ++ entry "load_average_1m" (s.load.toOption.map (·.one))
    ++ entry Check.temperature temperature

end CameraTelemetry.Health
