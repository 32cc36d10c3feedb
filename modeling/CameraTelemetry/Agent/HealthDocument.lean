import CameraTelemetry.Agent.Setup
import CameraTelemetry.Health.Measured

/-!
# The health document

The report of the checks and dependencies, together with what the host is and when it was asked. The
camera counts as a dependency while its temperature is kept: it is reachable if the temperature at
hand is not stale.
-/
namespace CameraTelemetry.Agent

open Health Host Json Number

structure HealthDocument where
  service : String
  hostname : String
  primaryInterface : Option String
  uptime : Option Binary64
  timestamp : String
  report : Report
deriving DecidableEq

def cameraService : String := "vapix"

def isCurrent (lookup : Except NoData (Cache.Lookup Binary64)) : Bool :=
  match lookup with
  | .ok l => !l.stale
  | .error _ => false

/-- The dependencies, the camera first. -/
def dependencies (temperature : Option (Except NoData (Cache.Lookup Binary64)))
    (reachable : String → Bool) (paths : List String) : List Dependency :=
  temperature.toList.map (fun lookup => ⟨cameraService, isCurrent lookup⟩)
    ++ paths.map fun path => ⟨path, reachable path⟩

def measuredTemperature (temperature : Option (Except NoData (Cache.Lookup Binary64))) :
    Option Binary64 :=
  (temperature.bind Except.toOption).map (·.value)

namespace HealthDocument

def of (setup : Setup) (reachable : String → Bool) (timestamp : String) (s : Snapshot)
    (temperature : Option (Except NoData (Cache.Lookup Binary64))) : HealthDocument :=
  { service := setup.service
    hostname := setup.hostname
    primaryInterface := s.primaryInterface?.map (·.name)
    uptime := s.uptime.toOption
    timestamp
    report := evaluate (.of s (measuredTemperature temperature)) setup.checks
      (dependencies temperature reachable setup.dependencyPaths) }

def toJson (d : HealthDocument) : Value :=
  .object [("service", .string d.service),
    ("host", .object [("hostname", .string d.hostname),
      ("primary_interface", .optional d.primaryInterface),
      ("uptime_secs", .optionalNumber d.uptime)]),
    ("status", .string d.report.overall.name), ("severity", .string d.report.overall.severity),
    ("timestamp", .string d.timestamp),
    ("checks", .array (d.report.results.map (·.toJson))),
    ("dependencies", .array (d.report.dependencies.map (·.toJson)))]

end HealthDocument

end CameraTelemetry.Agent
