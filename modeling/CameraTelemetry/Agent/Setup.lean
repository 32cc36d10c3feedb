import CameraTelemetry.Cache.Machine
import CameraTelemetry.Camera.Client
import CameraTelemetry.Health.Threshold
import CameraTelemetry.Journal.Filter
import CameraTelemetry.Settings.Basic

/-!
# The setup of an agent

What an agent is built from. Settings that switch the camera off leave out its caches, and with them
the checks of its temperature.
-/
namespace CameraTelemetry.Agent

open Journal

/-- What an agent does and under what names. A cache that is missing is not kept. -/
structure Setup where
  service : String
  hostname : String
  checks : List Health.Check
  dependencyPaths : List String
  temperature : Option Cache.Policy
  device : Option Cache.Policy
  /-- Which events are looked at at all. -/
  filter : Filter
  /-- Which of those are kept. -/
  logLimit : Level
deriving DecidableEq

namespace Setup

def target : String := "camwatch_agent::state"

def temperatureName : String := "temperature"

def deviceName : String := "device_info"

/-- The setup that settings ask for, and the event about it. -/
def ofSettings (s : Settings) (checks : List Health.Check) (hostname : String) (filter : Filter)
    (logLimit : Level) : Setup × Event :=
  let setup : Setup :=
    { service := s.serviceName
      hostname
      checks
      dependencyPaths := s.dependencyPaths
      temperature := some ⟨temperatureName, s.temperatureTtl, s.fetchTimeout⟩
      device := some ⟨deviceName, s.deviceTtl, s.fetchTimeout⟩
      filter
      logLimit }
  if s.cameraEnabled then
    (setup, ⟨.info, target, "VAPIX caches configured", [("url", .bare s.cameraUrl)]⟩)
  else
    ({ setup with
        checks := checks.filter (·.name ≠ Health.Check.temperature)
        temperature := none
        device := none },
      ⟨.info, target, "VAPIX disabled; temperature and device info are not collected", []⟩)

end Setup

def clientSetup (s : Settings) : Camera.ClientSetup :=
  ⟨s.cameraUrl, s.serviceName, s.fetchTimeout⟩

def credentialSource (s : Settings) : Camera.CredentialSource :=
  match s.credentialsFile with
  | some path => .file path
  | none => .standard

end CameraTelemetry.Agent
