import CameraTelemetry.Agent.Basic
import CameraTelemetry.Camera.Client

/-!
# Serving from a transcript

An agent decides by itself which requests it sends to the camera. What surrounds it while it serves
one request is written down beforehand: the readings of the host, the paths that can be opened, the
credentials file, and the exchanges with the camera so far. If an exchange is missing, the agent
says which, and its request is served once more when that is known.
-/
namespace CameraTelemetry.Agent

open Camera

/-- What is known outside of an agent while it serves a request. -/
structure Transcript where
  readings : Host.Readings
  openPaths : List String
  credentialsFile : FileText
  /-- The exchanges that are known and not yet used, with the time each of them took. -/
  exchanges : List (Exchange × Duration)
  /-- The first request without a known exchange. -/
  missing : Option Camera.Request

namespace Transcript

def exchange (r : Camera.Request) (t : Transcript) : Exchange × Duration × Transcript :=
  match t.exchanges with
  | (e, time) :: rest => (e, time, { t with exchanges := rest })
  | [] => (.failed "no exchange is known", ⟨0⟩, { t with missing := some (t.missing.getD r) })

end Transcript

def Surroundings.ofCamera {ν : Type} (readings : ν → Host.Readings) (reachable : ν → String → Bool)
    (camera : Camera.Surroundings ν) (client : ClientSetup) (timestamp : Instant → String) :
    Surroundings (Client ν) where
  readings := fun c => readings c.outside
  reachable := fun c => reachable c.outside
  temperature := Client.temperatureRemote camera client
  device := Client.deviceRemote camera client
  timestamp := timestamp

def Surroundings.ofTranscript (env : String → Option String) (source : CredentialSource)
    (client : ClientSetup) (timestamp : Instant → String) : Surroundings (Client Transcript) :=
  .ofCamera (·.readings) (fun t path => t.openPaths.contains path)
    (.ofSource env source (·.credentialsFile) Transcript.exchange) client timestamp

end CameraTelemetry.Agent
