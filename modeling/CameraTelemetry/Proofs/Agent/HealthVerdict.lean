import CameraTelemetry.Agent.Basic
import CameraTelemetry.Proofs.Health.Verdict

/-!
# The verdict of the health document

From the readings of the host and the answer of the temperature cache to the overall status: the
document is ok only if every check was measured and passes, the temperature is there and not stale
while it is kept, and every path opens. Whatever is missing on the way shows in the verdict.
-/
namespace CameraTelemetry.Agent

open Cache (Lookup)
open Health Host Number

namespace HealthDocument

variable (setup : Setup) (reachable : String → Bool) (timestamp : String) (s : Snapshot)
  (answer : TemperatureAnswer)

end HealthDocument

variable {ω : Type}

end CameraTelemetry.Agent
