import CameraTelemetry.Health.Status
import CameraTelemetry.Json.Value

/-!
# Thresholds

A threshold has a warning bound and a critical bound and says in which direction values get worse.
Both bounds are exclusive: a value on a bound has not crossed it.
-/
namespace CameraTelemetry.Health

open Number Json

inductive Direction
  /-- Low values are bad, as for free memory. -/
  | lowerIsWorse
  /-- High values are bad, as for load. -/
  | higherIsWorse
deriving DecidableEq, Repr

namespace Direction

def name : Direction → String
  | lowerIsWorse => "lower_is_worse"
  | higherIsWorse => "higher_is_worse"

def ofName? (s : String) : Option Direction :=
  if s = "lower_is_worse" then some lowerIsWorse
  else if s = "higher_is_worse" then some higherIsWorse
  else none

/-- The value lies beyond the bound on the bad side. -/
def past (d : Direction) (value bound : Binary64) : Bool :=
  match d with
  | lowerIsWorse => value < bound
  | higherIsWorse => bound < value

def side : Direction → String
  | lowerIsWorse => "below"
  | higherIsWorse => "above"

end Direction

structure Threshold where
  warning : Binary64
  critical : Binary64
  direction : Direction
deriving DecidableEq

def Threshold.classify (t : Threshold) (value : Binary64) : Status :=
  if value.isNaN then .unknown
  else if t.direction.past value t.critical then .critical
  else if t.direction.past value t.warning then .warning
  else .ok

def Threshold.members (t : Threshold) : List (String × Value) :=
  [("warning", .number t.warning), ("critical", .number t.critical),
    ("direction", .string t.direction.name)]

/-- A threshold for a named measurement. -/
structure Check where
  name : String
  threshold : Threshold
deriving DecidableEq

namespace Check

def toJson (c : Check) : Value := .object (("name", .string c.name) :: c.threshold.members)

def temperature : String := "temperature_celsius"

def defaults : List Check :=
  [⟨"memory_available_mb", ⟨50, 20, .lowerIsWorse⟩⟩,
    ⟨"disk_free_mb", ⟨100, 50, .lowerIsWorse⟩⟩,
    ⟨temperature, ⟨70, 80, .higherIsWorse⟩⟩,
    ⟨"cpu_usage_percent", ⟨80, 95, .higherIsWorse⟩⟩,
    ⟨"load_average_1m", ⟨4, 8, .higherIsWorse⟩⟩]

end Check

end CameraTelemetry.Health
