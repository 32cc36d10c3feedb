import CameraTelemetry.Health.Threshold

/-!
# Health reports

Checks are judged by the measurements at hand, and the things that the agent depends on by whether
they can be reached. The overall status is the worst of all.
-/
namespace CameraTelemetry.Health

open Number Json

/-- Named measurements; of two under one name the later counts. -/
abbrev Measurements := List (String × Binary64)

def Measurements.get? (m : Measurements) (name : String) : Option Binary64 :=
  (m.reverse.find? fun entry => entry.1 == name).map Prod.snd

structure Result where
  name : String
  status : Status
  value : Option Binary64
  threshold : Threshold
  message : String
deriving DecidableEq

def Check.verdict (c : Check) (value : Binary64) : String :=
  let shown := c.name ++ " " ++ value.twoPlaces
  let side := c.threshold.direction.side
  match c.threshold.classify value with
  | .critical => shown ++ " " ++ side ++ " critical bound " ++ c.threshold.critical.plain
  | .warning => shown ++ " " ++ side ++ " warning bound " ++ c.threshold.warning.plain
  | .ok | .unknown => shown ++ " within bounds"

/-- Judges a check by its measurement, if there is one. -/
def Check.judge (c : Check) : Option Binary64 → Result
  | none => ⟨c.name, .unknown, none, c.threshold, c.name ++ " could not be measured"⟩
  | some value =>
    if value.isNaN then
      ⟨c.name, .unknown, none, c.threshold, c.name ++ " measurement is not a number"⟩
    else ⟨c.name, c.threshold.classify value, some value, c.threshold, c.verdict value⟩

structure Dependency where
  service : String
  reachable : Bool
deriving DecidableEq, Repr

/-- A dependency out of reach is a warning. -/
def Dependency.status (d : Dependency) : Status := if d.reachable then .ok else .warning

structure Report where
  overall : Status
  results : List Result
  dependencies : List Dependency
deriving DecidableEq

def evaluate (m : Measurements) (checks : List Check) (dependencies : List Dependency) : Report :=
  let results := checks.map fun c => c.judge (m.get? c.name)
  { overall := Status.worstOf (results.map (·.status) ++ dependencies.map (·.status))
    results
    dependencies }

def Result.toJson (r : Result) : Value :=
  .object ([("name", .string r.name), ("status", .string r.status.name),
      ("value", .optionalNumber r.value)]
    ++ r.threshold.members ++ [("message", .string r.message)])

def Dependency.toJson (d : Dependency) : Value :=
  .object [("service", .string d.service), ("reachable", .bool d.reachable),
    ("status", .string d.status.name)]

end CameraTelemetry.Health
