/-!
# Statuses

The verdict on one check or on the whole. A check that could not be measured ranks above a warning,
so that a part of the system that cannot be measured always shows.
-/
namespace CameraTelemetry.Health

inductive Status
  | ok
  | warning
  | unknown
  | critical
deriving DecidableEq, Repr

namespace Status

def rank : Status → Nat
  | ok => 0
  | warning => 1
  | unknown => 2
  | critical => 3

def worst (a b : Status) : Status := if a.rank < b.rank then b else a

def name : Status → String
  | ok => "ok"
  | warning => "warning"
  | unknown => "unknown"
  | critical => "critical"

def severity : Status → String
  | ok => "info"
  | warning | unknown => "warning"
  | critical => "critical"

/-- The worst of a list, unknown if there is nothing to judge. -/
def worstOf : List Status → Status
  | [] => unknown
  | s :: rest => rest.foldl worst s

end Status

end CameraTelemetry.Health
