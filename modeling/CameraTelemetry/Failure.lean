import CameraTelemetry.Duration
import CameraTelemetry.Text.Quoted

/-!
# Failures

Every failure belongs to one source of data: a family of host counters, a fetch from the camera, or
a cached metric that has no value yet.
-/
namespace CameraTelemetry

/-- The families of counters read from the host. -/
inductive Family
  | uptime
  | memory
  | load
  | cpu
  | network
  | filesystem
  | processes
deriving DecidableEq, Repr

def Family.name : Family → String
  | uptime => "uptime"
  | memory => "memory"
  | load => "load"
  | cpu => "cpu"
  | network => "network"
  | filesystem => "filesystem"
  | processes => "processes"

inductive SourceFailure
  | unavailable (source : Family) (path reason : String)
  | malformed (source : Family) (detail : String)
deriving DecidableEq, Repr

namespace SourceFailure

def source : SourceFailure → Family
  | unavailable f .. => f
  | malformed f .. => f

def message : SourceFailure → String
  | unavailable f path reason => f.name ++ " unavailable at " ++ path ++ ": " ++ reason
  | malformed f detail => f.name ++ ": malformed data: " ++ detail

end SourceFailure

/-- Why a fetch from the camera brought nothing. Only a rejected authentication makes it worth while
to acquire the credentials again. -/
inductive FetchFailure
  | transport (reason : String)
  | timeout (limit : Duration)
  | auth (reason : String)
  | malformed (reason : String)
deriving DecidableEq, Repr

namespace FetchFailure

def isAuth : FetchFailure → Bool
  | auth _ => true
  | _ => false

def kind : FetchFailure → String
  | transport _ => "transport"
  | timeout _ => "timeout"
  | auth _ => "auth"
  | malformed _ => "malformed"

def message : FetchFailure → String
  | transport reason => "transport failure: " ++ reason
  | timeout limit => "request timed out after " ++ limit.text
  | auth reason => "authentication rejected: " ++ reason
  | malformed reason => "malformed response: " ++ reason

end FetchFailure

/-- A metric has no value at all, because of the failure of its latest fetch. -/
structure NoData where
  metric : String
  cause : FetchFailure
deriving DecidableEq, Repr

def NoData.message (e : NoData) : String :=
  "no data available for " ++ e.metric ++ ": " ++ e.cause.message

/-- How a task is named that ended by a panic instead of a result. -/
def panickedTask (payload : String) : String :=
  "task # panicked with message " ++ Text.quoted payload

end CameraTelemetry
