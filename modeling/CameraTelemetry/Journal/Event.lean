import CameraTelemetry.Text.Quoted

/-!
# Log events

An event has a level, the part of the agent that emitted it, a message and named fields. Its line is
the message, followed by the fields in parentheses when there are any.
-/
namespace CameraTelemetry.Journal

inductive Level
  | error
  | warn
  | info
  | debug
  | trace
deriving DecidableEq, Repr

namespace Level

/-- Greater means more verbose. -/
def verbosity : Level → Nat
  | error => 0
  | warn => 1
  | info => 2
  | debug => 3
  | trace => 4

def passes (limit level : Level) : Bool := level.verbosity ≤ limit.verbosity

def severity : Level → String
  | error => "critical"
  | warn => "warning"
  | info => "info"
  | debug | trace => "debug"

end Level

inductive FieldValue
  | bare (text : String)
  | quoted (text : String)
  | optional (text : Option String)
  | number (n : Int)
  | flag (b : Bool)
deriving DecidableEq, Repr

def FieldValue.shown : FieldValue → String
  | bare text => text
  | quoted text => Text.quoted text
  | optional text => Text.quotedOption text
  | number n => toString n
  | flag b => if b then "true" else "false"

structure Event where
  level : Level
  target : String
  message : String
  fields : List (String × FieldValue)
deriving DecidableEq, Repr

def Event.line (e : Event) : String :=
  if e.fields.isEmpty then e.message
  else e.message ++ " (" ++ ", ".intercalate (e.fields.map fun (name, v) => name ++ "=" ++ v.shown)
    ++ ")"

def atOrAbove (limit : Level) (events : List Event) : List Event :=
  events.filter fun e => limit.passes e.level

end CameraTelemetry.Journal
