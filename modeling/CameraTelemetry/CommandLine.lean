import CameraTelemetry.Journal.Event
import CameraTelemetry.Settings.Arguments
import CameraTelemetry.Settings.Thresholds

/-!
# The command line

From the arguments, the environment and the thresholds file the program finds out whether it shows
its usage, runs an agent, or fails. A failure is reported with its cause, if it has one.
-/
namespace CameraTelemetry.CommandLine

open Health Journal Settings

inductive Start
  | usage (text : String)
  | agent (settings : Settings) (checks : List Check)
deriving DecidableEq

inductive StartError
  | settings (e : SettingsError)
  | thresholds (e : ThresholdsError)
  | listening (address reason : String)
deriving DecidableEq, Repr

namespace StartError

def message : StartError → String
  | settings e => e.message
  | thresholds e => e.message
  | listening address _ => "binding " ++ address

def cause? : StartError → Option String
  | settings _ => none
  | thresholds e => some e.cause
  | listening _ reason => some reason

def report (e : StartError) : String :=
  "Error: " ++ e.message ++
    (match e.cause? with
      | some cause => "\n\nCaused by:\n    " ++ "\n    ".intercalate (cause.splitOn "\n")
      | none => "") ++ "\n"

end StartError

/-- What a command line leads to, before anything is listened to. -/
def start (arguments : List String) (env : Environment) (read : String → FileText)
    (wording : Json.Wording := .bare) : Except StartError Start :=
  match load arguments env with
  | .error e => .error (.settings e)
  | .ok (.help text) => .ok (.usage text)
  | .ok (.run s) =>
    match loadChecks read s.thresholdsFile wording with
    | .error e => .error (.thresholds e)
    | .ok checks => .ok (.agent s checks)

structure Exit where
  status : Nat
  output : String
  errors : String
deriving DecidableEq, Repr

def Exit.failed (e : StartError) : Exit := ⟨1, "", e.report⟩

def Exit.shown (text : String) : Exit := ⟨0, text ++ "\n", ""⟩

def target : String := "camwatch_agent"

def listeningEvent (s : Settings) : Event :=
  ⟨.info, target, "camwatch agent listening",
    [("addr", .bare (s.bind.withPort s.port)), ("proc_root", .bare s.procRoot),
      ("vapix", .flag s.cameraEnabled)]⟩

end CameraTelemetry.CommandLine
