import CameraTelemetry.Settings.Environment

/-!
# Settings from the command line

A flag that takes a value has it as the next argument or joined by an equals sign. Arguments are
taken from the left, and the first one that is wrong, or that asks for help, decides.
-/
namespace CameraTelemetry.Settings

inductive Flag
  | port
  | bind
  | procRoot
  | diskPath
  | cameraUrl
  | credentials
  | thresholds
  | dependency
deriving DecidableEq, Repr

namespace Flag

def name : Flag → String
  | port => "--port"
  | bind => "--bind"
  | procRoot => "--proc-root"
  | diskPath => "--disk-path"
  | cameraUrl => "--vapix-url"
  | credentials => "--credentials"
  | thresholds => "--thresholds"
  | dependency => "--dependency"

/-- What the flag does to the settings. Naming the camera switches it on. -/
def set : Flag → Setter
  | port, v, s => (readPort (name port) v).map fun v => { s with port := v }
  | bind, v, s => (readAddress (name bind) v).map fun v => { s with bind := v }
  | procRoot, v, s => .ok { s with procRoot := v }
  | diskPath, v, s => .ok { s with diskPath := v }
  | cameraUrl, v, s => .ok { s with cameraUrl := v, cameraEnabled := true }
  | credentials, v, s => .ok { s with credentialsFile := some v }
  | thresholds, v, s => .ok { s with thresholdsFile := some v }
  | dependency, v, s => .ok { s with dependencyPaths := s.dependencyPaths ++ [v] }

end Flag

/-- What an argument at the place of a flag asks for. -/
inductive Request
  | help
  | disableCamera
  | value (flag : Flag)
deriving DecidableEq, Repr

def Request.ofText? (s : String) : Option Request :=
  if s = "-h" ∨ s = "--help" then some help
  else if s = "-p" ∨ s = "--port" then some (value .port)
  else if s = "--bind" then some (value .bind)
  else if s = "--proc-root" then some (value .procRoot)
  else if s = "--disk-path" then some (value .diskPath)
  else if s = "--vapix-url" then some (value .cameraUrl)
  else if s = "--no-vapix" then some disableCamera
  else if s = "--credentials" then some (value .credentials)
  else if s = "--thresholds" then some (value .thresholds)
  else if s = "--dependency" then some (value .dependency)
  else none

/-- The part of an argument before its first equals sign, and the part after it, for an argument
that starts with two dashes. Others are left whole. -/
def splitJoined (argument : String) : String × Option String :=
  let cs := argument.toList
  match cs.dropWhile (· ≠ '=') with
  | _ :: joined =>
    if argument.startsWith "--" then
      (String.ofList (cs.takeWhile (· ≠ '=')), some (String.ofList joined))
    else (argument, none)
  | [] => (argument, none)

inductive Invocation
  | run (settings : Settings)
  | help (text : String)
deriving DecidableEq, Repr

/-- The name under which the agent is known when it was not called by one. -/
def defaultProgram : String := "camwatch_agent"

def usage (program : String) : String :=
  "Usage: " ++ program ++
    " [--port PORT|-p PORT] [--bind ADDR] [--proc-root DIR] [--disk-path PATH]\n" ++
  "       [--vapix-url URL] [--no-vapix] [--credentials FILE] [--thresholds FILE]\n" ++
  "       [--dependency PATH]...\n" ++
  "Environment: CAMWATCH_PORT, CAMWATCH_BIND, CAMWATCH_PROC_ROOT, CAMWATCH_DISK_PATH,\n" ++
  "             CAMWATCH_VAPIX (0 disables), CAMWATCH_VAPIX_URL, CAMWATCH_FETCH_TIMEOUT_MS,\n" ++
  "             CAMWATCH_TEMP_TTL_SECS, CAMWATCH_DEVICE_TTL_SECS, CAMWATCH_CREDENTIALS_FILE,\n" ++
  "             CAMWATCH_THRESHOLDS, CAMWATCH_DEPENDENCY_PATHS (colon separated),\n" ++
  "             CAMWATCH_VAPIX_USER / CAMWATCH_VAPIX_PASSWORD, RUST_LOG"

def applyArguments (program : String) : List String → Settings → Except SettingsError Invocation
  | [], s => .ok (.run s)
  | argument :: rest, s =>
    let (head, joined) := splitJoined argument
    match Request.ofText? head with
    | none => .error (.unexpectedArgument argument)
    | some .help => .ok (.help (usage program))
    | some .disableCamera => applyArguments program rest { s with cameraEnabled := false }
    | some (.value flag) =>
      match joined with
      | some v =>
        match flag.set v s with
        | .error e => .error e
        | .ok s => applyArguments program rest s
      | none =>
        match rest with
        | [] => .error (.missingValue flag.name)
        | v :: rest =>
          match flag.set v s with
          | .error e => .error e
          | .ok s => applyArguments program rest s

/-- What a command line and an environment come to: defaults, then the environment, then the
arguments, of which the first is the name of the program. -/
def load (arguments : List String) (env : Environment) : Except SettingsError Invocation :=
  match applyEnvironment env defaults with
  | .error e => .error e
  | .ok s => applyArguments (arguments.head?.getD defaultProgram) (arguments.drop 1) s

end CameraTelemetry.Settings
