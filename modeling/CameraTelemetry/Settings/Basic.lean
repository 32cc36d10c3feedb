import CameraTelemetry.Duration
import CameraTelemetry.Files
import CameraTelemetry.Number.Count
import CameraTelemetry.Paths
import CameraTelemetry.Settings.Address
import CameraTelemetry.Text.Words

/-!
# Settings

What an agent is set up with. The defaults give way to the environment, and that to the command
line. A value is read without the blanks around it, and quoted with them in an error.
-/
namespace CameraTelemetry

open Number

structure Settings where
  serviceName : String
  bind : Settings.Address
  port : UInt16
  procRoot : String
  diskPath : String
  cameraEnabled : Bool
  cameraUrl : String
  fetchTimeout : Duration
  temperatureTtl : Duration
  deviceTtl : Duration
  credentialsFile : Option String
  thresholdsFile : Option String
  dependencyPaths : List String
deriving DecidableEq, Repr

namespace Settings

def defaults : Settings :=
  { serviceName := "camwatch"
    bind := .unspecified
    port := 8080
    procRoot := "/proc"
    diskPath := "/"
    cameraEnabled := true
    cameraUrl := "http://127.0.0.1"
    fetchTimeout := .ofSecs 5
    temperatureTtl := .ofSecs 60
    deviceTtl := .ofSecs 300
    credentialsFile := none
    thresholdsFile := none
    dependencyPaths := [] }

/-- The settings with every path as its steps: two spellings of one path agree. -/
private def normalized (s : Settings) : Settings × List (List String) :=
  ({ s with
      procRoot := ""
      diskPath := ""
      credentialsFile := s.credentialsFile.map fun _ => ""
      thresholdsFile := s.thresholdsFile.map fun _ => ""
      dependencyPaths := s.dependencyPaths.map fun _ => "" },
    ([s.procRoot, s.diskPath] ++ s.credentialsFile.toList ++ s.thresholdsFile.toList
      ++ s.dependencyPaths).map pathSteps)

def agrees (a b : Settings) : Bool := a.normalized = b.normalized

inductive SettingsError
  | missingValue (flag : String)
  | invalidValue (key value : String)
  | unexpectedArgument (argument : String)
deriving DecidableEq, Repr

def SettingsError.message : SettingsError → String
  | missingValue flag => "missing value for " ++ flag
  | invalidValue key value => "invalid value " ++ Text.quoted value ++ " for " ++ key
  | unexpectedArgument argument =>
    "unexpected argument " ++ Text.quoted argument ++ " (try --help)"

def readValue {α : Type} (read? : List Char → Option α) (key value : String) :
    Except SettingsError α :=
  match read? (Text.trim value.toList) with
  | some a => .ok a
  | none => .error (.invalidValue key value)

section

variable {α : Type} {read? : List Char → Option α} {key value : String}

theorem readValue_of_some {a : α} (found : read? (Text.trim value.toList) = some a) :
    readValue read? key value = .ok a := by
  rw [readValue, found]

theorem readValue_of_none (missing : read? (Text.trim value.toList) = none) :
    readValue read? key value = .error (.invalidValue key value) := by
  rw [readValue, missing]

end

def readPort : String → String → Except SettingsError UInt16 :=
  readValue fun cs => (readCount (2 ^ 16 - 1) cs).toOption.map UInt16.ofNat

def readAddress : String → String → Except SettingsError Address :=
  readValue Address.ofText?

private def readDuration (unit : Nat → Duration) :
    String → String → Except SettingsError Duration :=
  readValue fun cs => (readCount maxCount cs).toOption.map unit

def readMillis : String → String → Except SettingsError Duration := readDuration .ofMillis

def readSecs : String → String → Except SettingsError Duration := readDuration .ofSecs

end Settings

end CameraTelemetry
