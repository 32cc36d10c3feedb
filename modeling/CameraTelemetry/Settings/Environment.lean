import CameraTelemetry.Settings.Basic

/-!
# Settings from the environment

Each variable that is set replaces one setting. The variables are looked at in a fixed order, so
that the first bad value is the one reported; last of all the limit of a fetch must not be nought.
-/
namespace CameraTelemetry.Settings

abbrev Environment := String → Option String

abbrev Setter := String → Settings → Except SettingsError Settings

/-- A setter whose value is read first. -/
private def reading {α : Type} (read : String → Except SettingsError α)
    (put : α → Settings → Settings) : Setter :=
  fun value s => (read value).map (put · s)

private def taking (put : String → Settings → Settings) : Setter :=
  fun value s => .ok (put value s)

/-- The segments between colons that are not empty. -/
def pathList (value : String) : List String :=
  (value.splitOn ":").filter (· ≠ "")

def fetchTimeoutVariable : String := "CAMWATCH_FETCH_TIMEOUT_MS"

/-- The variables, in the order in which they are looked at. -/
def variableTable : List (String × Setter) :=
  [("CAMWATCH_PORT", reading (readPort "CAMWATCH_PORT") fun v s => { s with port := v }),
    ("CAMWATCH_BIND", reading (readAddress "CAMWATCH_BIND") fun v s => { s with bind := v }),
    ("CAMWATCH_PROC_ROOT", taking fun v s => { s with procRoot := v }),
    ("CAMWATCH_DISK_PATH", taking fun v s => { s with diskPath := v }),
    ("CAMWATCH_VAPIX", taking fun v s => { s with cameraEnabled := v ≠ "0" }),
    ("CAMWATCH_VAPIX_URL", taking fun v s => { s with cameraUrl := v }),
    (fetchTimeoutVariable,
      reading (readMillis fetchTimeoutVariable) fun v s => { s with fetchTimeout := v }),
    ("CAMWATCH_TEMP_TTL_SECS",
      reading (readSecs "CAMWATCH_TEMP_TTL_SECS") fun v s => { s with temperatureTtl := v }),
    ("CAMWATCH_DEVICE_TTL_SECS",
      reading (readSecs "CAMWATCH_DEVICE_TTL_SECS") fun v s => { s with deviceTtl := v }),
    ("CAMWATCH_CREDENTIALS_FILE", taking fun v s => { s with credentialsFile := some v }),
    ("CAMWATCH_THRESHOLDS", taking fun v s => { s with thresholdsFile := some v }),
    ("CAMWATCH_DEPENDENCY_PATHS", taking fun v s => { s with dependencyPaths := pathList v })]

def applyVariables (env : Environment) :
    List (String × Setter) → Settings → Except SettingsError Settings
  | [], s => .ok s
  | (name, set) :: rest, s =>
    match env name with
    | none => applyVariables env rest s
    | some value =>
      match set value s with
      | .error e => .error e
      | .ok s => applyVariables env rest s

def applyEnvironment (env : Environment) (s : Settings) : Except SettingsError Settings :=
  match applyVariables env variableTable s with
  | .error e => .error e
  | .ok s =>
    if s.fetchTimeout.nanos = 0 then .error (.invalidValue fetchTimeoutVariable "0") else .ok s

end CameraTelemetry.Settings
