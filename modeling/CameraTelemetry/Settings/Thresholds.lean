import CameraTelemetry.Files
import CameraTelemetry.Health.Threshold
import CameraTelemetry.Json.Decode

/-!
# The thresholds file

A JSON array of checks. In each of them the name is read where it stands; all other members are kept
until the object has ended, and only then the bounds and the direction are looked for among them.
-/
namespace CameraTelemetry.Settings

open Health Json Number

/-- A direction given by an object with one member, whose name is the direction and whose value is
nothing. -/
private def decodeTaggedDirection : List (Option String × Tree) → Except Fault Direction
  | [(name, t)] =>
    match Direction.ofName? (name.getD "") with
    | none => .error (.unknownVariant (name.getD "")
        [Direction.lowerIsWorse.name, Direction.higherIsWorse.name])
    | some d =>
      match t with
      | .null | .object [] _ => .ok d
      | t => .error (t.mismatch "unit")
  | _ => .error (.wrongValue "map" "map with a single key")

def decodeDirection : Decoder Direction
  | .string (some s) =>
    match Direction.ofName? s with
    | some d => .ok d
    | none => .error (.unknownVariant s
        [Direction.lowerIsWorse.name, Direction.higherIsWorse.name])
  | .object members _ => decodeTaggedDirection members
  | t => .error (t.mismatch "string or map")

structure Partial where
  warning : Option Binary64
  critical : Option Binary64
  direction : Option Direction

def decodeParts : Partial → List (String × Tree) → Except Fault Partial
  | found, [] => .ok found
  | found, (name, t) :: rest =>
    if name = "warning" then
      if found.warning.isSome then .error (.duplicateField name)
      else match decodeReal t with
        | .error e => .error e
        | .ok x => decodeParts { found with warning := some x } rest
    else if name = "critical" then
      if found.critical.isSome then .error (.duplicateField name)
      else match decodeReal t with
        | .error e => .error e
        | .ok x => decodeParts { found with critical := some x } rest
    else if name = "direction" then
      if found.direction.isSome then .error (.duplicateField name)
      else match decodeDirection t with
        | .error e => .error e
        | .ok d => decodeParts { found with direction := some d } rest
    else decodeParts found rest

def decodeThreshold (members : List (String × Tree)) : Except Fault Threshold :=
  match decodeParts ⟨none, none, none⟩ members with
  | .error e => .error e
  | .ok ⟨some warning, some critical, some direction⟩ => .ok ⟨warning, critical, direction⟩
  | .ok ⟨none, _, _⟩ => .error (.missingField "warning")
  | .ok ⟨_, none, _⟩ => .error (.missingField "critical")
  | .ok ⟨_, _, none⟩ => .error (.missingField "direction")

/-- The depth of the containers around a member of a check. -/
def memberDepth : Nat := 2

/-- The name of a check and its other members. -/
def decodeCheckMembers (broken : Option BreakPoint) :
    Option String → List (String × Tree) → List (Option String × Tree) →
      Except Fault (Option String × List (String × Tree))
  | name, kept, [] =>
    match broken with
    | some b => .error (.broken b.wanted)
    | none => .ok (name, kept)
  | _, _, (none, _) :: _ => .error (.broken .grammar)
  | name, kept, (some key, t) :: rest =>
    if key = "name" then
      if name.isSome then .error (.duplicateField key)
      else match decodeString t with
        | .error e => .error e
        | .ok s => decodeCheckMembers broken (some s) kept rest
    else
      match t.keep memberDepth with
      | some b => .error (.broken b)
      | none => decodeCheckMembers broken name (kept ++ [(key, t)]) rest

def decodeCheck : Decoder Check
  | .object members broken =>
    match decodeCheckMembers broken none [] members with
    | .error e => .error e
    | .ok (none, _) => .error (.missingField "name")
    | .ok (some name, kept) => (decodeThreshold kept).map fun t => ⟨name, t⟩
  | t => .error (t.mismatch "struct Check")

inductive ThresholdsError
  | unreadable (path : String) (fault : FileFault)
  | malformed (path : String) (complaint : Complaint)
deriving DecidableEq, Repr

namespace ThresholdsError

def message : ThresholdsError → String
  | unreadable path fault => "reading thresholds file " ++ path ++ ": " ++ fault.message
  | malformed path complaint => "parsing thresholds file " ++ path ++ ": " ++ complaint.message

def cause : ThresholdsError → String
  | unreadable _ fault => fault.message
  | malformed _ complaint => complaint.message

end ThresholdsError

/-- The checks of a thresholds file, or the defaults if no file is named. -/
def loadChecks (read : String → FileText) (path : Option String) (wording : Wording := .bare) :
    Except ThresholdsError (List Check) :=
  match path with
  | none => .ok Check.defaults
  | some path =>
    match read path with
    | .error fault => .error (.unreadable path fault)
    | .ok text => (decodeText (decodeList decodeCheck) text).mapError fun fault =>
        .malformed path ⟨fault, wording.message text fault⟩

end CameraTelemetry.Settings
