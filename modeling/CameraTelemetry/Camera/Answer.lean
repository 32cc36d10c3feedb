import CameraTelemetry.Failure
import CameraTelemetry.Journal.Event
import CameraTelemetry.Json.Decode
import CameraTelemetry.Json.Value
import CameraTelemetry.Text.Words

/-!
# Answers of the camera

The camera answers a query for its temperature with a number as plain text, and one for its identity
with a JSON document that holds a list of properties.
-/
namespace CameraTelemetry.Camera

open Journal Json Number Text

def target : String := "camwatch_agent::vapix"

/-! ## Temperature -/

def isExpectedTemperature (x : Binary64) : Bool := !(x < -50) && !(100 < x)

def temperatureWarning (x : Binary64) : Event :=
  ⟨.warn, target, "VAPIX temperature out of expected range: " ++ x.twoPlaces, []⟩

/-- The temperature in the first word of an answer, and the events that go with it. -/
def readTemperature (body : String) : Except FetchFailure Binary64 × List Event :=
  match wordsOf body with
  | [] => (.error (.malformed "empty temperature response"), [])
  | word :: _ =>
    match readReal? word.toList with
    | none => (.error (.malformed ("temperature " ++ quoted word ++ ": invalid float literal")), [])
    | some x =>
      if !x.isFinite then
        (.error (.malformed ("temperature " ++ quoted word ++ " is not finite")), [])
      else (.ok x, if isExpectedTemperature x then [] else [temperatureWarning x])

/-! ## Identity -/

structure DeviceInfo where
  serialNumber : Option String
  firmwareVersion : Option String
  model : Option String
  architecture : Option String
  soc : Option String
deriving DecidableEq, Repr

namespace DeviceInfo

def toJson (d : DeviceInfo) : Value :=
  .object [("serial_number", .optional d.serialNumber),
    ("firmware_version", .optional d.firmwareVersion), ("model", .optional d.model),
    ("architecture", .optional d.architecture), ("soc", .optional d.soc)]

def decodeProperties : Decoder DeviceInfo := fun t =>
  (decodeStruct "PropertyList" ["SerialNumber", "Version", "ProdNbr", "Architecture", "Soc"]
    (decodeOptional decodeString) t).map fun found =>
      let property (name : String) := (found.get? name).join
      ⟨property "SerialNumber", property "Version", property "ProdNbr", property "Architecture",
        property "Soc"⟩

/-- A structure with one field, whose value may be null or missing. -/
private def decodeOnly {α : Type} (structName name : String) (decode : Decoder α) :
    Decoder (Option α) := fun t =>
  (decodeStruct structName [name] (decodeOptional decode) t).map fun found => (found.get? name).join

def decodeResponse : Decoder (Option DeviceInfo) := fun t =>
  (decodeOnly "DeviceInfoResponse" "data"
    (decodeOnly "DeviceInfoData" "propertyList" decodeProperties) t).map Option.join

end DeviceInfo

def readDeviceInfo (body : String) (wording : Wording := .bare) : Except FetchFailure DeviceInfo :=
  match decodeText DeviceInfo.decodeResponse body with
  | .error fault => .error (.malformed ("device info JSON: " ++ wording.message body fault))
  | .ok none => .error (.malformed "device info lacks data.propertyList")
  | .ok (some d) => .ok d

end CameraTelemetry.Camera
