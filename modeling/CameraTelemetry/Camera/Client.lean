import CameraTelemetry.Cache.Remote
import CameraTelemetry.Camera.Answer
import CameraTelemetry.Camera.Challenge
import CameraTelemetry.Camera.Credentials
import CameraTelemetry.Text.Base64
import CameraTelemetry.Text.Utf8

/-!
# The client of the camera

The client asks for the temperature and for the identity, with the credentials it holds. It acquires
them when it holds none, and gives them up before it acquires them anew, so that credentials that
could not be replaced are not used again.
-/
namespace CameraTelemetry.Camera

open Cache Journal Json

/-- A request to the camera, its authorization apart. -/
structure Query where
  method : String
  url : String
  /-- The type and the text of the body. -/
  body : Option (String × String)
deriving DecidableEq, Repr

structure Request where
  query : Query
  credentials : Credentials
deriving DecidableEq

def Request.authorization (r : Request) : String :=
  "Basic " ++ String.ofList
    (Text.base64 (r.credentials.username ++ ":" ++ r.credentials.password).toUTF8.toList)

/-- The answer to a request, all redirections followed. A body that cannot be read to its end is
missing, with the reason. -/
structure Response where
  status : Nat
  challenges : List String
  body : Except String (List UInt8)

/-- What becomes of a request. -/
inductive Exchange
  | failed (reason : String)
  | answered (r : Response)

structure ClientSetup where
  baseUrl : String
  /-- The text by which the camera may tell its callers apart. -/
  context : String
  timeout : Duration

/-- What surrounds a client: where it gets credentials, and what becomes of its requests and when.
-/
structure Surroundings (ν : Type) where
  acquire : ν → Except FetchFailure Credentials
  exchange : Request → ν → Exchange × Duration × ν
  /-- What the surroundings are once credentials were acquired. A source that is only read leaves
  them as they were. -/
  acquired : ν → ν := id
  /-- How faults of an answer that should hold an identity are told of. -/
  identityFaults : Wording := .bare

/-- Surroundings in which credentials come from a source, which may be the file that is there at the
time. -/
def Surroundings.ofSource {ν : Type} (env : String → Option String) (source : CredentialSource)
    (file : ν → FileText) (exchange : Request → ν → Exchange × Duration × ν)
    (faults identityFaults : Wording := .bare) : Surroundings ν where
  acquire := fun v => source.acquire env (fun _ => file v) faults
  exchange := exchange
  identityFaults := identityFaults

/-- A client at work: the credentials it holds, and the state of its surroundings. -/
structure Client (ν : Type) where
  held : Option Credentials
  outside : ν

def temperaturePath : String :=
  "/axis-cgi/temperaturecontrol.cgi?device=sensor&id=2&action=query&temperatureunit=celsius"

def deviceInfoPath : String := "/axis-cgi/basicdeviceinfo.cgi"

namespace ClientSetup

def urlOf (setup : ClientSetup) (path : String) : String :=
  String.ofList (setup.baseUrl.toList.reverse.dropWhile (· == '/')).reverse ++ path

def temperatureQuery (setup : ClientSetup) : Query :=
  ⟨"GET", setup.urlOf temperaturePath, none⟩

def deviceInfoQuery (setup : ClientSetup) : Query :=
  let payload : Value := .object [("apiVersion", .string "1.0"), ("context", .string setup.context),
    ("method", .string "getAllProperties")]
  ⟨"POST", setup.urlOf deviceInfoPath, some ("application/json", payload.compact)⟩

end ClientSetup

def Response.bodyText (r : Response) : Except FetchFailure String :=
  if r.status = 401 then .error (.auth (unauthorizedReason r.status r.challenges))
  else if r.status = 403 then .error (.auth ("HTTP " ++ Http.statusText r.status))
  else if r.status < 200 ∨ 300 ≤ r.status then
    .error (.transport ("HTTP " ++ Http.statusText r.status))
  else match r.body with
    | .ok bytes => .ok (Text.decodeLossy bytes)
    | .error reason => .error (.malformed ("reading body: " ++ reason))

namespace Client

variable {ν α : Type}

private def atOnce (ending : Ending α) (events : List Event) : Call α := ⟨⟨0⟩, ending, events⟩

/-- The credentials to be used: those held, or else newly acquired ones, which are then held. -/
def credentials (w : Surroundings ν) (c : Client ν) : Except FetchFailure Credentials × Client ν :=
  match c.held with
  | some held => (.ok held, c)
  | none =>
    let outside := w.acquired c.outside
    match w.acquire c.outside with
    | .ok fresh => (.ok fresh, ⟨some fresh, outside⟩)
    | .error e => (.error e, ⟨none, outside⟩)

/-- What becomes of a call whose request was exchanged, after some time. An exchange that takes too
long is given up. -/
def received (timeout : Duration) (read : String → Except FetchFailure α × List Event)
    (exchange : Exchange) (delay : Duration) : Call α :=
  if timeout < delay then ⟨timeout, .failed (.timeout timeout), []⟩
  else match exchange with
    | .failed reason => ⟨delay, .failed (.transport reason), []⟩
    | .answered r =>
      match r.bodyText with
      | .error e => ⟨delay, .failed e, []⟩
      | .ok body =>
        match read body with
        | (.ok a, events) => ⟨delay, .value a, events⟩
        | (.error e, events) => ⟨delay, .failed e, events⟩

def send (w : Surroundings ν) (setup : ClientSetup) (query : Query)
    (read : String → Except FetchFailure α × List Event) (c : Client ν) : Call α × Client ν :=
  match c.credentials w with
  | (.error e, c) => (atOnce (.failed e) [], c)
  | (.ok credentials, c) =>
    let (exchange, delay, outside) := w.exchange ⟨query, credentials⟩ c.outside
    (received setup.timeout read exchange delay, { c with outside })

def renewedEvent (fresh : Credentials) : Event :=
  ⟨.info, target, "VAPIX credentials re-acquired", [("user", .bare fresh.username)]⟩

def renew (w : Surroundings ν) (c : Client ν) : Call Unit × Client ν :=
  let outside := w.acquired c.outside
  match w.acquire c.outside with
  | .ok fresh => (atOnce (.value ()) [renewedEvent fresh], ⟨some fresh, outside⟩)
  | .error e => (atOnce (.failed e) [], ⟨none, outside⟩)

def temperature (w : Surroundings ν) (setup : ClientSetup) (c : Client ν) :
    Call Number.Binary64 × Client ν :=
  c.send w setup setup.temperatureQuery readTemperature

def deviceInfo (w : Surroundings ν) (setup : ClientSetup) (c : Client ν) :
    Call DeviceInfo × Client ν :=
  c.send w setup setup.deviceInfoQuery fun body =>
    (readDeviceInfo body w.identityFaults, [])

def temperatureRemote (w : Surroundings ν) (setup : ClientSetup) :
    Remote (Client ν) Number.Binary64 :=
  ⟨temperature w setup, some (renew w)⟩

def deviceRemote (w : Surroundings ν) (setup : ClientSetup) : Remote (Client ν) DeviceInfo :=
  ⟨deviceInfo w setup, some (renew w)⟩

end Client

end CameraTelemetry.Camera
