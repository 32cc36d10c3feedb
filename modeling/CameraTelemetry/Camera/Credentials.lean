import CameraTelemetry.Failure
import CameraTelemetry.Files
import CameraTelemetry.Json.Decode
import CameraTelemetry.Text.Quoted

/-!
# Credentials

A user name and a password for the camera. They come from two environment variables or from a JSON
file, and are read anew whenever they are acquired. Their shown form keeps the password back.
-/
namespace CameraTelemetry.Camera

open Json

structure Credentials where
  username : String
  password : String
deriving DecidableEq

namespace Credentials

def shown (c : Credentials) : String :=
  "Credentials \x7b username: " ++ Text.quoted c.username ++ ", password: "
    ++ Text.quoted "<redacted>" ++ " \x7d"

def decode : Decoder Credentials := fun t =>
  match decodeStruct "Credentials" ["username", "password"] decodeString t with
  | .error e => .error e
  | .ok found =>
    match found.require "username" with
    | .error e => .error e
    | .ok username => (found.require "password").map fun password => ⟨username, password⟩

end Credentials

/-- Where credentials come from. -/
inductive CredentialSource
  | environment (userVariable passwordVariable : String)
  | file (path : String)
deriving DecidableEq, Repr

namespace CredentialSource

/-- The variables used when no file is named. -/
def standard : CredentialSource :=
  .environment "CAMWATCH_VAPIX_USER" "CAMWATCH_VAPIX_PASSWORD"

private def readVariable (env : String → Option String) (name : String) :
    Except FetchFailure String :=
  match env name with
  | some value => .ok value
  | none => .error (.auth (name ++ " is not set"))

def acquire (env : String → Option String) (read : String → FileText) (source : CredentialSource)
    (wording : Wording := .bare) : Except FetchFailure Credentials :=
  match source with
  | environment userVariable passwordVariable =>
    match readVariable env userVariable with
    | .error e => .error e
    | .ok username => (readVariable env passwordVariable).map fun password => ⟨username, password⟩
  | file path =>
    match read path with
    | .error fault => .error (.auth ("reading " ++ path ++ ": " ++ fault.message))
    | .ok text =>
      match decodeText Credentials.decode text with
      | .error fault => .error (.auth ("parsing " ++ path ++ ": " ++ wording.message text fault))
      | .ok c => .ok c

/-- A source fails only by a failure of authentication. -/
theorem isAuth_of_acquire (env : String → Option String) (read : String → FileText)
    (source : CredentialSource) (wording : Wording) (f : FetchFailure)
    (failed : acquire env read source wording = .error f) : f.isAuth = true := by
  cases source with
  | environment userVariable passwordVariable =>
    simp only [acquire, readVariable] at failed
    cases user : env userVariable with
    | none =>
      simp only [user, Except.error.injEq] at failed
      exact failed ▸ rfl
    | some username =>
      cases password : env passwordVariable with
      | none =>
        simp only [user, password, Except.map, Except.error.injEq] at failed
        exact failed ▸ rfl
      | some password' => simp [user, password, Except.map] at failed
  | file path =>
    simp only [acquire] at failed
    split at failed
    · exact (Except.error.inj failed) ▸ rfl
    · split at failed
      · exact (Except.error.inj failed) ▸ rfl
      · cases failed

end CredentialSource

end CameraTelemetry.Camera
