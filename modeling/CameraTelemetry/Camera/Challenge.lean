import CameraTelemetry.Http.Status
import CameraTelemetry.Text.Words

/-!
# Rejections

Why the camera sent a request away. If it asks for the Digest scheme and does not offer Basic, the
only scheme the agent knows, the reason says so.
-/
namespace CameraTelemetry.Camera

open Text

def asciiLower (s : String) : String := String.ofList (s.toList.map Char.toLower)

/-- The scheme that a challenge starts with. -/
def schemeOf (challenge : String) : String := asciiLower ((wordsOf challenge).head?.getD "")

/-- The challenges ask for Digest and do not offer Basic. -/
def asksOnlyDigest (challenges : List String) : Bool :=
  challenges.any (schemeOf · == "digest") && !challenges.any (schemeOf · == "basic")

def unauthorizedReason (status : Nat) (challenges : List String) : String :=
  if asksOnlyDigest challenges then
    "HTTP " ++ Http.statusText status
    ++ ": camera requires Digest authentication, which is not supported; allow Basic on the camera"
  else "HTTP " ++ Http.statusText status

end CameraTelemetry.Camera
