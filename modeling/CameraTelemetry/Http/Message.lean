import CameraTelemetry.Json.Value

/-!
# Requests and responses

A request is a method and a target. The target is a path, with a query behind a question mark; a
fragment behind a number sign is no part of either. In its absolute form a target has a scheme and
an authority before the path, and an absent path is the root. In its authority form, which neither
starts with a slash nor has a scheme, it names a host, and has no path.
-/
namespace CameraTelemetry.Http

structure Request where
  method : String
  target : String
deriving DecidableEq, Repr

namespace Request

/-- What follows the colon and the two slashes behind a scheme, if they are there. -/
def afterScheme? : List Char → Option (List Char)
  | ':' :: '/' :: '/' :: rest => some rest
  | c :: rest => if c.isAlphanum || c == '+' || c == '-' || c == '.' then afterScheme? rest
    else none
  | [] => none

/-- The target from its path on, without its fragment; the authority form has no such part. -/
def resource? (r : Request) : Option (List Char) :=
  let whole := r.target.toList.takeWhile (· ≠ '#')
  if whole.head? = some '/' ∨ whole = ['*'] then some whole
  else (afterScheme? whole).map (·.dropWhile fun c => c ≠ '/' ∧ c ≠ '?')

/-- The path, with which the absolute form may dispense for the root. -/
def path (r : Request) : String :=
  match r.resource? with
  | none => ""
  | some resource =>
    let path := String.ofList (resource.takeWhile (· ≠ '?'))
    if path.isEmpty then "/" else path

def query (r : Request) : String :=
  String.ofList (((r.resource?.getD []).dropWhile (· ≠ '?')).drop 1)

end Request

structure Response where
  status : Nat
  contentType : Option String
  /-- The methods that would be allowed, where the one used is not. -/
  allow : Option String
  body : String
deriving DecidableEq, Repr

namespace Response

def json (status : Nat) (document : Json.Value) : Response :=
  ⟨status, some "application/json", none, document.compact⟩

def failure (status : Nat) (reason : String) : Response :=
  json status (.object [("error", .string reason)])

def text (status : Nat) (contentType body : String) : Response :=
  ⟨status, some contentType, none, body⟩

def methodNotAllowed (allowed : String) : Response := ⟨405, none, some allowed, ""⟩

def withoutBody (r : Response) : Response := { r with body := "" }

end Response

end CameraTelemetry.Http
