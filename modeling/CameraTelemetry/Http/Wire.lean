import CameraTelemetry.Http.Message
import CameraTelemetry.Http.Status
import CameraTelemetry.Number.Count
import CameraTelemetry.Text.Utf8

/-!
# Messages on a connection

How requests and responses are written to a connection and read from it. A connection serves for one
exchange: its end is the end of a body whose length is not given.
-/
namespace CameraTelemetry.Http

open Number

/-- A line of a head: a name, which may be written in any case, and a value. -/
abbrev Header := String × String

def lineEnd : String := "\r\n"

def headText (first : String) (headers : List Header) : String :=
  first ++ lineEnd
    ++ String.join (headers.map fun (name, value) => name ++ ": " ++ value ++ lineEnd)
    ++ lineEnd

def splitHead? : List UInt8 → Option (List UInt8 × List UInt8)
  | 13 :: 10 :: 13 :: 10 :: rest => some ([], rest)
  | b :: rest => (splitHead? rest).map fun (head, body) => (b :: head, body)
  | [] => none

def headLines (head : List UInt8) : List String := (Text.decodeLossy head).splitOn lineEnd

private def lowered (s : String) : String := String.ofList (s.toList.map Char.toLower)

def Header.ofLine (line : String) : Header :=
  let value := (line.toList.dropWhile (· ≠ ':')).drop 1
  (lowered (String.ofList (line.toList.takeWhile (· ≠ ':'))),
    String.ofList ((value.dropWhile (· == ' ')).reverse.dropWhile (· == ' ')).reverse)

def valuesOf (name : String) (headers : List Header) : List String :=
  (headers.filter (·.1 == name)).map Prod.snd

def Request.ofLine? (line : String) : Option Request :=
  match line.splitOn " " with
  | [method, target, _] => some ⟨method, target⟩
  | _ => none

/-- A response on the wire. The answer to a request for the head alone ends with the head. -/
def Response.wire (r : Response) (method : String) : String :=
  headText ("HTTP/1.1 " ++ statusText r.status)
      (r.contentType.toList.map (("content-type", ·)) ++ r.allow.toList.map (("allow", ·))
        ++ [("content-length", toString r.body.utf8ByteSize), ("connection", "close")])
    ++ (if method = "HEAD" then "" else r.body)

structure Reply where
  status : Nat
  headers : List Header
  body : List UInt8
  /-- The body has the length that its head gives it. -/
  complete : Bool
deriving DecidableEq, Repr

def Reply.ofBytes? (bytes : List UInt8) : Option Reply := do
  let (head, body) ← splitHead? bytes
  let lines := headLines head
  let status ← match (lines.headD "").splitOn " " with
    | _ :: code :: _ => (readCount 999 code.toList).toOption
    | _ => none
  let headers := (lines.drop 1).map Header.ofLine
  match (valuesOf "content-length" headers).head?.bind fun n =>
    (readCount maxCount n.toList).toOption with
  | some length => some ⟨status, headers, body.take length, decide (length ≤ body.length)⟩
  | none => some ⟨status, headers, body, true⟩

/-- Where a request goes: a host, a port, and the target there. -/
structure Endpoint where
  host : String
  port : UInt16
  target : String
deriving DecidableEq, Repr

def defaultPort : UInt16 := 80

/-- The endpoint of an address that begins with the scheme of plain HTTP. -/
def Endpoint.ofUrl? (url : String) : Option Endpoint :=
  if !url.startsWith "http://" then none
  else
    let rest := url.toList.drop 7
    let authority := rest.takeWhile fun c => c ≠ '/' ∧ c ≠ '?'
    let target := rest.drop authority.length
    let slashed := if target.head? = some '/' then target else '/' :: target
    let host := authority.takeWhile (· ≠ ':')
    if host.isEmpty then none
    else match authority.drop host.length with
      | [] | [':'] => some ⟨String.ofList host, defaultPort, String.ofList slashed⟩
      | _ :: digits => match readCount (2 ^ 16 - 1) digits with
        | .ok port => some ⟨String.ofList host, .ofNat port, String.ofList slashed⟩
        | .error _ => none

/-- The endpoint that a reply leads on to, if it stays on the same host and port. -/
def Endpoint.next? (e : Endpoint) (r : Reply) : Option Endpoint :=
  if r.status ∉ [301, 302, 303, 307, 308] then none
  else match valuesOf "location" r.headers with
    | [] => none
    | location :: _ =>
      if location.startsWith "/" then some { e with target := location }
      else match Endpoint.ofUrl? location with
        | some next => if next.host = e.host ∧ next.port = e.port then some next else none
        | none => none

end CameraTelemetry.Http
