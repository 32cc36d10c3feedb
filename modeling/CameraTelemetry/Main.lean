import CameraTelemetry.Agent.Service
import CameraTelemetry.Agent.Transcript
import CameraTelemetry.CommandLine
import CameraTelemetry.Host.Counters
import CameraTelemetry.Http.Wire
import CameraTelemetry.Journal.Timestamp
import Std.Async.DNS
import Std.Async.Signal
import Std.Async.System
import Std.Async.TCP
import Std.Async.Timer
import Std.Time.DateTime.Timestamp

/-!
# The program

Reads files, the environment and the clock, listens, and talks to the camera. What the counters of
the host mean, what a request is answered and which requests the camera gets is decided elsewhere.
The space on filesystems and the list of processes are not in files, so these families are
unavailable.
-/
namespace CameraTelemetry.Program

open Std.Async Std.Net
open Agent Camera Host Http Journal Settings

/-! ## Files, the environment and the clock -/

def systemNumber (code : UInt32) : UInt32 := min code (0 - code)

def faultOf : IO.Error → FileFault
  | .noFileOrDirectory .. => .notFound
  | .inappropriateType _ code _ => if systemNumber code = 20 then .notDirectory else .isDirectory
  | .invalidArgument name code details =>
    if systemNumber code = 36 then .nameTooLong
    else .other (toString (IO.Error.invalidArgument name code details))
  | e => .other (toString e)

def readFile (path : String) : IO FileText := do
  if path.contains '\x00' then return .error .nulInName
  try return .ofBytes (← IO.FS.readBinFile path)
  catch e => return .error (faultOf e)

def canOpen (path : String) : IO Bool := do
  try
    discard <| IO.FS.Handle.mk path .readWrite
    return true
  catch _ => return false

def filterVariable : String := "RUST_LOG"

def readEnvironment : IO Environment := do
  let names := variableTable.map Prod.fst
    ++ [filterVariable, "CAMWATCH_VAPIX_USER", "CAMWATCH_VAPIX_PASSWORD"]
  let values ← names.filterMapM fun name => do
    return (← IO.getEnv name).map fun value => (name, value)
  return fun name => (values.find? fun entry => entry.1 == name).map Prod.snd

def now : IO Instant := do
  return (← Std.Time.Timestamp.now).toNanosecondsSinceUnixEpoch.toInt.toNat

def readHost (s : Settings) : IO Readings := do
  let stat := joinPath s.procRoot "stat"
  let cpu := match Cpu.Ticks.ofFile stat (← readFile stat) with
    | .ok ticks => .value ticks
    | .error e => .failed e
  let reading {α : Type} (family : Family) (path reason : String) (find? : String → Option α) :
      IO (Reading α) := do
    return readingOf family path reason find? (← readFile path)
  return {
    uptime := ← reading .uptime "/proc/uptime" "no uptime reported" uptimeIn?
    memory := ← reading .memory "/proc/meminfo" "no memory reported" memoryIn?
    load := ← reading .load "/proc/loadavg" "no plausible load reported" loadIn?
    cpu
    network := ← reading .network "/proc/net/dev" "no interfaces listed" interfacesIn?
    filesystem := .failed (.unavailable .filesystem s.diskPath "space cannot be read")
    processes := .failed (.unavailable .processes "/proc" "processes cannot be listed") }

/-! ## The network -/

def chunkSize : UInt64 := 65536

def maxHead : Nat := 65536

def receiveHead (client : TCP.Socket.Client) : Async (Option (List String)) := do
  let mut bytes := []
  repeat
    match ← client.recv? chunkSize with
    | none => return none
    | some chunk =>
      bytes := bytes ++ chunk.toList
      match splitHead? bytes with
      | some (head, _) => return some (headLines head)
      | none => if maxHead < bytes.length then return none
  return none

def receiveAll (client : TCP.Socket.Client) : Async (List UInt8) := do
  let mut bytes := []
  repeat
    match ← client.recv? chunkSize with
    | none => return bytes
    | some chunk => bytes := bytes ++ chunk.toList
  return bytes

def socketAddress : IPAddr → UInt16 → SocketAddress
  | .v4 addr, port => .v4 ⟨addr, port⟩
  | .v6 addr, port => .v6 ⟨addr, port⟩

def requestText (r : Camera.Request) (e : Endpoint) : String :=
  let body := r.query.body.map Prod.snd
  headText (r.query.method ++ " " ++ e.target ++ " HTTP/1.0")
      ([("host", e.host), ("authorization", r.authorization)]
        ++ r.query.body.toList.map (fun b => ("content-type", b.1))
        ++ body.toList.map (fun b => ("content-length", toString b.utf8ByteSize)))
    ++ body.getD ""

/-- Sends a request and follows where its reply leads, for a number of times at most. -/
def follow (r : Camera.Request) : Nat → Endpoint → Async Exchange
  | 0, _ => return .failed "too many redirections"
  | hops + 1, e => do
    let found ← DNS.getAddrInfo e.host "" (some .ipv4)
    match found[0]? with
    | none => return .failed "the host has no address"
    | some addr =>
      let client ← TCP.Socket.Client.mk
      client.connect (socketAddress addr e.port)
      client.send (requestText r e).toUTF8
      match Reply.ofBytes? (← receiveAll client) with
      | none => return .failed "the reply is not HTTP"
      | some reply =>
        match e.next? reply with
        | some next =>
          follow { r with query := { r.query with method := "GET", body := none } } hops next
        | none =>
          return .answered {
            status := reply.status
            challenges := valuesOf "www-authenticate" reply.headers
            body := if reply.complete then .ok reply.body else .error "the body is cut off" }

def maxHops : Nat := 10

/-- An exchange with the camera, and the time it took. One that is not done within its limit is
said to have taken longer. -/
def exchange (limit : Duration) (r : Camera.Request) : Async (Exchange × Duration) := do
  let started ← now
  match Endpoint.ofUrl? r.query.url with
  | none => return (.failed "the address is not one of plain HTTP", ⟨0⟩)
  | some e =>
    let done : Async (Option Exchange) := do
      try return some (← follow r (maxHops + 1) e)
      catch e => return some (.failed (toString e))
    let late : Async (Option Exchange) := do
      sleep (.ofNat (limit.nanos / 10 ^ 6))
      return none
    match ← EAsync.race done late with
    | some e => return (e, .since started (← now))
    | none => return (.failed "", ⟨limit.nanos + 1⟩)

/-! ## Serving -/

structure Running where
  settings : Settings
  setup : Setup
  surroundings : Agent.Surroundings (Client Transcript)
  agent : Agent (Client Transcript)

/-- The requests that one request to the agent can lead to: two caches with two attempts each. -/
def maxExchanges : Nat := 4

def observe (s : Settings) : IO Transcript := do
  let openPaths ← s.dependencyPaths.filterM canOpen
  let credentialsFile ← match s.credentialsFile with
    | some path => readFile path
    | none => pure (.error .notFound)
  return ⟨← readHost s, openPaths, credentialsFile, [], none⟩

/-- Serves a request once all its exchanges with the camera are known. -/
def serve (r : Http.Request) (run : Running) : Async (Http.Response × Running) := do
  let transcript ← observe run.settings
  let agent := { run.agent with now := max run.agent.now (← now) }
  let mut exchanges := []
  for _ in List.range maxExchanges do
    let world := { agent.world with outside := { transcript with exchanges } }
    match ({ agent with world }.serve run.setup run.surroundings r).2.world.outside.missing with
    | none => break
    | some missing => exchanges := exchanges ++ [← exchange run.settings.fetchTimeout missing]
  let world := { agent.world with outside := { transcript with exchanges } }
  let (response, agent) := { agent with world }.serve run.setup run.surroundings r
  return (response, { run with agent })

def answer (client : TCP.Socket.Client) (run : Running) : Async Running := do
  match (← receiveHead client).bind fun lines => lines.head?.bind Http.Request.ofLine? with
  | none => return run
  | some r =>
    let (response, run) ← serve r run
    client.send (response.wire r.method).toUTF8
    client.shutdown
    return run

def serveAll (server : TCP.Socket.Server) (run : Running) : Async Unit := do
  let interrupt ← Signal.Waiter.mk .sigint false
  let mut run := run
  repeat
    let arrived : Option TCP.Socket.Client ← Selectable.one #[
      .case server.acceptSelector (fun client => pure (some client)),
      .case interrupt.selector (fun _ => pure none)]
    match arrived with
    | none => break
    | some client =>
      try run ← answer client run
      catch _ => pure ()

def listenAddress (s : Settings) : Option SocketAddress :=
  match s.bind with
  | .v4 _ => (IPv4Addr.ofString s.bind.text).map fun addr => .v4 ⟨addr, s.port⟩
  | .v6 _ => (IPv6Addr.ofString s.bind.text).map fun addr => .v6 ⟨addr, s.port⟩

def listeningFault : IO.Error → String
  | .resourceBusy .. => "Address already in use (os error 98)"
  | .permissionDenied .. => "Permission denied (os error 13)"
  | e => toString e

def listen (s : Settings) : IO (Except CommandLine.StartError TCP.Socket.Server) := do
  try
    let server ← TCP.Socket.Server.mk
    match listenAddress s with
    | some address => server.bind address
    | none => throw (IO.userError "no such address")
    server.listen 1024
    return .ok server
  catch e => return .error (.listening (s.bind.withPort s.port) (listeningFault e))

def start (env : Environment) (s : Settings) (checks : List Health.Check) : IO Running := do
  let (setup, event) := Setup.ofSettings s checks (← System.getHostName)
    (.ofSetting (env filterVariable)) .info
  let surroundings :=
    Surroundings.ofTranscript env (credentialSource s) (clientSetup s) timestampText
  let agent : Agent (Client Transcript) :=
    .start Ring.defaultCapacity (← now) ⟨none, ← observe s⟩
  return ⟨s, setup, surroundings, agent.record setup surroundings [event]⟩

def Running.ready (run : Running) : Running :=
  { run with
    agent := run.agent.record run.setup run.surroundings [CommandLine.listeningEvent run.settings] }

/-! ## The whole -/

def finish (e : CommandLine.Exit) : IO UInt32 := do
  (← IO.getStdout).putStr e.output
  (← IO.getStderr).putStr e.errors
  return .ofNat e.status

def run (arguments : List String) : IO UInt32 := do
  let env ← readEnvironment
  let file ← match load arguments env with
    | .ok (.run s) => s.thresholdsFile.mapM readFile
    | _ => pure none
  match CommandLine.start arguments env fun _ => file.getD (.error .notFound) with
  | .error e => finish (.failed e)
  | .ok (.usage text) => finish (.shown text)
  | .ok (.agent s checks) =>
    let running ← start env s checks
    match ← listen s with
    | .error e => finish (.failed e)
    | .ok server =>
      (serveAll server running.ready).block
      return 0

end CameraTelemetry.Program

def main (arguments : List String) : IO UInt32 :=
  CameraTelemetry.Program.run (CameraTelemetry.Settings.defaultProgram :: arguments)
