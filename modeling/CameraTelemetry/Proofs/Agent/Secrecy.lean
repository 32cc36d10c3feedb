import CameraTelemetry.Agent.Transcript
import CameraTelemetry.Proofs.Agent.Likeness
import CameraTelemetry.Proofs.Camera.Passwords

/-!
# The password is kept

Two files with credentials that are the same up to the password, and two cameras that treat them
alike, give two agents that cannot be told apart: not by what is logged, nor by what is served. This
holds of passwords that are texts, and of arrays and objects in their place. It does not hold of
numbers and truth values, which a message shows as they stand.
-/
namespace CameraTelemetry.Agent

open Camera Journal

section

variable {ν ν' : Type} {P : String → String → Prop} {R : ν → ν' → Prop}
  {w : Camera.Surroundings ν} {w' : Camera.Surroundings ν'}

theorem ofCamera_alike {Q : Credentials → Credentials → Prop} {readings : ν → Host.Readings}
    {readings' : ν' → Host.Readings} {reachable : ν → String → Bool}
    {reachable' : ν' → String → Bool} (client : ClientSetup) (timestamp : Instant → String)
    (camera : w.Alike Q R w') (users : ∀ c c', Q c c' → c.username = c'.username)
    (host : ∀ v v', R v v' → readings v = readings' v' ∧ reachable v = reachable' v') :
    (Surroundings.ofCamera readings reachable w client timestamp).Alike (Client.Alike Q R)
      (.ofCamera readings' reachable' w' client timestamp) where
  readings := fun c c' same => (host c.outside c'.outside same.outside).1
  reachable := fun c c' same => (host c.outside c'.outside same.outside).2
  temperature := Metric.remote_alike client camera users .temperature
  device := Metric.remote_alike client camera users .identity
  timestamp := rfl

/-- Nothing that comes out depends on the password. -/
structure PasswordKept (P : String → String → Prop) (R : ν → ν' → Prop) (client : ClientSetup)
    (w : Camera.Surroundings ν) (w' : Camera.Surroundings ν') (u : Surroundings (Client ν))
    (u' : Surroundings (Client ν')) : Prop where
  /-- Both acquire credentials that look the same, or both fail with the same message. -/
  acquired : ∀ v v', R v v' →
    (w.acquire v).map Credentials.shown = (w'.acquire v').map Credentials.shown
  /-- However two caches with one client move, they note and log the same in every step. -/
  told : ∀ policy now v v' occurrences occurrences', R v v' →
    List.Forall₂ (Occurrence.Alike R) occurrences occurrences' →
    let run := (Shared.start v now).run w client policy occurrences
    let run' := (Shared.start v' now).run w' client policy occurrences'
    List.Forall₂ Episode.Alike run.2 run'.2 ∧
      run.2.map (·.log policy) = run'.2.map (·.log policy)
  /-- Whatever happens to an agent, it serves the same responses and keeps the same events. -/
  served : ∀ setup capacity now v v' happenings happenings', R v v' →
    List.Forall₂ (Happening.Alike (Client.Alike (Counterparts P) R)) happenings happenings' →
    let run := (start capacity now ⟨none, v⟩).run setup u happenings
    let run' := (start capacity now ⟨none, v'⟩).run setup u' happenings'
    run.2 = run'.2 ∧ run.1.journal = run'.1.journal

/-- Two agents whose credentials files differ in the password, before cameras that treat the one as
the other, tell nothing of it. -/
theorem run_passwordKept {file : ν → FileText} {file' : ν' → FileText}
    {camera : Request → ν → Exchange × Duration × ν}
    {camera' : Request → ν' → Exchange × Duration × ν'}
    (twins : Twins P R file file' camera camera')
    {readings : ν → Host.Readings} {readings' : ν' → Host.Readings} {reachable : ν → String → Bool}
    {reachable' : ν' → String → Bool}
    (host : ∀ v v', R v v' → readings v = readings' v' ∧ reachable v = reachable' v')
    {faults : Json.Wording} (prompt : faults.Prompt Credentials.decode)
    (identityFaults : Json.Wording)
    (env : String → Option String) (path : String) (client : ClientSetup)
    (timestamp : Instant → String) :
    let w := Camera.Surroundings.ofSource env (.file path) file camera faults identityFaults
    let w' := Camera.Surroundings.ofSource env (.file path) file' camera' faults identityFaults
    PasswordKept P R client w w' (.ofCamera readings reachable w client timestamp)
      (.ofCamera readings' reachable' w' client timestamp) := by
  intro w w'
  have alike : w.Alike (Counterparts P) R w' := twins.alike prompt identityFaults env path
  have users (c c' : Credentials) (both : Counterparts P c c') : c.username = c'.username :=
    both.username
  refine { acquired := ?acquired, told := ?told, served := ?served }
  case acquired =>
    intro v v' same
    have acquired := alike.acquire v v' same
    generalize w.acquire v = result, w'.acquire v' = result' at acquired
    cases acquired with
    | failed e => rfl
    | ok both => exact congrArg Except.ok both.shown
  case told =>
    intro policy now v v' occurrences occurrences' same both run run'
    have started : Shared.Alike (Counterparts P) R (Shared.start v now) (Shared.start v' now) :=
      ⟨rfl, ⟨.none, same⟩, rfl⟩
    have notes := (started.run client policy alike users both).2
    exact ⟨notes, Episode.log_alike policy notes⟩
  case served =>
    intro setup capacity now v v' happenings happenings' same both run run'
    have started := start_alike capacity now
      (⟨.none, same⟩ : Client.Alike (Counterparts P) R ⟨none, v⟩ ⟨none, v'⟩)
    obtain ⟨agents, served⟩ :=
      started.run setup (ofCamera_alike client timestamp alike users host) both
    exact ⟨served, agents.journal⟩

end

/-! ## Two passwords -/

/-- A camera that knows a password and answers nobody else. -/
def guarded (password : String) (r : Request) (file : FileText) : Exchange × Duration × FileText :=
  let status := if r.credentials.password = password then 200 else 401
  (.answered ⟨status, [], .ok "46.71".toUTF8.toList⟩, ⟨1⟩, file)

def silentHost : Host.Readings :=
  ⟨.failed (.malformed .uptime ""), .failed (.malformed .memory ""), .failed (.malformed .load ""),
    .failed (.malformed .cpu ""), .failed (.malformed .network ""),
    .failed (.malformed .filesystem ""), .failed (.malformed .processes "")⟩

/-- A file with a user name and whatever stands for the password. -/
def credentialsText (username password : String) : String :=
  "\x7b\"username\":\"" ++ username ++ "\",\"password\":" ++ password ++ "\x7d"

/-- Each file has its own password, and each camera knows the one of its file. -/
theorem passwordKept_of_texts :
    let P (s s' : String) : Prop := s = "a" ∧ s' = "b"
    let R := FilesAlike P
    let client : ClientSetup := ⟨"http://cam", "camwatch", ⟨5⟩⟩
    let faults : Json.Wording := { Json.Wording.bare with place? := fun _ _ => some ⟨1, 29⟩ }
    let w (password : String) :=
      Camera.Surroundings.ofSource (fun _ => none) (.file "vapix.json") id (guarded password) faults
    let u (password : String) := Surroundings.ofCamera (fun _ => silentHost) (fun _ _ => false)
      (w password) client fun _ => ""
    R (.ok (credentialsText "svc" "\"a\"")) (.ok (credentialsText "svc" "\"b\"")) ∧
      R (.ok (credentialsText "svc" "[1]")) (.ok (credentialsText "svc" "[2,3]")) ∧
      (w "a").acquire (.ok (credentialsText "svc" "\"a\"")) = .ok ⟨"svc", "a"⟩ ∧
      (w "a").acquire (.ok (credentialsText "svc" "[1]")) = .error (.auth ("parsing vapix.json: "
        ++ "invalid type: sequence, expected a string at line 1 column 29")) ∧
      PasswordKept P R client (w "a") (w "b") (u "a") (u "b") := by
  intro P R client faults w u
  have bare := Json.isBlanks_nil
  have user : Json.SpellsMember Json.Writes (some "username", .string (some "svc"))
      "\"username\":\"svc\"".toList :=
    Json.spellsMember_plain (s := "svc") (by simp [Json.IsPlain]) (by simp [Json.IsPlain])
  have writes (s : String) (plain : Json.IsPlain s) :
      Json.Writes (.object (pair "svc" (.string (some s))) none) _ :=
    .object (.items (.cons bare user bare
      (.one bare (Json.spellsMember_plain (by simp [Json.IsPlain]) plain) bare)))
  have texts : R (.ok (credentialsText "svc" "\"a\"")) (.ok (credentialsText "svc" "\"b\"")) :=
    .of_texts ⟨rfl, rfl⟩ ⟨[], _, [], bare, writes "a" (by simp [Json.IsPlain]), bare, rfl⟩
      ⟨[], _, [], bare, writes "b" (by simp [Json.IsPlain]), bare, rfl⟩
  have begins : Json.Begins [(some "username", .string (some "svc"))] "password" '['
      "\x7b\"username\":\"svc\",\"password\":[".toList :=
    .intro bare (.cons bare user bare .nil) bare
      (Json.spellsString_plain (s := "password") (by simp [Json.IsPlain])) bare bare
  have arrays : R (.ok (credentialsText "svc" "[1]")) (.ok (credentialsText "svc" "[2,3]")) :=
    .of_brackets begins .array "1]\x7d" "2,3]\x7d"
  have prompt : faults.Prompt Credentials.decode := fun _ _ _ _ _ _ => rfl
  refine ⟨texts, arrays, by decide +kernel, by decide +kernel,
    run_passwordKept ⟨fun _ _ same => same, ?_⟩ (fun _ _ _ => ⟨rfl, rfl⟩) prompt _ _ _ _ _⟩
  intro query c c' file file' both same
  have knows : c.password = "a" ∧ c'.password = "b" := both.password
  simp only [guarded, knows.1, knows.2, if_true]
  exact ⟨trivial, trivial, same⟩

/-! ## Numbers -/

def isVerbatim (s : String) : Bool := s.toList.all fun c => Json.escapeChar c == c.toString

theorem stringText_of_isVerbatim {s : String} (verbatim : isVerbatim s = true) :
    Json.stringText s = "\"" ++ s ++ "\"" := by
  have same (c : Char) (mem : c ∈ s.toList) : Json.escapeChar c = c.toString :=
    beq_iff_eq.1 (List.all_eq_true.1 verbatim c mem)
  rw [Json.stringText, Text.foldl_verbatim same]

/-- A reason without special characters stands in the body of a failure as it is. -/
theorem failure_body {status : Nat} {reason : String} (verbatim : isVerbatim reason = true) :
    (Http.Response.failure status reason).body = "\x7b\"error\":\"" ++ reason ++ "\"\x7d" := by
  have name : Json.stringText "error" = "\"" ++ "error" ++ "\"" :=
    stringText_of_isVerbatim (by decide)
  calc (Http.Response.failure status reason).body
      = ("\x7b" ++ "\"" ++ "error" ++ "\"" ++ ":" ++ "\"") ++ reason ++ ("\"" ++ "\x7d") := by
        simp only [Http.Response.failure, Http.Response.json, Json.Value.compact, Json.membersText,
          name, stringText_of_isVerbatim verbatim, String.append_assoc]
    _ = "\x7b\"error\":\"" ++ reason ++ "\"\x7d" := by simp

theorem getDevice_response {ω : Type} (setup : Setup) (w : Surroundings ω) (a : Agent ω) :
    (a.getDevice setup w).1 =
      match (a.askDevice setup w).1.map (·.lookup) with
      | none => .failure 503 "device info collection is disabled"
      | some (.ok l) => .json 200 (deviceDocument l)
      | some (.error e) => .failure 503 e.message := by
  unfold getDevice
  generalize a.askDevice setup w = asked
  obtain ⟨feed, b⟩ := asked
  cases feed with
  | none => rfl
  | some feed =>
    simp only [Option.map_some]
    split <;> simp [*]

theorem serve_device {ω : Type} {setup : Setup} {w : Surroundings ω} {a : Agent ω}
    {r : Http.Request} (method : r.method = "GET") (path : Route.ofPath? r.path = some .device) :
    (a.serve setup w r).1 =
      match (a.askDevice setup w).1.map (·.lookup) with
      | none => .failure 503 "device info collection is disabled"
      | some (.ok l) => .json 200 (deviceDocument l)
      | some (.error e) => .failure 503 e.message := by
  have asked : ((record setup w [requestEvent r] { a with requests := a.requests + 1 }).askDevice
      setup w).1 = (a.askDevice setup w).1 := by
    unfold askDevice
    cases setup.device <;> rfl
  simp only [serve, respond, path, method, if_true, get, getDevice_response, asked]

/-- Where a number stands for the password, it is in the message of the failure, and in the body
that the agent serves. -/
theorem number_told :
    let faults : Json.Wording := { Json.Wording.bare with place? := fun _ _ => some ⟨1, 30⟩ }
    let w := Camera.Surroundings.ofSource (fun _ => none) (.file "vapix.json") id
      (guarded "1") faults
    let u := Surroundings.ofCamera (fun _ => silentHost) (fun _ _ => false) w
      ⟨"http://cam", "camwatch", ⟨5⟩⟩ fun _ => ""
    let setup : Setup := ⟨"camwatch", "cam-1", [], [], none,
      some ⟨Setup.deviceName, ⟨60⟩, ⟨5⟩⟩, .ofSetting none, .info⟩
    let one : FileText := .ok "\x7b\"username\":\"svc\",\"password\":1\x7d"
    let two : FileText := .ok "\x7b\"username\":\"svc\",\"password\":2\x7d"
    let failure (number : String) : FetchFailure :=
      .auth ("parsing vapix.json: invalid type: integer \x60" ++ number
        ++ "\x60, expected a string at line 1 column 30")
    let logged (file : FileText) : List Event :=
      (ask u.device ⟨Setup.deviceName, ⟨60⟩, ⟨5⟩⟩ ⟨.empty, ⟨none, file⟩, 0⟩).2.2
    let shows (file : FileText) (number : String) : Prop :=
      ((start 100 0 ⟨none, file⟩).serve setup u ⟨"GET", "/device"⟩).1.body =
        "\x7b\"error\":\"" ++ NoData.message ⟨Setup.deviceName, failure number⟩ ++ "\"\x7d"
    w.acquire one = .error (failure "1") ∧ w.acquire two = .error (failure "2") ∧
      failure "1" ≠ failure "2" ∧ logged one ≠ logged two ∧ shows one "1" ∧ shows two "2" ∧
      ¬ shows two "1" := by
  intro faults w u setup one two failure logged shows
  have path : Route.ofPath? (⟨"GET", "/device"⟩ : Http.Request).path = some .device := by
    decide +kernel
  have told (file : FileText) (number : String)
      (asked : ((start 100 0 ⟨none, file⟩).askDevice setup u).1.map (·.lookup) =
        some (.error ⟨Setup.deviceName, failure number⟩))
      (verbatim : isVerbatim (NoData.message ⟨Setup.deviceName, failure number⟩) = true) :
      shows file number := by
    simp only [shows]
    rw [serve_device rfl path, asked]
    exact failure_body verbatim
  have second : shows two "2" := told two "2" (by decide +kernel) (by decide +kernel)
  refine ⟨by decide +kernel, by decide +kernel, by decide +kernel, by decide +kernel,
    told one "1" (by decide +kernel) (by decide +kernel), second, fun first => ?_⟩
  have same := first.symm.trans second
  revert same
  decide +kernel

end CameraTelemetry.Agent
