import CameraTelemetry.Camera.Sharing
import CameraTelemetry.Proofs.Cache.Reaching

/-!
# What the client does in a step

A fetch sends its request with the credentials held, or acquires some first, and sends nothing if
that fails; the hook acquires some and holds nothing if that fails. A step of a cache does one of
the two or leaves the client alone.
-/
namespace CameraTelemetry.Camera

open Cache Journal Json

variable {ν α : Type} {w : Surroundings ν} {setup : ClientSetup}

/-! ## Rejection -/

/-- The camera turned a request down for its credentials. -/
def Exchange.Rejects : Exchange → Prop
  | failed _ => False
  | answered r => r.status = 401 ∨ r.status = 403

theorem Response.bodyText_eq_auth {r : Response} :
    (∃ reason, r.bodyText = .error (.auth reason)) ↔ (Exchange.answered r).Rejects := by
  unfold Response.bodyText Exchange.Rejects
  split
  case isTrue unauthorized => simp [unauthorized]
  case isFalse authorized =>
    split
    case isTrue forbidden => simp [forbidden]
    case isFalse allowed =>
      have accepted : ¬ (r.status = 401 ∨ r.status = 403) := by
        simp [authorized, allowed]
      simp only [accepted, iff_false, not_exists]
      intro reason
      split
      · simp
      · split <;> simp

/-- What an answer says is never that it was turned down. -/
theorem Metric.read_ne_auth (identityFaults : Wording) (m : Metric) (body reason : String) :
    (m.read identityFaults body).1 ≠ .error (.auth reason) := by
  cases m with
  | temperature =>
    change (readTemperature body).1 ≠ _
    unfold readTemperature
    split
    · simp
    · split
      · simp
      · split <;> simp
  | identity =>
    change readDeviceInfo body identityFaults ≠ _
    unfold readDeviceInfo
    split <;> simp

namespace Client

variable {timeout : Duration} {read : String → Except FetchFailure α × List Event}
  {exchange : Exchange} {delay : Duration}

/-- A request that is turned down in time ends the call by a rejection. -/
theorem received_of_rejects (read : String → Except FetchFailure α × List Event)
    (rejects : exchange.Rejects) (inTime : ¬ timeout < delay) :
    ∃ reason, received timeout read exchange delay = ⟨delay, .failed (.auth reason), []⟩ := by
  cases exchange with
  | failed reason => exact rejects.elim
  | answered r =>
    obtain ⟨reason, body⟩ := Response.bodyText_eq_auth.2 rejects
    exact ⟨reason, by simp [received, inTime, body]⟩

/-- A call that ends by a rejection has sent a request that was turned down, and lasts as long. -/
theorem rejects_of_received {reason : String}
    (honest : ∀ body reason, (read body).1 ≠ .error (.auth reason))
    (rejected : (received timeout read exchange delay).ending = .failed (.auth reason)) :
    exchange.Rejects ∧ (received timeout read exchange delay).delay = delay := by
  unfold received at rejected ⊢
  split at rejected
  case isTrue late => cases rejected
  case isFalse inTime =>
    rw [if_neg inTime]
    cases exchange with
    | failed reason => cases rejected
    | answered r =>
      simp only at rejected ⊢
      cases body : r.bodyText with
      | error e =>
        simp only [body, Ending.failed.injEq] at rejected
        subst rejected
        exact ⟨Response.bodyText_eq_auth.1 ⟨reason, body⟩, rfl⟩
      | ok text =>
        simp only [body] at rejected
        split at rejected
        · cases rejected
        · next e events refused =>
          simp only [Ending.failed.injEq] at rejected
          subst rejected
          exact absurd (congrArg Prod.fst refused) (honest text reason)

/-! ## Calls -/

/-- What a fetch comes to, from the credentials held and the surroundings. -/
inductive Fetched (w : Surroundings ν) (timeout : Duration) (query : Query)
    (read : String → Except FetchFailure α × List Event) (held : Option Credentials) (v : ν) :
    Call α × Client (Recorded ν) → Prop
  | refused {e : FetchFailure} (without : held = none) (failed : w.acquire v = .error e) :
      Fetched w timeout query read held v
        (⟨⟨0⟩, .failed e, []⟩, ⟨none, ⟨w.acquired v, [.acquired (.error e)]⟩⟩)
  | sent {c : Credentials} {first : List Deed} (outside : ν) (exchange : Exchange)
      (delay : Duration)
      (found : held = some c ∧ first = [] ∨
        held = none ∧ w.acquire v = .ok c ∧ first = [.acquired (.ok c)]) :
      Fetched w timeout query read held v (received timeout read exchange delay,
        ⟨some c, ⟨outside, first ++ [.sent ⟨query, c⟩ exchange delay]⟩⟩)

theorem send_fetched (w : Surroundings ν) (setup : ClientSetup) (query : Query)
    (read : String → Except FetchFailure α × List Event) (held : Option Credentials) (v : ν) :
    Fetched w setup.timeout query read held v
      (send w.recorded setup query read ⟨held, ⟨v, []⟩⟩) := by
  unfold send credentials
  cases held with
  | some c =>
    exact .sent (w.exchange ⟨query, c⟩ v).2.2 (w.exchange ⟨query, c⟩ v).1
      (w.exchange ⟨query, c⟩ v).2.1 (.inl ⟨rfl, rfl⟩)
  | none =>
    cases acquired : w.acquire v with
    | error e =>
      simp only [Surroundings.recorded, acquired, List.nil_append]
      exact .refused rfl acquired
    | ok c =>
      simp only [Surroundings.recorded, acquired, List.nil_append]
      exact .sent (w.exchange ⟨query, c⟩ (w.acquired v)).2.2
        (w.exchange ⟨query, c⟩ (w.acquired v)).1
        (w.exchange ⟨query, c⟩ (w.acquired v)).2.1 (.inr ⟨rfl, acquired, rfl⟩)

section

variable {query : Query} {held : Option Credentials} {v : ν} {call : Call α}
  {client : Client (Recorded ν)} {limit : Duration} {r : Request} {reason : String}

theorem bounded_of_atOnce (limit : Duration) (ending : Ending α) (events : List Event) :
    (⟨⟨0⟩, ending, events⟩ : Call α).bounded limit = .ended ending events ∧
      (⟨⟨0⟩, ending, events⟩ : Call α).lasting limit = ⟨0⟩ :=
  ⟨if_neg (Nat.not_lt_zero limit.nanos), congrArg Duration.mk (Nat.zero_min limit.nanos)⟩

/-- A limited call that ends by a rejection ends so by itself. -/
theorem ending_of_bounded (rejected : (call.bounded limit).outcome? limit =
    some (.error (.auth reason))) :
    call.ending = .failed (.auth reason) ∧ call.lasting limit = call.delay := by
  unfold Call.bounded at rejected
  split at rejected
  case isTrue late => simp [Bounded.outcome?] at rejected
  case isFalse inTime =>
    have within : call.delay.nanos ≤ limit.nanos := Nat.le_of_not_lt inTime
    cases ending : call.ending with
    | failed e =>
      simp only [ending, Bounded.outcome?, Option.some.injEq, Except.error.injEq] at rejected
      simp [rejected, Call.lasting, Nat.min_eq_left within]
    | _ => simp [ending, Bounded.outcome?] at rejected

/-- Where a fetch is rejected its request was turned down, at the moment the fetch ends. -/
theorem Fetched.rejects (fetched : Fetched w timeout query read held v (call, client))
    (honest : ∀ body reason, (read body).1 ≠ .error (.auth reason))
    (rejected : (call.bounded limit).outcome? limit = some (.error (.auth reason)))
    (sent : .sent r exchange delay ∈ client.outside.deeds) :
    exchange.Rejects ∧ call.lasting limit = delay := by
  obtain ⟨ending, lasting⟩ := ending_of_bounded rejected
  cases fetched with
  | refused without failed => simp at sent
  | @sent c first outside exchange' delay' found =>
    obtain ⟨-, rfl, rfl⟩ : r = ⟨query, c⟩ ∧ exchange = exchange' ∧ delay = delay' := by
      rcases found with ⟨-, rfl⟩ | ⟨-, -, rfl⟩ <;> simpa using sent
    obtain ⟨rejects, same⟩ := rejects_of_received honest ending
    exact ⟨rejects, lasting.trans same⟩

/-- A fetch whose request is turned down within all limits is rejected. -/
theorem Fetched.rejected (fetched : Fetched w timeout query read held v (call, client))
    (sent : .sent r exchange delay ∈ client.outside.deeds) (rejects : exchange.Rejects)
    (inTime : ¬ timeout < delay) (within : ¬ limit < delay) :
    ∃ reason, (call.bounded limit).outcome? limit = some (.error (.auth reason)) := by
  cases fetched with
  | refused without failed => simp at sent
  | @sent c first outside exchange' delay' found =>
    obtain ⟨-, rfl, rfl⟩ : r = ⟨query, c⟩ ∧ exchange = exchange' ∧ delay = delay' := by
      rcases found with ⟨-, rfl⟩ | ⟨-, -, rfl⟩ <;> simpa using sent
    obtain ⟨reason, call⟩ := received_of_rejects read rejects inTime
    exact ⟨reason, by simp [call, Call.bounded, within, Bounded.outcome?]⟩

end

/-- What a renewal comes to. -/
inductive Renewed (w : Surroundings ν) (v : ν) : Call Unit × Client (Recorded ν) → Prop
  | refused {e : FetchFailure} (failed : w.acquire v = .error e) :
      Renewed w v (⟨⟨0⟩, .failed e, []⟩, ⟨none, ⟨w.acquired v, [.acquired (.error e)]⟩⟩)
  | renewed {c : Credentials} (fresh : w.acquire v = .ok c) :
      Renewed w v (⟨⟨0⟩, .value (), [renewedEvent c]⟩,
        ⟨some c, ⟨w.acquired v, [.acquired (.ok c)]⟩⟩)

theorem renew_renewed (w : Surroundings ν) (held : Option Credentials) (v : ν) :
    Renewed w v (renew w.recorded ⟨held, ⟨v, []⟩⟩) := by
  unfold renew
  cases acquired : w.acquire v with
  | error e =>
    simp only [Surroundings.recorded, acquired, List.nil_append]
    exact .refused acquired
  | ok c =>
    simp only [Surroundings.recorded, acquired, List.nil_append]
    exact .renewed acquired

/-- The hook comes back. -/
theorem renew_returns (c : Client ν) (payload : String) :
    (renew w c).1.ending ≠ .panicked payload := by
  unfold renew
  split <;> exact fun ended => nomatch ended

end Client

/-! ## Steps -/

namespace Episode

def Acquires (e : Episode) : Prop := ∃ result, .acquired result ∈ e.deeds

/-- The credentials held were given up for new ones. -/
def Renews (e : Episode) : Prop := ∃ m id, .credentialsRejected id ∈ e.notes m

/-- One call was made behind the cache of a metric, and nothing happened to the other one. -/
structure Calls (e : Episode) (m : Metric) (n : Note m.Value) : Prop where
  noted : n ∈ e.notes m
  only : ∀ n' ∈ e.notes m, n'.isCall = true → n' = n
  others : ∀ m', m' ≠ m → e.notes m' = []

end Episode

namespace Episode.Calls

variable {e : Episode} {m m' : Metric} {id id' : Nat} {retry retry' : Bool}

theorem eq_of_attempt (calls : e.Calls m (.attemptStarted id retry))
    (mem : .attemptStarted id' retry' ∈ e.notes m') : m' = m ∧ id' = id ∧ retry' = retry := by
  by_cases own : m' = m
  · subst own
    simpa using calls.only _ mem rfl
  · simp [calls.others m' own] at mem

theorem not_renews (calls : e.Calls m (.attemptStarted id retry)) : ¬ e.Renews := by
  rintro ⟨m', id', mem⟩
  by_cases own : m' = m
  · subst own
    simpa using calls.only _ mem rfl
  · simp [calls.others m' own] at mem

theorem not_attempt (calls : e.Calls m (.credentialsRejected id)) :
    .attemptStarted id' retry ∉ e.notes m' := by
  intro mem
  by_cases own : m' = m
  · subst own
    simpa using calls.only _ mem rfl
  · simp [calls.others m' own] at mem

end Episode.Calls

namespace Shared

variable {policy : Metric → Policy} {s s' : Shared ν} {e : Episode}

/-- What a step makes of the tasks and of the client. -/
inductive Stepped (w : Surroundings ν) (setup : ClientSetup) (policy : Metric → Policy)
    (s s' : Shared ν) (e : Episode) : Prop
  | quiet (held : s'.client.held = s.client.held) (deeds : e.deeds = [])
      (calls : ∀ m, ∀ n ∈ e.notes m, n.isCall = false)
      (tasks : ∀ m, ∀ t ∈ (s'.caches m).tasks, t ∈ (s.caches m).tasks ∨ t.phase = .spawned)
  | fetched {m : Metric} {id : Nat} {retry : Bool} {phase : Phase m.Value} {call : Call m.Value}
      {client : Client (Recorded ν)} (task : ⟨id, phase⟩ ∈ (s.caches m).tasks)
      (leads : phase.Leads retry s.now)
      (fetched : Client.Fetched w setup.timeout (m.query setup) (m.read w.identityFaults)
        s.client.held s.client.outside (call, client))
      (held : s'.client.held = client.held) (deeds : e.deeds = client.outside.deeds)
      (calls : e.Calls m (.attemptStarted id retry))
      (alone : (s'.caches m).tasks = [⟨id, .attempting retry
        (s.now + (call.lasting (policy m).fetchTimeout).nanos)
        (call.bounded (policy m).fetchTimeout)⟩])
      (others : ∀ m', m' ≠ m → s'.caches m' = s.caches m') (still : s'.now = s.now)
  | renewed {m : Metric} {id : Nat} {phase : Phase m.Value} {call : Call Unit}
      {client : Client (Recorded ν)} (task : ⟨id, phase⟩ ∈ (s.caches m).tasks)
      (rejected : phase.Rejected (policy m).fetchTimeout s.now)
      (renewed : Client.Renewed w s.client.outside (call, client))
      (held : s'.client.held = client.held) (deeds : e.deeds = client.outside.deeds)
      (calls : e.Calls m (.credentialsRejected id))
      (alone : (s'.caches m).tasks = [⟨id, .renewing
        (s.now + (call.lasting (policy m).fetchTimeout).nanos)
        (call.bounded (policy m).fetchTimeout)⟩])
      (others : ∀ m', m' ≠ m → s'.caches m' = s.caches m') (still : s'.now = s.now)

theorem step_moment (occurrence : Occurrence ν) :
    (s.step w setup policy occurrence).2.moment = s.now := by
  cases occurrence <;> rfl

theorem calls_of_step {m : Metric} {action : Action} {passing : List (Note m.Value)}
    {n : Note m.Value} (quiet : ∀ n ∈ passing, n.isPassing = true)
    (notes : ((s.site m).step (m.remote w.recorded setup) (policy m) action).2 = passing ++ [n]) :
    (s.step w setup policy (.step m action)).2.Calls m n := by
  constructor
  case noted => simp [step, notes]
  case only =>
    intro n' mem call
    simp only [step, notes, Function.update_self] at mem
    rcases List.mem_append.1 mem with early | last
    · have silent := Note.not_call_of_passing (quiet n' early)
      rw [call] at silent
      cases silent
    · exact List.mem_singleton.1 last
  case others =>
    intro m' other
    simp [step, Function.update_of_ne other]

/-- Every step is one of the kinds that are listed. -/
theorem step_stepped (flight : ∀ m, ∃ h, Flight (s.caches m) h) (occurrence : Occurrence ν) :
    Stepped w setup policy s (s.step w setup policy occurrence).1
      (s.step w setup policy occurrence).2 := by
  cases occurrence with
  | change f => exact .quiet rfl rfl (by simp [step]) fun m t mem => .inl mem
  | step m action =>
    have others : ∀ m', m' ≠ m →
        (s.step w setup policy (.step m action)).1.caches m' = s.caches m' := fun m' other => by
      simp [step, Function.update_of_ne other]
    have mine : (s.step w setup policy (.step m action)).1.caches m =
        ((s.site m).step (m.remote w.recorded setup) (policy m) action).1.cache := by
      simp [step]
    have alone {id : Nat} {phase phase' : Phase m.Value}
        (task : ⟨id, phase⟩ ∈ (s.caches m).tasks) :
        ((s.caches m).setPhase id phase').tasks = [⟨id, phase'⟩] := by
      obtain ⟨h, flight⟩ := flight m
      simp [setPhase, flight.alone_of_task task]
    cases (s.site m).step_reaching (m.remote w.recorded setup) (policy m) action with
    | nothing world quiet tasks =>
      have held := congrArg Client.held world
      have deeds := congrArg (·.outside.deeds) world
      refine .quiet held deeds ?_ ?_
      · intro m' n mem
        by_cases own : m' = m
        · subst own
          exact quiet n (by simpa [step] using mem)
        · simp [step, Function.update_of_ne own] at mem
      · intro m' t mem
        by_cases own : m' = m
        · subst own
          exact tasks t (mine ▸ mem)
        · exact .inl (others m' own ▸ mem)
    | @fetch id retry phase passing task leads quiet started =>
      have site := congrArg Prod.fst started
      have fetched := Client.send_fetched w setup (m.query setup) (m.read w.identityFaults)
        s.client.held s.client.outside
      have fetch : (m.remote w.recorded setup).fetch =
          Client.send w.recorded setup (m.query setup) (m.read w.identityFaults) := by
        rw [Metric.remote_eq]
        rfl
      rw [← fetch] at fetched
      refine .fetched task leads fetched (congrArg (·.world.held) site)
        (congrArg (·.world.outside.deeds) site) (calls_of_step quiet (congrArg Prod.snd started))
        ?_ others (congrArg Site.now site)
      rw [mine, site]
      exact alone task
    | @hook id phase passing hook known task rejected quiet started =>
      have site := congrArg Prod.fst started
      have renewed := Client.renew_renewed w s.client.held s.client.outside
      obtain rfl : Client.renew w.recorded = hook := by
        rw [Metric.remote_eq] at known
        exact Option.some.inj known
      refine .renewed task rejected renewed (congrArg (·.world.held) site)
        (congrArg (·.world.outside.deeds) site) (calls_of_step quiet (congrArg Prod.snd started))
        ?_ others (congrArg Site.now site)
      rw [mine, site]
      exact alone task

end Shared

end CameraTelemetry.Camera
