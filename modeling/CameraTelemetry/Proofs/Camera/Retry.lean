import CameraTelemetry.Proofs.Camera.Renewal

/-!
# Credentials that were turned down

A refresh whose first attempt was turned down is tried once more, with credentials acquired since
then; if there are none to be had, the retry sends nothing and the refresh ends by that failure.
-/
namespace CameraTelemetry.Camera

open Cache

variable {ν : Type} {w : Surroundings ν} {setup : ClientSetup} {policy : Metric → Policy}

/-! ## Rejections -/

/-- The first attempt of a refresh was turned down, which was noticed in this episode, and the
credentials were renewed in it: if the attempt sent a request, the camera rejected that, and had
done so by then. -/
structure RejectedIn (m : Metric) (id : Nat) (before : List Episode) (e : Episode) : Prop where
  noticed : .credentialsRejected id ∈ e.notes m
  acquires : e.Acquires
  answered : ∃ first ∈ before, .attemptStarted id false ∈ first.notes m ∧
    ∀ r x d, .sent r x d ∈ first.deeds → x.Rejects ∧ first.moment + d.nanos ≤ e.moment

section

variable {s s' : Shared ν} {h : List Episode} {e : Episode}

/-- The task of a first attempt was begun in an episode, and if it is to be rejected then because of
the request sent in it. -/
def Begun (policy : Metric → Policy) (s : Shared ν) (h : List Episode) : Prop :=
  ∀ m id due result, ⟨id, .attempting false due result⟩ ∈ (s.caches m).tasks →
    ∃ first ∈ h, .attemptStarted id false ∈ first.notes m ∧
      ∀ reason, result.outcome? (policy m).fetchTimeout = some (.error (.auth reason)) →
        ∀ r x d, .sent r x d ∈ first.deeds → x.Rejects ∧ first.moment + d.nanos = due

def Turned (s : Shared ν) (h : List Episode) : Prop :=
  ∀ m id due result, ⟨id, .renewing due result⟩ ∈ (s.caches m).tasks →
    ∃ before x after, h = before ++ x :: after ∧ RejectedIn m id before x

theorem Begun.extend {m : Metric} {id : Nat} {due : Instant} {result : Bounded m.Value}
    (begun : Begun policy s h) (task : ⟨id, .attempting false due result⟩ ∈ (s.caches m).tasks) :
    ∃ first ∈ h ++ [e], .attemptStarted id false ∈ first.notes m ∧
      ∀ reason, result.outcome? (policy m).fetchTimeout = some (.error (.auth reason)) →
        ∀ r x d, .sent r x d ∈ first.deeds → x.Rejects ∧ first.moment + d.nanos = due := by
  obtain ⟨first, mem, rest⟩ := begun m id due result task
  exact ⟨first, List.mem_append_left _ mem, rest⟩

theorem begun_step (begun : Begun policy s h) (stepped : Shared.Stepped w setup policy s s' e)
    (moment : e.moment = s.now) : Begun policy s' (h ++ [e]) := by
  intro m id due result task'
  cases stepped with
  | quiet held deeds calls tasks =>
    rcases tasks m _ task' with old | new
    · exact begun.extend old
    · cases new
  | @fetched m₀ id₀ retry phase call client task leads fetched held deeds calls alone others
    still =>
    by_cases own : m = m₀
    · subst own
      simp only [alone, List.mem_singleton, Task.mk.injEq, Phase.attempting.injEq] at task'
      obtain ⟨rfl, rfl, rfl, rfl⟩ := task'
      refine ⟨e, by simp, calls.noted, fun reason rejected r x d sent => ?_⟩
      obtain ⟨rejects, lasting⟩ :=
        fetched.rejects (m.read_ne_auth w.identityFaults) rejected (deeds ▸ sent)
      exact ⟨rejects, by rw [moment, lasting]⟩
    · exact begun.extend (others m own ▸ task')
  | @renewed m₀ id₀ phase call client task rejected renewed held deeds calls alone others still =>
    by_cases own : m = m₀
    · subst own
      simp [alone] at task'
    · exact begun.extend (others m own ▸ task')

theorem Turned.extend {m : Metric} {id : Nat} {due : Instant} {result : Bounded Unit}
    (turned : Turned s h) (task : ⟨id, .renewing due result⟩ ∈ (s.caches m).tasks) :
    ∃ before x after, h ++ [e] = before ++ x :: after ∧ RejectedIn m id before x := by
  obtain ⟨before, x, after, rfl, rejected⟩ := turned m id due result task
  exact ⟨before, x, after ++ [e], by simp, rejected⟩

theorem turned_step (begun : Begun policy s h) (turned : Turned s h)
    (stepped : Shared.Stepped w setup policy s s' e) (moment : e.moment = s.now) :
    Turned s' (h ++ [e]) := by
  intro m id due result task'
  cases stepped with
  | quiet held deeds calls tasks =>
    rcases tasks m _ task' with old | new
    · exact turned.extend old
    · cases new
  | @fetched m₀ id₀ retry phase call client task leads fetched held deeds calls alone others
    still =>
    by_cases own : m = m₀
    · subst own
      simp [alone] at task'
    · exact turned.extend (others m own ▸ task')
  | @renewed m₀ id₀ phase call client task rejected renewed held deeds calls alone others still =>
    by_cases own : m = m₀
    · subst own
      simp only [alone, List.mem_singleton, Task.mk.injEq, Phase.renewing.injEq] at task'
      obtain ⟨rfl, -, -⟩ := task'
      refine ⟨h, e, [], rfl, calls.noted, ?_, ?_⟩
      · cases renewed with
        | refused failed => exact ⟨_, by rw [deeds]; exact List.mem_singleton_self _⟩
        | renewed fresh => exact ⟨_, by rw [deeds]; exact List.mem_singleton_self _⟩
      · match phase, rejected with
        | .attempting false due result, ⟨elapsed, reason, outcome⟩ =>
          obtain ⟨first, mem, started, answered⟩ := begun m id due result task
          refine ⟨first, mem, started, fun r x d sent => ?_⟩
          obtain ⟨rejects, moment'⟩ := answered reason outcome r x d sent
          exact ⟨rejects, by rw [moment', moment]; exact elapsed⟩
    · exact turned.extend (others m own ▸ task')

end

/-! ## Retries -/

/-- A refresh ends by a failure and in no other way: it has ended so, or does when its task is run.
-/
structure EndsBy (w : Surroundings ν) (setup : ClientSetup) (policy : Metric → Policy)
    (s : Shared ν) (m : Metric) (id : Nat) (f : FetchFailure) (later : List Episode) : Prop where
  only : ∀ e ∈ later, ∀ n ∈ e.notes m, ∀ outcome, n.outcome? id = some outcome →
    ∃ older, n = .refreshFailed id f older
  ends : (∃ e ∈ later, ∃ older, .refreshFailed id f older ∈ e.notes m) ∨
    ∃ older, .refreshFailed id f older ∈
      (s.step w setup policy (.step m (.work id))).2.notes m

section

variable {s : Shared ν} {h : List Episode} {m : Metric} {id : Nat} {f : FetchFailure}
  {later : List Episode}

/-- A retry without credentials ends its refresh by that failure, or has done so. -/
structure Failing (s : Shared ν) (m : Metric) (id : Nat) (f : FetchFailure)
    (later : List Episode) : Prop where
  only : ∀ e ∈ later, ∀ n ∈ e.notes m, ∀ outcome, n.outcome? id = some outcome →
    ∃ older, n = .refreshFailed id f older
  ends : (∃ e ∈ later, ∃ older, .refreshFailed id f older ∈ e.notes m) ∨
    ∃ due, ⟨id, .attempting true due (.ended (.failed f) [])⟩ ∈ (s.caches m).tasks ∧ due ≤ s.now

theorem Failing.endsBy (failing : Failing s m id f later)
    (reached : Reached (policy m) s.now (s.caches m) (historyOf m h)) :
    EndsBy w setup policy s m id f later := by
  refine ⟨failing.only, failing.ends.imp_right ?_⟩
  rintro ⟨due, task, elapsed⟩
  have alone := reached.flight.alone_of_task task
  have work : (s.site m).step (m.remote w.recorded setup) (policy m) (.work id) = _ :=
    (Site.work_of_alone (s := s.site m) alone).trans (Site.proceed_of_failed elapsed)
  refine ⟨(s.caches m).entry.isSome, ?_⟩
  rw [(Shared.step_caches_self w setup policy m _).2, work]
  exact List.mem_singleton_self _

/-- Nothing happens to a refresh while its cache does not move. -/
theorem Failing.still {s' : Shared ν} {e : Episode} (failing : Failing s m id f later)
    (same : s'.caches m = s.caches m) (silent : e.notes m = []) (later' : s.now ≤ s'.now) :
    Failing s' m id f (later ++ [e]) := by
  constructor
  case only =>
    intro x mem n noted
    rcases List.mem_append.1 mem with old | new
    · exact failing.only x old n noted
    · simp [List.mem_singleton.1 new, silent] at noted
  case ends =>
    rcases failing.ends with ⟨x, mem, ended⟩ | ⟨due, task, elapsed⟩
    · exact .inl ⟨x, List.mem_append_left _ mem, ended⟩
    · exact .inr ⟨due, same ▸ task, Nat.le_trans elapsed later'⟩

theorem mem_historyOf {m : Metric} {h : List Episode} {e : Episode} {n : Note m.Value}
    (mem : e ∈ h) (noted : n ∈ e.notes m) : (e.moment, n) ∈ historyOf m h :=
  List.mem_flatMap.2 ⟨e, mem, mem_stamped.2 ⟨rfl, noted⟩⟩

theorem Failing.only_step (failing : Failing s m id f later)
    (reached : Reached (policy m) s.now (s.caches m) (historyOf m h))
    (part : ∀ e ∈ later, e ∈ h) {e : Episode} (mem : e ∈ later) {older : Bool}
    (failed : .refreshFailed id f older ∈ e.notes m) (action : Action) :
    Failing (s.step w setup policy (.step m action)).1 m id f
      (later ++ [(s.step w setup policy (.step m action)).2]) := by
  refine ⟨fun x mem' n noted outcome ends => ?_,
    .inl ⟨e, List.mem_append_left _ mem, older, failed⟩⟩
  rcases List.mem_append.1 mem' with old | new
  · exact failing.only x old n noted outcome ends
  · rw [List.mem_singleton.1 new, (Shared.step_caches_self w setup policy m action).2] at noted
    have unended := Site.unended_of_outcome (s := s.site m) reached noted ends
    have told := latest_eq_none_iff.1 unended _ (mem_historyOf (part e mem) failed)
    simp [Note.outcome?] at told

theorem Failing.step (failing : Failing s m id f later)
    (reached : Reached (policy m) s.now (s.caches m) (historyOf m h))
    (part : ∀ e ∈ later, e ∈ h) (occurrence : Occurrence ν) :
    Failing (s.step w setup policy occurrence).1 m id f
      (later ++ [(s.step w setup policy occurrence).2]) := by
  have passed : s.now ≤ (s.step w setup policy occurrence).1.now := by
    obtain ⟨time, now⟩ := Shared.step_now w setup policy occurrence (s := s)
    rw [now]
    exact Nat.le_add_right ..
  cases occurrence with
  | change g => exact failing.still rfl rfl passed
  | step m' action =>
    by_cases own : m = m'
    · subst own
      rcases failing.ends with ⟨e, mem, older, failed⟩ | ⟨due, task, elapsed⟩
      · exact failing.only_step reached part mem failed action
      · have alone := reached.flight.alone_of_task task
        obtain ⟨cache, notes⟩ := Shared.step_caches_self w setup policy m action (s := s)
        rcases (s.site m).step_of_alone (r := m.remote w.recorded setup) (p := policy m) alone
          (reached.flight.noted_of_task task) action with work | ⟨tasks, -, quiet⟩
        · have done := work.trans (Site.proceed_of_failed elapsed)
          have ended : (s.step w setup policy (.step m action)).2.notes m =
              [.refreshFailed id f (s.caches m).entry.isSome] := by
            rw [notes, done]
            rfl
          refine ⟨fun x mem n noted outcome ends => ?_, .inl ⟨_,
            List.mem_append_right _ (List.mem_singleton_self _), (s.caches m).entry.isSome, ?_⟩⟩
          · rcases List.mem_append.1 mem with old | new
            · exact failing.only x old n noted outcome ends
            · rw [List.mem_singleton.1 new, ended] at noted
              exact ⟨_, List.mem_singleton.1 noted⟩
          · rw [ended]
            exact List.mem_singleton_self _
        · refine ⟨fun x mem n noted outcome ends => ?_,
            .inr ⟨due, by rw [cache, tasks]; exact task, Nat.le_trans elapsed passed⟩⟩
          rcases List.mem_append.1 mem with old | new
          · exact failing.only x old n noted outcome ends
          · rw [List.mem_singleton.1 new, notes] at noted
            simp [(quiet n noted).2 id] at ends
    · obtain ⟨same, silent⟩ := Shared.step_caches_of_ne w setup policy own action (s := s)
      exact failing.still same silent passed

/-- The retry of a refresh has been started, or the refresh has not ended and is bound for it. -/
structure Bound (policy : Metric → Policy) (s : Shared ν) (m : Metric) (id : Nat)
    (later : List Episode) : Prop where
  first : ∀ between y rest, later = between ++ y :: rest →
    ∀ n ∈ y.notes m, ∀ outcome, n.outcome? id = some outcome →
      ∃ x ∈ between, .attemptStarted id true ∈ x.notes m
  onward : (∃ x ∈ later, .attemptStarted id true ∈ x.notes m) ∨
    ∃ phase, ⟨id, phase⟩ ∈ (s.caches m).tasks ∧ phase.WillRetry (policy m).fetchTimeout

/-- A step that does not end the refresh, unless it has been retried. -/
theorem Bound.extend {s' : Shared ν} {e : Episode} (bound : Bound policy s m id later)
    (unended : (∃ x ∈ later, .attemptStarted id true ∈ x.notes m) ∨
      ∀ n ∈ e.notes m, n.outcome? id = none)
    (onward : (∃ x ∈ later ++ [e], .attemptStarted id true ∈ x.notes m) ∨
      ∃ phase, ⟨id, phase⟩ ∈ (s'.caches m).tasks ∧ phase.WillRetry (policy m).fetchTimeout) :
    Bound policy s' m id (later ++ [e]) := by
  refine ⟨fun between y rest split n noted outcome ends => ?_, onward⟩
  rcases split_last split with ⟨rfl, rfl, -⟩ | ⟨rest', -, split⟩
  · rcases unended with retried | silent
    · exact retried
    · simp [silent n noted] at ends
  · exact bound.first between y rest' split n noted outcome ends

theorem Bound.step (bound : Bound policy s m id later)
    (reached : Reached (policy m) s.now (s.caches m) (historyOf m h)) (occurrence : Occurrence ν) :
    Bound policy (s.step w setup policy occurrence).1 m id
      (later ++ [(s.step w setup policy occurrence).2]) := by
  rcases bound.onward with ⟨x, mem, retried⟩ | ⟨phase, task, will⟩
  · exact bound.extend (.inl ⟨x, mem, retried⟩) (.inl ⟨x, List.mem_append_left _ mem, retried⟩)
  · cases occurrence with
    | change g => exact bound.extend (.inr (by simp [Shared.step])) (.inr ⟨phase, task, will⟩)
    | step m' action =>
      by_cases own : m = m'
      · subst own
        obtain ⟨cache, notes⟩ := Shared.step_caches_self w setup policy m action (s := s)
        have hook : (m.remote w.recorded setup).hook = some (Client.renew w.recorded) := by
          rw [Metric.remote_eq]
        obtain ⟨unended, onward⟩ := Site.step_towardsRetry (s := s.site m) hook Client.renew_returns
          (reached.flight.alone_of_task task) (reached.flight.noted_of_task task) will action
        rw [← notes] at unended
        rw [← notes, ← cache] at onward
        refine bound.extend (.inr fun n noted => unended n noted id) (onward.imp_left ?_)
        exact fun started => ⟨_, List.mem_append_right _ (List.mem_singleton_self _), started⟩
      · obtain ⟨same, silent⟩ := Shared.step_caches_of_ne w setup policy own action (s := s)
        exact bound.extend (.inr (by simp [silent])) (.inr ⟨phase, same ▸ task, will⟩)

end

/-! ## Runs -/

section

variable {s s' : Shared ν} {h : List Episode} {e : Episode} {m : Metric} {id : Nat}

/-- A retry sends what was acquired since the rejection, or nothing because none were to be had. -/
theorem retried_step (holding : Holding s h) (turned : Turned s h)
    (stepped : Shared.Stepped w setup policy s s' e)
    (started : .attemptStarted id true ∈ e.notes m) :
    ∃ before x after, h = before ++ x :: after ∧ RejectedIn m id before x ∧
      ((∃ r a d, .sent r a d ∈ e.deeds ∧
          ∃ y ∈ x :: after ++ [e], .acquired (.ok r.credentials) ∈ y.deeds) ∨
        ∃ f, e.deeds = [.acquired (.error f)] ∧ Failing s' m id f []) := by
  cases stepped with
  | quiet held deeds calls tasks => simpa [Note.isCall] using calls m _ started
  | renewed task rejected renewed held deeds calls alone others still =>
    exact absurd started calls.not_attempt
  | @fetched m₀ id₀ retry phase call client task leads fetched held deeds calls alone others
    still =>
    obtain ⟨rfl, rfl, rfl⟩ := calls.eq_of_attempt started
    obtain ⟨due, result, rfl⟩ := leads.of_retry
    obtain ⟨before, x, after, rfl, rejected⟩ := turned m id due result task
    refine ⟨before, x, after, rfl, rejected, ?_⟩
    cases fetched with
    | @refused f without failed =>
      refine .inr ⟨f, deeds, by simp, .inr ⟨s.now, ?_, Nat.le_of_eq still.symm⟩⟩
      obtain ⟨bounded, lasting⟩ := Client.bounded_of_atOnce (α := m.Value)
        (policy m).fetchTimeout (.failed f) []
      simp [alone, bounded, lasting]
    | @sent c first outside exchange delay found =>
      refine .inl ⟨⟨m.query setup, c⟩, exchange, delay, by simp [deeds], ?_⟩
      rcases found with ⟨had, -⟩ | ⟨-, -, rfl⟩
      · obtain ⟨y, mem, acquired⟩ := (holding c had).since rejected.acquires
        exact ⟨y, List.mem_append_left _ mem, acquired⟩
      · exact ⟨e, by simp, by simp [deeds]⟩

/-- A refresh whose first request is turned down in time is bound for its retry. -/
theorem bound_step (stepped : Shared.Stepped w setup policy s s' e)
    (started : .attemptStarted id false ∈ e.notes m) {r : Request} {x : Exchange} {d : Duration}
    (sent : .sent r x d ∈ e.deeds) (rejects : x.Rejects) (inTime : ¬ setup.timeout < d)
    (within : ¬ (policy m).fetchTimeout < d) : Bound policy s' m id [] := by
  cases stepped with
  | quiet held deeds calls tasks => simp [deeds] at sent
  | renewed task rejected renewed held deeds calls alone others still =>
    exact absurd started calls.not_attempt
  | @fetched m₀ id₀ retry phase call client task leads fetched held deeds calls alone others
    still =>
    obtain ⟨rfl, rfl, rfl⟩ := calls.eq_of_attempt started
    rw [deeds] at sent
    have rejected := fetched.rejected sent rejects inTime within
    have task' := List.mem_singleton_self (α := Cache.Task m.Value)
      ⟨id, .attempting false (s.now + (call.lasting (policy m).fetchTimeout).nanos)
        (call.bounded (policy m).fetchTimeout)⟩
    rw [← alone] at task'
    exact ⟨by simp, .inr ⟨_, task', rfl, rejected⟩⟩

end

/-- What holds of the credentials in a run of two caches that share a client. -/
structure CredentialsTold (w : Surroundings ν) (setup : ClientSetup) (policy : Metric → Policy)
    (s : Shared ν) (h : List Episode) : Prop where
  /-- A request carries what was acquired last: by the same call, or before and not since. -/
  carried : ∀ earlier e later, h = earlier ++ e :: later → ∀ r x d, .sent r x d ∈ e.deeds →
    ¬ e.Renews ∧ (e.deeds = [.acquired (.ok r.credentials), .sent r x d] ∨
      e.deeds = [.sent r x d] ∧ LastAcquired r.credentials earlier)
  /-- A retry comes after a rejection, and its request carries credentials acquired after that; or
  it sends none, because none were to be had, and that is how the refresh ends. -/
  retried : ∀ earlier e later, h = earlier ++ e :: later →
    ∀ m id, .attemptStarted id true ∈ e.notes m →
      ∃ before x after, earlier = before ++ x :: after ∧ RejectedIn m id before x ∧
        ((∃ r a d, .sent r a d ∈ e.deeds ∧
            ∃ y ∈ x :: after ++ [e], .acquired (.ok r.credentials) ∈ y.deeds) ∨
          ∃ f, e.deeds = [.acquired (.error f)] ∧ EndsBy w setup policy s m id f later)
  /-- A refresh whose first request is turned down in time does not end before it is tried again. -/
  rejected : ∀ earlier e later, h = earlier ++ e :: later →
    ∀ m id r x d, .attemptStarted id false ∈ e.notes m → .sent r x d ∈ e.deeds → x.Rejects →
      ¬ setup.timeout < d → ¬ (policy m).fetchTimeout < d →
        ∀ between y rest, later = between ++ y :: rest →
          ∀ n ∈ y.notes m, ∀ outcome, n.outcome? id = some outcome →
            ∃ x ∈ between, .attemptStarted id true ∈ x.notes m
  /-- Where no credentials were to be had nothing is sent, and the next request carries some that
  were acquired later. -/
  refused : ∀ earlier e later, h = earlier ++ e :: later →
    ∀ f, .acquired (.error f) ∈ e.deeds →
      (∀ r x d, .sent r x d ∉ e.deeds) ∧
        ∀ between y rest, later = between ++ y :: rest → ∀ r x d, .sent r x d ∈ y.deeds →
          ∃ z ∈ between ++ [y], .acquired (.ok r.credentials) ∈ z.deeds
  /-- No credentials are to be had from a file or from the environment by a failure of
  authentication. -/
  auth : ∀ env read source wording f,
    CredentialSource.acquire env read source wording = .error f → f.isAuth = true

/-- What a run leaves true for its next steps, and what it has shown so far. -/
structure Standing (w : Surroundings ν) (setup : ClientSetup) (policy : Metric → Policy)
    (s : Shared ν) (h : List Episode) : Prop where
  reached : ∀ m, Reached (policy m) s.now (s.caches m) (historyOf m h)
  holding : Holding s h
  begun : Begun policy s h
  turned : Turned s h
  carried : ∀ earlier e later, h = earlier ++ e :: later → ∀ r x d, .sent r x d ∈ e.deeds →
    ¬ e.Renews ∧ (e.deeds = [.acquired (.ok r.credentials), .sent r x d] ∨
      e.deeds = [.sent r x d] ∧ LastAcquired r.credentials earlier)
  refused : ∀ e ∈ h, ∀ f, .acquired (.error f) ∈ e.deeds → e.deeds = [.acquired (.error f)]
  retried : ∀ earlier e later, h = earlier ++ e :: later →
    ∀ m id, .attemptStarted id true ∈ e.notes m →
      ∃ before x after, earlier = before ++ x :: after ∧ RejectedIn m id before x ∧
        ((∃ r a d, .sent r a d ∈ e.deeds ∧
            ∃ y ∈ x :: after ++ [e], .acquired (.ok r.credentials) ∈ y.deeds) ∨
          ∃ f, e.deeds = [.acquired (.error f)] ∧ Failing s m id f later)
  rejected : ∀ earlier e later, h = earlier ++ e :: later →
    ∀ m id r x d, .attemptStarted id false ∈ e.notes m → .sent r x d ∈ e.deeds → x.Rejects →
      ¬ setup.timeout < d → ¬ (policy m).fetchTimeout < d → Bound policy s m id later

namespace Standing

variable {s : Shared ν} {h : List Episode}

theorem start (world : ν) (origin : Instant) :
    Standing w setup policy (.start world origin) [] where
  reached := fun m => .start origin
  holding := by simp [Holding, Shared.start]
  begun := by simp [Begun, Shared.start, Cache.empty]
  turned := by simp [Turned, Shared.start, Cache.empty]
  carried := by simp
  refused := by simp
  retried := by simp
  rejected := by simp

theorem step (standing : Standing w setup policy s h) (occurrence : Occurrence ν) :
    Standing w setup policy (s.step w setup policy occurrence).1
      (h ++ [(s.step w setup policy occurrence).2]) := by
  have stepped : Shared.Stepped w setup policy s _ _ :=
    Shared.step_stepped (fun m => ⟨_, (standing.reached m).flight⟩) occurrence
  have moment : (s.step w setup policy occurrence).2.moment = s.now := Shared.step_moment occurrence
  constructor
  case reached => exact Shared.reached_step w setup policy standing.reached occurrence
  case holding => exact holding_step standing.holding stepped
  case begun => exact begun_step standing.begun stepped moment
  case turned => exact turned_step standing.begun standing.turned stepped moment
  case carried =>
    intro earlier e later split r x d sent
    rcases split_last split with ⟨rfl, rfl, -⟩ | ⟨later', -, split⟩
    · exact carried_step standing.holding stepped sent
    · exact standing.carried earlier e later' split r x d sent
  case refused =>
    intro e mem f failed
    rcases List.mem_append.1 mem with old | new
    · exact standing.refused e old f failed
    · rw [List.mem_singleton.1 new] at failed ⊢
      exact refused_step stepped failed
  case retried =>
    intro earlier e later split m id started
    rcases split_last split with ⟨rfl, rfl, rfl⟩ | ⟨later', rfl, before⟩
    · exact retried_step standing.holding standing.turned stepped started
    · obtain ⟨first, x, after, parts, rejected, way⟩ :=
        standing.retried earlier e later' before m id started
      refine ⟨first, x, after, parts, rejected, way.imp_right ?_⟩
      rintro ⟨f, deeds, failing⟩
      exact ⟨f, deeds, failing.step (standing.reached m)
        (fun y mem => by simp [before, mem]) occurrence⟩
  case rejected =>
    intro earlier e later split m id r x d started sent rejects inTime within
    rcases split_last split with ⟨rfl, rfl, rfl⟩ | ⟨later', rfl, before⟩
    · exact bound_step stepped started sent rejects inTime within
    · exact (standing.rejected earlier e later' before m id r x d started sent rejects inTime
        within).step (standing.reached m) occurrence

theorem run (standing : Standing w setup policy s h) (occurrences : List (Occurrence ν)) :
    Standing w setup policy (s.run w setup policy occurrences).1
      (h ++ (s.run w setup policy occurrences).2) := by
  induction occurrences generalizing s h with
  | nil => simpa [Shared.run] using standing
  | cons occurrence rest ih =>
    have next := ih (standing.step occurrence)
    simpa [Shared.run] using next

/-- Where none were to be had, what is sent later was acquired later. -/
theorem acquired_later (standing : Standing w setup policy s h)
    {earlier between rest : List Episode}
    {e y : Episode} (split : h = earlier ++ e :: (between ++ y :: rest)) {f : FetchFailure}
    (failed : .acquired (.error f) ∈ e.deeds) {r : Request} {x : Exchange} {d : Duration}
    (sent : .sent r x d ∈ y.deeds) :
    ∃ z ∈ between ++ [y], .acquired (.ok r.credentials) ∈ z.deeds := by
  have deeds := standing.refused e (by simp [split]) f failed
  rcases (standing.carried (earlier ++ e :: between) y rest (by simp [split]) r x d sent).2 with
    own | ⟨-, last⟩
  · exact ⟨y, by simp, by simp [own]⟩
  · obtain ⟨z, mem, acquired⟩ := last.since ⟨_, failed⟩
    rcases List.mem_cons.1 mem with rfl | later
    · simp [deeds] at acquired
    · exact ⟨z, List.mem_append_left _ later, acquired⟩

theorem told (standing : Standing w setup policy s h) : CredentialsTold w setup policy s h where
  carried := standing.carried
  retried := by
    intro earlier e later split m id started
    obtain ⟨before, x, after, parts, rejected, way⟩ :=
      standing.retried earlier e later split m id started
    refine ⟨before, x, after, parts, rejected, way.imp_right ?_⟩
    rintro ⟨f, deeds, failing⟩
    exact ⟨f, deeds, failing.endsBy (standing.reached m)⟩
  rejected := fun earlier e later split m id r x d started sent rejects inTime within =>
    (standing.rejected earlier e later split m id r x d started sent rejects inTime within).first
  refused := by
    rintro earlier e later split f failed
    have deeds := standing.refused e (by simp [split]) f failed
    refine ⟨by simp [deeds], ?_⟩
    rintro between y rest rfl r x d sent
    exact standing.acquired_later split failed sent
  auth := CredentialSource.isAuth_of_acquire

end Standing

/-- At every point of every run of two caches that share a client, in whatever order they move, the
camera answers and the source of the credentials changes, no request carries credentials that were
given up: what was turned down is not sent again by the retry. -/
theorem run_credentialsTold (w : Surroundings ν) (setup : ClientSetup) (policy : Metric → Policy)
    (world : ν) (origin : Instant) (occurrences : List (Occurrence ν)) :
    CredentialsTold w setup policy
      ((Shared.start world origin).run w setup policy occurrences).1
      ((Shared.start world origin).run w setup policy occurrences).2 := by
  have standing : Standing w setup policy (.start world origin) [] := .start world origin
  simpa using (standing.run occurrences).told

end CameraTelemetry.Camera
