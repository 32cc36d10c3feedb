import CameraTelemetry.Proofs.Cache.SingleFlight

/-!
# Reaching behind the cache

A step leaves the world behind the cache alone, or a task makes one call: it starts an attempt, or,
rejected, it calls the hook. Which of these it is, and from what phase of the task, is listed here
once, for whatever depends on what the calls do.
-/
namespace CameraTelemetry.Cache

variable {ω α : Type}

def Note.isCall : Note α → Bool
  | attemptStarted .. | credentialsRejected _ => true
  | _ => false

theorem Note.not_call_of_passing {n : Note α} (passing : n.isPassing = true) :
    n.isCall = false := by
  cases n <;> simp_all [isCall, isPassing]

/-- An attempt is what comes next: the first one at the beginning, and the retry once the hook has
ended. -/
def Phase.Leads (retry : Bool) (now : Instant) : Phase α → Prop
  | spawned => retry = false
  | attempting .. => False
  | renewing due _ => retry = true ∧ due ≤ now

theorem Phase.Leads.of_retry {now : Instant} {phase : Phase α} (leads : phase.Leads true now) :
    ∃ due result, phase = .renewing due result := by
  cases phase with
  | spawned => cases leads
  | attempting => cases leads
  | renewing due result => exact ⟨due, result, rfl⟩

def Phase.Rejected (limit : Duration) (now : Instant) : Phase α → Prop
  | attempting false due result =>
    due ≤ now ∧ ∃ reason, result.outcome? limit = some (.error (.auth reason))
  | _ => False

theorem finish_quiet (c : Cache α) (id : Nat) (outcome : Except FetchFailure α) (now : Instant) :
    ∀ n ∈ (c.finish id outcome now).2, n.isCall = false := by
  cases outcome <;> simp [finish, Note.isCall]

namespace Site

/-- How a step reaches behind the cache. -/
inductive Reaching (r : Remote ω α) (p : Policy) (s : Site ω α)
    (done : Site ω α × List (Note α)) : Prop
  | nothing (world : done.1.world = s.world) (quiet : ∀ n ∈ done.2, n.isCall = false)
      (tasks : ∀ t ∈ done.1.cache.tasks, t ∈ s.cache.tasks ∨ t.phase = .spawned)
  | fetch {id : Nat} {retry : Bool} {phase : Phase α} {passing : List (Note α)}
      (task : ⟨id, phase⟩ ∈ s.cache.tasks) (leads : phase.Leads retry s.now)
      (quiet : ∀ n ∈ passing, n.isPassing = true)
      (started : done = after passing (s.startAttempt r p id retry))
  | hook {id : Nat} {phase : Phase α} {passing : List (Note α)} {hook : ω → Call Unit × ω}
      (known : r.hook = some hook) (task : ⟨id, phase⟩ ∈ s.cache.tasks)
      (rejected : phase.Rejected p.fetchTimeout s.now)
      (quiet : ∀ n ∈ passing, n.isPassing = true)
      (started : done = after passing (s.startRenewal hook p id))

namespace Reaching

variable {r : Remote ω α} {p : Policy} {s : Site ω α} {done : Site ω α × List (Note α)}

theorem of_tasks (world : done.1.world = s.world) (quiet : ∀ n ∈ done.2, n.isCall = false)
    (tasks : done.1.cache.tasks = s.cache.tasks) : s.Reaching r p done :=
  .nothing world quiet fun _ mem => .inl (tasks ▸ mem)

theorem of_ended {id : Nat} (world : done.1.world = s.world)
    (quiet : ∀ n ∈ done.2, n.isCall = false)
    (tasks : done.1.cache.tasks = s.cache.tasks.filter fun t => t.refresh != id) :
    s.Reaching r p done := by
  refine .nothing world quiet fun t mem => .inl ?_
  rw [tasks] at mem
  exact (List.mem_filter.1 mem).1

theorem after {before : List (Note α)} (passing : ∀ n ∈ before, n.isPassing = true)
    (reaching : s.Reaching r p done) : s.Reaching r p (after before done) := by
  have both {more : List (Note α)} (quiet : ∀ n ∈ more, n.isPassing = true) :
      ∀ n ∈ before ++ more, n.isPassing = true := fun n mem =>
    (List.mem_append.1 mem).elim (passing n) (quiet n)
  cases reaching with
  | nothing world quiet tasks =>
    refine .nothing world (fun n mem => ?_) tasks
    rcases List.mem_append.1 mem with early | late
    · exact Note.not_call_of_passing (passing n early)
    · exact quiet n late
  | fetch task leads quiet started =>
    exact .fetch task leads (both quiet) (by simp [started, Site.after, List.append_assoc])
  | hook known task rejected quiet started =>
    exact .hook known task rejected (both quiet) (by simp [started, Site.after, List.append_assoc])

end Reaching

variable {r : Remote ω α} {p : Policy}

theorem get_reaching (caller : Nat) (s : Site ω α) : s.Reaching r p (s.get p caller) := by
  by_cases waits : s.cache.isWaiting caller = true
  · simp only [get, if_pos waits]
    exact .of_tasks rfl (by simp) rfl
  · have idle : s.cache.isWaiting caller = false := by simpa using waits
    cases fresh : s.cache.fresh? p s.now with
    | some e =>
      rw [get_of_fresh idle fresh]
      exact .of_tasks rfl (by simp [Note.isCall]) rfl
    | none =>
      cases noted : s.cache.inflight with
      | some id =>
        rw [get_of_noted idle fresh noted]
        exact .of_tasks rfl (by simp [Note.isCall]) rfl
      | none =>
        rw [get_of_free idle fresh noted]
        refine .nothing rfl (by simp [Note.isCall]) fun t mem => ?_
        rcases List.mem_append.1 mem with old | new
        · exact .inl old
        · exact .inr (by rw [List.mem_singleton.1 new])

theorem resume_reaching (caller : Nat) (s : Site ω α) : s.Reaching r p (s.resume p caller) := by
  unfold resume
  split
  · exact .of_tasks rfl (by simp [Note.isCall]) rfl
  · exact .of_tasks rfl (by simp) rfl

theorem attemptEnded_reaching {id : Nat} {retry : Bool} {due : Instant} {result : Bounded α}
    {outcome : Except FetchFailure α} {s : Site ω α}
    (task : ⟨id, .attempting retry due result⟩ ∈ s.cache.tasks) (elapsed : due ≤ s.now)
    (ended : result.outcome? p.fetchTimeout = some outcome) :
    s.Reaching r p (s.attemptEnded r p id retry outcome) := by
  unfold attemptEnded
  split
  case h_1 reason hook known =>
    exact .hook known task ⟨elapsed, reason, ended⟩ (List.forall_mem_nil _) rfl
  case h_2 => exact .of_ended rfl (fun n => finish_quiet _ _ _ _ n) (finish_tasks ..)

theorem taskPanicked_reaching (id : Nat) (payload : String) (inHook : Bool) (s : Site ω α) :
    s.Reaching r p (s.taskPanicked id payload inHook) :=
  .of_ended rfl (by simp [taskPanicked, Cache.abort, Note.isCall]) rfl

theorem proceed_reaching {id : Nat} {phase : Phase α} {s : Site ω α}
    (task : ⟨id, phase⟩ ∈ s.cache.tasks) : s.Reaching r p (s.proceed r p id phase) := by
  cases phase with
  | spawned => exact .fetch task rfl (List.forall_mem_nil _) rfl
  | attempting retry due result =>
    by_cases early : s.now < due
    · simp only [proceed, if_pos early]
      exact .of_tasks rfl (by simp) rfl
    · have elapsed : due ≤ s.now := Nat.le_of_not_lt early
      simp only [proceed, if_neg early]
      cases result with
      | cutOff => exact attemptEnded_reaching task elapsed rfl
      | ended ending events =>
        refine .after (emitted_passing events) ?_
        cases ending with
        | value a => exact attemptEnded_reaching task elapsed rfl
        | failed e => exact attemptEnded_reaching task elapsed rfl
        | panicked payload => exact taskPanicked_reaching ..
  | renewing due result =>
    by_cases early : s.now < due
    · simp only [proceed, if_pos early]
      exact .of_tasks rfl (by simp) rfl
    · have again : s.Reaching r p (s.startAttempt r p id true) :=
        .fetch task ⟨rfl, Nat.le_of_not_lt early⟩ (List.forall_mem_nil _) rfl
      simp only [proceed, if_neg early]
      cases result with
      | cutOff => exact again.after (by simp [Note.isPassing])
      | ended ending events =>
        refine .after (emitted_passing events) ?_
        cases ending with
        | value u => exact again.after (by simp [Note.isPassing])
        | failed e => exact again.after (by simp [Note.isPassing])
        | panicked payload => exact taskPanicked_reaching ..

theorem work_reaching (id : Nat) (s : Site ω α) : s.Reaching r p (s.work r p id) := by
  unfold work
  split
  case h_1 task found =>
    obtain ⟨refresh, phase⟩ := task
    obtain rfl : refresh = id := by simpa using List.find?_some found
    exact proceed_reaching (List.mem_of_find?_eq_some found)
  case h_2 => exact .of_tasks rfl (by simp) rfl

/-- Every step makes at most one call, and from the phases that are listed. -/
theorem step_reaching (r : Remote ω α) (p : Policy) (s : Site ω α) (action : Action) :
    s.Reaching r p (s.step r p action) := by
  cases action with
  | get caller => exact s.get_reaching caller
  | resume caller => exact s.resume_reaching caller
  | abandon caller => exact .of_tasks rfl (by simp [step]) rfl
  | work id => exact s.work_reaching id
  | pass time => exact .of_tasks rfl (by simp [step]) rfl

/-- While a task is at work, a step is its work or leaves the tasks alone and ends nothing. -/
theorem step_of_alone {id : Nat} {phase : Phase α} {s : Site ω α}
    (alone : s.cache.tasks = [⟨id, phase⟩]) (noted : s.cache.inflight = some id)
    (action : Action) :
    s.step r p action = s.proceed r p id phase ∨
      (s.step r p action).1.cache.tasks = s.cache.tasks ∧
        s.now ≤ (s.step r p action).1.now ∧
        ∀ n ∈ (s.step r p action).2, n.isCall = false ∧ ∀ k, n.outcome? k = none := by
  cases action with
  | get caller =>
    refine .inr ?_
    simp only [step, get]
    split
    · simp
    · split
      · simp [Note.isCall, Note.outcome?]
      · simp [Cache.join, noted, Cache.await, Note.isCall, Note.outcome?]
  | resume caller =>
    refine .inr ?_
    simp only [step, resume]
    split
    · simp [leave, Note.isCall, Note.outcome?]
    · simp
  | abandon caller => exact .inr ⟨rfl, Nat.le_refl _, by simp [step]⟩
  | work k =>
    by_cases own : k = id
    · subst own
      exact .inl (work_of_alone alone)
    · refine .inr ?_
      simp [step, work, alone, Ne.symm own]
  | pass time => exact .inr ⟨rfl, Nat.le_add_right .., by simp [step]⟩

end Site

/-- A refresh that ends in a step has not ended before. -/
theorem Site.unended_of_outcome {r : Remote ω α} {p : Policy} {s : Site ω α} {h : History α}
    {action : Action} {n : Note α} {id : Nat} {outcome : Outcome}
    (reached : Reached p s.now s.cache h) (mem : n ∈ (s.step r p action).2)
    (ends : n.outcome? id = some outcome) : outcomeOf id h = none := by
  obtain ⟨notes, mem, move⟩ := exists_move_of_note mem (Note.loud_of_outcome ends)
  have task : ∃ phase, ⟨id, phase⟩ ∈ s.cache.tasks := by
    cases outcome with
    | error e => exact (move.of_error mem ends).1
    | ok u =>
      cases n with
      | stored k value =>
        obtain rfl : k = id := by simpa [Note.outcome?] using ends
        obtain ⟨⟨retry, due, result, task, -⟩, -⟩ := move.of_stored mem
        exact ⟨_, task⟩
      | refreshPanicked k payload inHook => simp [Note.outcome?, panickedOutcome] at ends
      | _ => simp [Note.outcome?] at ends
  obtain ⟨phase, task⟩ := task
  have noted := reached.flight.noted_of_task task
  exact (reached.flight.open_iff id (reached.flight.noted_lt id noted)).2 noted

/-! ## Where a task is bound to go -/

/-- The refresh cannot end before its retry: its first attempt was rejected, or it is in a hook that
comes back. -/
def Phase.WillRetry (limit : Duration) : Phase α → Prop
  | spawned => False
  | attempting retry _ result =>
    retry = false ∧ ∃ reason, result.outcome? limit = some (.error (.auth reason))
  | renewing _ result => ∀ payload events, result ≠ .ended (.panicked payload) events

namespace Site

variable {r : Remote ω α} {p : Policy} {s : Site ω α} {id : Nat}

/-- The retry is started, or the refresh goes on towards it; it does not end. -/
structure TowardsRetry (p : Policy) (id : Nat) (done : Site ω α × List (Note α)) : Prop where
  unended : ∀ n ∈ done.2, ∀ k, n.outcome? k = none
  onward : .attemptStarted id true ∈ done.2 ∨
    ∃ phase, ⟨id, phase⟩ ∈ done.1.cache.tasks ∧ phase.WillRetry p.fetchTimeout

theorem TowardsRetry.after {done : Site ω α × List (Note α)} {passing : List (Note α)}
    (quiet : ∀ n ∈ passing, n.isPassing = true) (towards : TowardsRetry p id done) :
    TowardsRetry p id (after passing done) := by
  refine ⟨fun n mem k => ?_, towards.onward.imp_left (List.mem_append_right _)⟩
  rcases List.mem_append.1 mem with early | late
  · exact Note.outcome?_of_not_mark (Note.not_mark_of_passing (quiet n early)) k
  · exact towards.unended n late k

theorem startRenewal_towardsRetry {hook : ω → Call Unit × ω} {phase : Phase α}
    (returns : ∀ v payload, (hook v).1.ending ≠ .panicked payload)
    (alone : s.cache.tasks = [⟨id, phase⟩]) : TowardsRetry p id (s.startRenewal hook p id) := by
  let next : Phase α := .renewing (s.now + ((hook s.world).1.lasting p.fetchTimeout).nanos)
    ((hook s.world).1.bounded p.fetchTimeout)
  refine ⟨by simp [startRenewal, Note.outcome?],
    .inr ⟨next, by simp [startRenewal, setPhase, alone, next], ?_⟩⟩
  intro payload events ended
  unfold Call.bounded at ended
  split at ended
  · cases ended
  · exact returns s.world payload (by injection ended)

theorem proceed_towardsRetry {hook : ω → Call Unit × ω} {phase : Phase α}
    (known : r.hook = some hook) (returns : ∀ v payload, (hook v).1.ending ≠ .panicked payload)
    (alone : s.cache.tasks = [⟨id, phase⟩]) (bound : phase.WillRetry p.fetchTimeout) :
    TowardsRetry p id (s.proceed r p id phase) := by
  have unchanged : TowardsRetry p id (s, []) :=
    ⟨by simp, .inr ⟨phase, by simp [alone], bound⟩⟩
  cases phase with
  | spawned => exact bound.elim
  | attempting retry due result =>
    obtain ⟨rfl, reason, rejected⟩ := bound
    by_cases early : s.now < due
    · simpa only [proceed, if_pos early] using unchanged
    · simp only [proceed, if_neg early]
      cases result with
      | cutOff => simp [Bounded.outcome?] at rejected
      | ended ending events =>
        cases ending with
        | value a => simp [Bounded.outcome?] at rejected
        | panicked payload => simp [Bounded.outcome?] at rejected
        | failed e =>
          simp only [Bounded.outcome?, Option.some.injEq, Except.error.injEq] at rejected
          subst rejected
          simp only [attemptEnded, known]
          exact .after (emitted_passing events) (startRenewal_towardsRetry returns alone)
  | renewing due result =>
    by_cases early : s.now < due
    · simpa only [proceed, if_pos early] using unchanged
    · have again : TowardsRetry p id (s.startAttempt r p id true) :=
        ⟨by simp [startAttempt, Note.outcome?], .inl (by simp [startAttempt])⟩
      simp only [proceed, if_neg early]
      cases result with
      | cutOff => exact again.after (by simp [Note.isPassing])
      | ended ending events =>
        cases ending with
        | value u => exact .after (emitted_passing events) (again.after (by simp [Note.isPassing]))
        | failed e => exact .after (emitted_passing events) (again.after (by simp [Note.isPassing]))
        | panicked payload => exact absurd rfl (bound payload events)

theorem step_towardsRetry {hook : ω → Call Unit × ω} {phase : Phase α}
    (known : r.hook = some hook) (returns : ∀ v payload, (hook v).1.ending ≠ .panicked payload)
    (alone : s.cache.tasks = [⟨id, phase⟩]) (noted : s.cache.inflight = some id)
    (bound : phase.WillRetry p.fetchTimeout) (action : Action) :
    TowardsRetry p id (s.step r p action) := by
  rcases s.step_of_alone alone noted action with work | ⟨tasks, -, quiet⟩
  · rw [work]
    exact proceed_towardsRetry known returns alone bound
  · exact ⟨fun n mem => (quiet n mem).2, .inr ⟨phase, by simp [tasks, alone], bound⟩⟩

/-- A retry that has come to a failure ends its refresh with it. -/
theorem proceed_of_failed {due : Instant} {e : FetchFailure} (elapsed : due ≤ s.now) :
    s.proceed r p id (.attempting true due (.ended (.failed e) [])) =
      ({ s with cache := (s.cache.finish id (.error e) s.now).1 },
        [.refreshFailed id e s.cache.entry.isSome]) := by
  simp [proceed, Nat.not_lt.2 elapsed, after, attemptEnded, Cache.finish]

end Site

end CameraTelemetry.Cache
