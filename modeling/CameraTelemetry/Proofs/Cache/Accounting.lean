import CameraTelemetry.Proofs.Cache.SingleFlight

/-!
# What the counters count

Every refresh that was started is counted once when it ends without a value, whether it failed or
panicked, and once when its first attempt was rejected and there is a hook. The attempts are counted
as they start: one for each refresh, and one more after each call of the hook that came back.
-/
namespace CameraTelemetry.Cache

variable {ω α : Type} {p : Policy} {now : Instant} {c c' : Cache α} {h h' : History α}
  {notes : List (Note α)}

namespace Note

def begun? : Note α → Option Nat
  | refreshStarted id => some id
  | _ => none

def succeeded? : Note α → Option Nat
  | stored id _ => some id
  | _ => none

/-- The refresh that ended without a value, by a failure or by a panic. -/
def unsuccessful? : Note α → Option Nat
  | refreshFailed id .. => some id
  | refreshPanicked id .. => some id
  | _ => none

/-- The refresh whose first attempt was rejected where there is a hook. -/
def rejected? : Note α → Option Nat
  | credentialsRejected id => some id
  | _ => none

def hookPanicked? : Note α → Option Nat
  | refreshPanicked id _ true => some id
  | _ => none

theorem outcome?_of_unsuccessful {n : Note α} {id : Nat} (said : n.unsuccessful? = some id) :
    ∃ e, n.outcome? id = some (.error e) := by
  cases n with
  | refreshFailed k e kept =>
    obtain rfl : k = id := by simpa [unsuccessful?] using said
    exact ⟨e, if_pos rfl⟩
  | refreshPanicked k payload inHook =>
    obtain rfl : k = id := by simpa [unsuccessful?] using said
    exact ⟨_, if_pos rfl⟩
  | _ => simp [unsuccessful?] at said

theorem eq_of_hookPanicked {n : Note α} {id : Nat} (said : n.hookPanicked? = some id) :
    ∃ payload, n = .refreshPanicked id payload true := by
  cases n with
  | refreshPanicked k payload inHook =>
    cases inHook with
    | true =>
      obtain rfl : k = id := by simpa [hookPanicked?] using said
      exact ⟨payload, rfl⟩
    | false => simp [hookPanicked?] at said
  | _ => simp [hookPanicked?] at said

end Note

/-- The refreshes of which the notes of a history say something, in the order of the notes. -/
def told (f : Note α → Option Nat) (h : History α) : List Nat := h.filterMap fun x => f x.2

theorem told_append (f : Note α → Option Nat) (h : History α) (notes : List (Note α)) :
    told f (h ++ stamped now notes) = told f h ++ notes.filterMap f := by
  simp only [told, stamped, List.filterMap_append, List.filterMap_map]
  rfl

theorem told_append_silent {f : Note α → Option Nat} (silent : notes.filterMap f = []) :
    told f (h ++ stamped now notes) = told f h := by
  rw [told_append, silent, List.append_nil]

theorem told_append_one (f : Note α → Option Nat) (h : History α) (n : Note α) :
    told f (h ++ stamped now [n]) = told f h ++ (f n).toList := by
  rw [told_append]
  cases hn : f n <;> simp [hn]

theorem told_sublist {f g : Note α → Option Nat} (le : ∀ n id, f n = some id → g n = some id)
    (h : History α) : (told f h).Sublist (told g h) := by
  induction h with
  | nil => exact List.Sublist.refl _
  | cons x rest ih =>
    cases hf : f x.2 with
    | some id => simpa [told, hf, le x.2 id hf] using ih
    | none =>
      cases hg : g x.2 with
      | some id => simpa [told, hf, hg] using ih.cons id
      | none => simpa [told, hf, hg] using ih

/-- How many attempts a phase leaves to be made before the refresh can end otherwise than by a panic
of the hook. -/
def Phase.owed : Phase α → Nat
  | spawned => 1
  | attempting .. => 0
  | renewing .. => 1

def Phase.isFirst : Phase α → Bool
  | spawned => true
  | attempting retry .. => !retry
  | renewing .. => false

def owed (c : Cache α) : Nat := c.tasks.foldr (fun task n => task.phase.owed + n) 0

theorem owed_of_alone {id : Nat} {phase : Phase α} (alone : c.tasks = [⟨id, phase⟩]) :
    c.owed = phase.owed := by
  simp [owed, alone]

theorem setPhase_of_alone {id : Nat} {phase : Phase α} (alone : c.tasks = [⟨id, phase⟩])
    (phase' : Phase α) : (c.setPhase id phase').tasks = [⟨id, phase'⟩] := by
  simp [setPhase, alone]

/-- The counters and the refresh under way agree with what the history tells of the refreshes. -/
structure Ledger (c : Cache α) (h : History α) : Prop where
  begun : told Note.begun? h = List.range c.refreshes
  /-- Every refresh has succeeded, has ended without a value, or is under way. -/
  ended : (told Note.succeeded? h ++ told Note.unsuccessful? h ++ c.inflight.toList).Perm
    (List.range c.refreshes)
  failures : c.counters.failures = (told Note.unsuccessful? h).length
  authRetries : c.counters.authRetries = (told Note.rejected? h).length
  fetches : c.counters.fetches + (told Note.hookPanicked? h).length + c.owed =
    c.refreshes + c.counters.authRetries
  rejected_nodup : (told Note.rejected? h).Nodup
  rejected_lt : ∀ id ∈ told Note.rejected? h, id < c.refreshes
  unrejected : ∀ t ∈ c.tasks, t.phase.isFirst = true → t.refresh ∉ told Note.rejected? h

/-- The note tells of no refresh that starts, ends or is rejected. -/
def Note.isIdle : Note α → Bool
  | refreshStarted _ | credentialsRejected _ | stored .. | refreshFailed .. | refreshPanicked .. =>
    false
  | _ => true

theorem Note.silent_of_idle {n : Note α} (hn : n.isIdle = true) :
    n.begun? = none ∧ n.succeeded? = none ∧ n.unsuccessful? = none ∧ n.rejected? = none ∧
      n.hookPanicked? = none := by
  cases n <;> simp_all [isIdle, begun?, succeeded?, unsuccessful?, rejected?, hookPanicked?]

theorem Note.isIdle_of_passing {n : Note α} (hn : n.isPassing = true) : n.isIdle = true := by
  cases n <;> simp_all [isPassing, isIdle]

namespace Ledger

/-- An attempt that starts is one that was owed. -/
theorem idle (ledger : Ledger c h) (number : c'.refreshes = c.refreshes)
    (noted : c'.inflight = c.inflight) (failures : c'.counters.failures = c.counters.failures)
    (authRetries : c'.counters.authRetries = c.counters.authRetries)
    (fetches : c'.counters.fetches + c'.owed = c.counters.fetches + c.owed)
    (first : ∀ t ∈ c'.tasks, t.phase.isFirst = true →
      ∃ t₀ ∈ c.tasks, t₀.phase.isFirst = true ∧ t₀.refresh = t.refresh)
    (idle : ∀ n ∈ notes, n.isIdle = true) : Ledger c' (h ++ stamped now notes) := by
  have same (f : Note α → Option Nat) (silent : ∀ n : Note α, n.isIdle = true → f n = none) :
      told f (h ++ stamped now notes) = told f h :=
    told_append_silent (List.filterMap_eq_nil_iff.2 fun n hn => silent n (idle n hn))
  have begun := same Note.begun? fun n hn => (Note.silent_of_idle hn).1
  have succeeded := same Note.succeeded? fun n hn => (Note.silent_of_idle hn).2.1
  have unsuccessful := same Note.unsuccessful? fun n hn => (Note.silent_of_idle hn).2.2.1
  have rejected := same Note.rejected? fun n hn => (Note.silent_of_idle hn).2.2.2.1
  have panicked := same Note.hookPanicked? fun n hn => (Note.silent_of_idle hn).2.2.2.2
  constructor
  · rw [begun, number, ledger.begun]
  · rw [succeeded, unsuccessful, noted, number]
    exact ledger.ended
  · rw [unsuccessful, failures, ledger.failures]
  · rw [rejected, authRetries, ledger.authRetries]
  · have before := ledger.fetches
    rw [panicked, number, authRetries]
    omega
  · rw [rejected]
    exact ledger.rejected_nodup
  · rw [rejected, number]
    exact ledger.rejected_lt
  · rw [rejected]
    intro t ht hfirst
    obtain ⟨t₀, ht₀, hfirst₀, same⟩ := first t ht hfirst
    exact same ▸ ledger.unrejected t₀ ht₀ hfirst₀

theorem spawned (ledger : Ledger c h) (alone : c.tasks = []) (free : c.inflight = none)
    (caller : Nat) :
    Ledger (c.spawn.await caller c.refreshes) (h ++ stamped now
      [.asked caller, .refreshStarted c.refreshes, .joined caller c.refreshes]) := by
  constructor
  case begun =>
    rw [told_append, ledger.begun]
    exact List.range_succ.symm
  case ended =>
    have ended := ledger.ended
    simp only [free, Option.toList_none, List.append_nil] at ended
    have number : (c.spawn.await caller c.refreshes).refreshes = c.refreshes + 1 := rfl
    rw [told_append_silent rfl, told_append_silent rfl, number, List.range_succ]
    exact ended.append_right [c.refreshes]
  case failures =>
    rw [told_append_silent rfl]
    exact ledger.failures
  case authRetries =>
    rw [told_append_silent rfl]
    exact ledger.authRetries
  case fetches =>
    have fetches := ledger.fetches
    have before : c.owed = 0 := by simp [owed, alone]
    have after : (c.spawn.await caller c.refreshes).owed = 1 := by
      simp [owed, spawn, Cache.await, alone, Phase.owed]
    rw [told_append_silent rfl, after]
    simp only [spawn, Cache.await]
    omega
  case rejected_nodup =>
    rw [told_append_silent rfl]
    exact ledger.rejected_nodup
  case rejected_lt =>
    rw [told_append_silent rfl]
    exact fun id hid => Nat.lt_succ_of_lt (ledger.rejected_lt id hid)
  case unrejected =>
    have unborn : c.refreshes ∉ told Note.rejected? h :=
      fun hid => Nat.lt_irrefl _ (ledger.rejected_lt _ hid)
    rw [told_append_silent rfl]
    simpa [spawn, Cache.await, alone] using fun _ => unborn

/-- A rejected first attempt is counted, and the second one is owed. -/
theorem rejected {id : Nat} {phase phase' : Phase α} (ledger : Ledger c h)
    (alone : c.tasks = [⟨id, phase⟩]) (tasks : c'.tasks = [⟨id, phase'⟩])
    (first : phase.isFirst = true) (made : phase.owed = 0) (later : phase'.isFirst = false)
    (owes : phase'.owed = 1) (born : id < c.refreshes) (number : c'.refreshes = c.refreshes)
    (noted : c'.inflight = c.inflight) (failures : c'.counters.failures = c.counters.failures)
    (authRetries : c'.counters.authRetries = c.counters.authRetries + 1)
    (fetches : c'.counters.fetches = c.counters.fetches) :
    Ledger c' (h ++ stamped now [.credentialsRejected id]) := by
  have once : id ∉ told Note.rejected? h := ledger.unrejected ⟨id, phase⟩ (by simp [alone]) first
  constructor
  case begun =>
    rw [told_append_silent rfl, number]
    exact ledger.begun
  case ended =>
    rw [told_append_silent rfl, told_append_silent rfl, noted, number]
    exact ledger.ended
  case failures =>
    rw [told_append_silent rfl, failures]
    exact ledger.failures
  case authRetries =>
    rw [told_append_one, authRetries, ledger.authRetries, List.length_append]
    rfl
  case fetches =>
    have before := ledger.fetches
    rw [owed_of_alone alone, made] at before
    rw [told_append_silent rfl, owed_of_alone tasks, owes, number, authRetries, fetches]
    omega
  case rejected_nodup =>
    rw [told_append_one]
    simpa [Note.rejected?, List.nodup_append] using
      ⟨ledger.rejected_nodup, fun k hk same => once (same ▸ hk)⟩
  case rejected_lt =>
    intro k hk
    rw [told_append_one] at hk
    rw [number]
    rcases List.mem_append.1 hk with old | new
    · exact ledger.rejected_lt k old
    · obtain rfl : k = id := by simpa [Note.rejected?] using new
      exact born
  case unrejected => simp [tasks, later]

/-- A refresh ends, in one of the two ways. Only a panic of the hook leaves an attempt unmade. -/
theorem closed {id : Nat} {phase : Phase α} {n : Note α} (ledger : Ledger c h)
    (alone : c.tasks = [⟨id, phase⟩]) (noted : c.inflight = some id) (gone : c'.tasks = [])
    (cleared : c'.inflight = none) (number : c'.refreshes = c.refreshes)
    (one : n.succeeded?.toList ++ n.unsuccessful?.toList = [id])
    (failures : c'.counters.failures = c.counters.failures + n.unsuccessful?.toList.length)
    (authRetries : c'.counters.authRetries = c.counters.authRetries)
    (fetches : c'.counters.fetches = c.counters.fetches)
    (unmade : n.hookPanicked?.toList.length = phase.owed) (begun : n.begun? = none)
    (rejected : n.rejected? = none) : Ledger c' (h ++ stamped now [n]) := by
  constructor
  case begun =>
    rw [told_append_one, begun, number]
    simpa using ledger.begun
  case ended =>
    rw [told_append_one, told_append_one, cleared, number]
    refine List.Perm.trans (List.perm_iff_count.2 fun k => ?_) ledger.ended
    have once := congrArg (List.count k) one
    rw [noted]
    simp only [List.count_append, Option.toList_some, Option.toList_none, List.count_nil] at once ⊢
    omega
  case failures =>
    rw [told_append_one, failures, ledger.failures, List.length_append]
  case authRetries =>
    rw [told_append_one, rejected, authRetries]
    simpa using ledger.authRetries
  case fetches =>
    have before := ledger.fetches
    rw [owed_of_alone alone] at before
    rw [told_append_one, authRetries, number, fetches, List.length_append, unmade]
    simp only [owed, gone, List.foldr_nil]
    omega
  case rejected_nodup =>
    rw [told_append_one, rejected]
    simpa using ledger.rejected_nodup
  case rejected_lt =>
    rw [told_append_one, rejected, number]
    simpa using ledger.rejected_lt
  case unrejected => simp [gone]

end Ledger

theorem Reached.ledger (reached : Reached p now c h) : Ledger c h := by
  induction reached with
  | start now => constructor <;> simp [empty, told, owed]
  | pass time reached ih => exact ih
  | murmur reached quiet ih =>
    exact ih.idle rfl rfl rfl rfl rfl (fun t ht first => ⟨t, ht, first, rfl⟩)
      fun n hn => Note.isIdle_of_passing (quiet n hn)
  | @move now c c' h notes reached move ih =>
    have flight := reached.flight
    -- A move that leaves the tasks alone starts, ends and rejects nothing.
    have still {c' : Cache α} {notes : List (Note α)} (number : c'.refreshes = c.refreshes)
        (noted : c'.inflight = c.inflight) (counters : c'.counters = c.counters)
        (tasks : c'.tasks = c.tasks) (idle : ∀ n ∈ notes, n.isIdle = true) :
        Ledger c' (h ++ stamped now notes) :=
      ih.idle number noted (by rw [counters]) (by rw [counters])
        (by rw [counters, owed, tasks, owed])
        (fun t ht first => ⟨t, tasks ▸ ht, first, rfl⟩) idle
    -- The task that makes an attempt owes one less.
    have attempted {id : Nat} {phase phase' : Phase α} {n : Note α}
        (task : ⟨id, phase⟩ ∈ c.tasks) (owes : phase.owed = phase'.owed + 1)
        (first : phase'.isFirst = true → phase.isFirst = true) (idle : n.isIdle = true) :
        Ledger { c.setPhase id phase' with counters.fetches := c.counters.fetches + 1 }
          (h ++ stamped now [n]) := by
      have alone := flight.alone_of_task task
      have tasks := setPhase_of_alone alone phase'
      refine ih.idle rfl rfl rfl rfl ?_ ?_ (by simpa using idle)
      · have before := owed_of_alone alone
        have after : (c.setPhase id phase').owed = phase'.owed := owed_of_alone tasks
        show c.counters.fetches + 1 + (c.setPhase id phase').owed = c.counters.fetches + c.owed
        omega
      · simpa [tasks, alone] using first
    cases move with
    | rest => exact still rfl rfl rfl rfl (by simp)
    | leave caller => exact still rfl rfl rfl rfl (by simp)
    | hit idle fresh => exact still rfl rfl rfl rfl (by simp [Note.isIdle])
    | join idle expired noted => exact still rfl rfl rfl rfl (by simp [Note.isIdle])
    | start idle expired free =>
      exact ih.spawned (by simpa [free] using flight.tasks_eq) free _
    | attempt due result task => exact attempted task rfl (fun _ => rfl) rfl
    | renew due result task elapsed rejected =>
      have alone := flight.alone_of_task task
      exact ih.rejected alone (setPhase_of_alone alone _) rfl rfl rfl rfl
        (flight.noted_lt _ (flight.noted_of_task task)) rfl rfl rfl rfl rfl
    | retry due result task elapsed => exact attempted task rfl (by simp [Phase.isFirst]) rfl
    | store task elapsed brought =>
      have alone := flight.alone_of_task task
      exact ih.closed alone (flight.noted_of_task task) (by simp [finish_tasks, alone]) rfl rfl rfl
        rfl rfl rfl rfl rfl rfl
    | fail task elapsed failed =>
      have alone := flight.alone_of_task task
      exact ih.closed alone (flight.noted_of_task task) (by simp [finish_tasks, alone]) rfl rfl rfl
        rfl rfl rfl rfl rfl rfl
    | @abort id phase payload task ran =>
      have alone := flight.alone_of_task task
      refine ih.closed alone (flight.noted_of_task task) ?_ rfl rfl rfl rfl rfl rfl ?_ rfl rfl
      · simp [Cache.abort, endTask, dropGuard, alone]
      · cases phase with
        | spawned => exact absurd rfl ran
        | attempting retry due result => rfl
        | renewing due result => rfl
    | resume waits woken => exact still rfl rfl rfl rfl (by simp [Note.isIdle])

/-! ## What the notes of a step say -/

/-- A task is gone after a move exactly if the notes tell that its refresh has ended. -/
theorem Move.gone_iff (flight : Flight c h) (move : Move p now c notes c') (id : Nat) :
    (id ∈ c.tasks.map Task.refresh ∧ id ∉ c'.tasks.map Task.refresh) ↔
      id ∈ notes.filterMap Note.succeeded? ∨ id ∈ notes.filterMap Note.unsuccessful? := by
  have still {c' : Cache α} {notes : List (Note α)}
      (tasks : c'.tasks.map Task.refresh = c.tasks.map Task.refresh)
      (silent : notes.filterMap Note.succeeded? = [])
      (silent' : notes.filterMap Note.unsuccessful? = []) :
      (id ∈ c.tasks.map Task.refresh ∧ id ∉ c'.tasks.map Task.refresh) ↔
        id ∈ notes.filterMap Note.succeeded? ∨ id ∈ notes.filterMap Note.unsuccessful? := by
    rw [tasks, silent, silent']
    simp
  -- Only one task is at work, so that the one which ends leaves none behind.
  have closed {k : Nat} {phase : Phase α} (task : ⟨k, phase⟩ ∈ c.tasks) :
      (id ∈ c.tasks.map Task.refresh ∧
        id ∉ (c.tasks.filter fun t => t.refresh != k).map Task.refresh) ↔ id = k := by
    simp [flight.alone_of_task task]
  cases move with
  | rest => exact still rfl rfl rfl
  | leave caller => exact still rfl rfl rfl
  | hit idle fresh => exact still rfl rfl rfl
  | join idle expired noted => exact still rfl rfl rfl
  | start idle expired free =>
    have none : c.tasks = [] := by simpa [free] using flight.tasks_eq
    simp [none, Note.succeeded?, Note.unsuccessful?]
  | attempt due result task => exact still (setPhase_refreshes ..) rfl rfl
  | renew due result task elapsed rejected => exact still (setPhase_refreshes ..) rfl rfl
  | retry due result task elapsed => exact still (setPhase_refreshes ..) rfl rfl
  | store task elapsed brought =>
    rw [finish_tasks, closed task]
    simp [Note.succeeded?, Note.unsuccessful?]
  | fail task elapsed failed =>
    rw [finish_tasks, closed task]
    simp [Note.succeeded?, Note.unsuccessful?]
  | abort payload task ran =>
    refine (closed task).trans ?_
    simp [Note.succeeded?, Note.unsuccessful?]
  | resume waits woken => exact still rfl rfl rfl

/-- What is rejected is a first attempt that is over. -/
theorem Move.of_rejected {id : Nat} (move : Move p now c notes c')
    (hn : .credentialsRejected id ∈ notes) :
    ∃ due result reason, ⟨id, .attempting false due result⟩ ∈ c.tasks ∧ due ≤ now ∧
      result.outcome? p.fetchTimeout = some (.error (.auth reason)) := by
  cases move with
  | renew due' result' task elapsed rejected =>
    simp only [List.mem_singleton, Note.credentialsRejected.injEq] at hn
    subst hn
    exact ⟨_, _, _, task, elapsed, rejected⟩
  | _ => simp at hn

theorem Move.of_hookPanicked {id : Nat} {payload : String} (move : Move p now c notes c')
    (hn : .refreshPanicked id payload true ∈ notes) :
    ∃ due result, ⟨id, .renewing due result⟩ ∈ c.tasks := by
  cases move with
  | @abort k phase payload' task ran =>
    simp only [List.mem_singleton, Note.refreshPanicked.injEq] at hn
    obtain ⟨rfl, -, called⟩ := hn
    cases phase with
    | renewing due result => exact ⟨due, result, task⟩
    | _ => simp [Phase.inHook] at called
  | _ => simp at hn

def Note.ofCaller : Note α → Bool
  | asked _ | hit | refreshStarted _ | joined .. | answered .. => true
  | _ => false

namespace Site

/-- The first attempt of a refresh is over and was rejected, and there is a hook. -/
def FirstRejected (r : Remote ω α) (p : Policy) (s : Site ω α) (id : Nat) : Prop :=
  r.hook.isSome = true ∧ ∃ due result reason,
    ⟨id, .attempting false due result⟩ ∈ s.cache.tasks ∧ due ≤ s.now ∧
      result.outcome? p.fetchTimeout = some (.error (.auth reason))

/-- The hook that a refresh has called is over and has panicked. -/
def HookPanicked (s : Site ω α) (id : Nat) : Prop :=
  ∃ due payload events, ⟨id, .renewing due (.ended (.panicked payload) events)⟩ ∈ s.cache.tasks ∧
    due ≤ s.now

theorem step_gone_iff (r : Remote ω α) {s : Site ω α} (reached : Reached p s.now s.cache h)
    (action : Action) (id : Nat) :
    (id ∈ s.cache.tasks.map Task.refresh ∧
        id ∉ (s.step r p action).1.cache.tasks.map Task.refresh) ↔
      id ∈ (s.step r p action).2.filterMap Note.succeeded? ∨
        id ∈ (s.step r p action).2.filterMap Note.unsuccessful? := by
  rcases s.step_moved r p action with ⟨-, passing, notes, parts, quiet, move⟩ | ⟨time, passed⟩
  · have silent (n : Note α) (hn : n ∈ passing) :=
      Note.silent_of_idle (Note.isIdle_of_passing (quiet n hn))
    have succeeded : passing.filterMap Note.succeeded? = [] :=
      List.filterMap_eq_nil_iff.2 fun n hn => (silent n hn).2.1
    have unsuccessful : passing.filterMap Note.unsuccessful? = [] :=
      List.filterMap_eq_nil_iff.2 fun n hn => (silent n hn).2.2.1
    rw [parts, List.filterMap_append, List.filterMap_append, succeeded, unsuccessful]
    exact move.gone_iff reached.flight id
  · simp [passed, pass]

/-- A note that is not of a caller is left by the task at work. -/
theorem proceed_of_note {r : Remote ω α} {s : Site ω α} {action : Action} {n : Note α} {id : Nat}
    {phase : Phase α} (reached : Reached p s.now s.cache h) (hn : n ∈ (s.step r p action).2)
    (apart : n.ofCaller = false) (task : ⟨id, phase⟩ ∈ s.cache.tasks) :
    action = .work id ∧ n ∈ (s.proceed r p id phase).2 := by
  cases action with
  | get caller =>
    have callers : ∀ n ∈ (s.get p caller).2, n.ofCaller = true := by
      by_cases waits : s.cache.isWaiting caller = true
      · simp [get, waits]
      · have idle : s.cache.isWaiting caller = false := by simpa using waits
        cases fresh : s.cache.fresh? p s.now with
        | some e => simp [get_of_fresh idle fresh, Note.ofCaller]
        | none =>
          cases noted : s.cache.inflight with
          | some id => simp [get_of_noted idle fresh noted, Note.ofCaller]
          | none => simp [get_of_free idle fresh noted, Note.ofCaller]
    simp [callers n hn] at apart
  | resume caller =>
    rw [step, resume] at hn
    split at hn
    · obtain rfl := List.mem_singleton.1 hn
      simp [Note.ofCaller] at apart
    · simp at hn
  | abandon caller => simp [step] at hn
  | work k =>
    have alone := reached.flight.alone_of_task task
    by_cases hk : id = k
    · subst hk
      rw [step, work_of_alone alone] at hn
      exact ⟨rfl, hn⟩
    · simp [step, work, alone, hk] at hn
  | pass time => simp [step] at hn

/-- An attempt that has come to an outcome ends with it. -/
theorem proceed_of_outcome (r : Remote ω α) (s : Site ω α) (id : Nat) (retry : Bool)
    {due : Instant} {result : Bounded α} {outcome : Except FetchFailure α} (elapsed : due ≤ s.now)
    (came : result.outcome? p.fetchTimeout = some outcome) :
    ∃ passing, (∀ n ∈ passing, n.isPassing = true) ∧
      s.proceed r p id (.attempting retry due result) =
        after passing (s.attemptEnded r p id retry outcome) := by
  simp only [proceed, if_neg (Nat.not_lt.2 elapsed)]
  cases result with
  | cutOff =>
    obtain rfl : _ = outcome := by simpa [Bounded.outcome?] using came
    exact ⟨[], by simp, rfl⟩
  | ended ending events =>
    refine ⟨events.map .emitted, emitted_passing events, ?_⟩
    cases ending with
    | value a =>
      obtain rfl : _ = outcome := by simpa [Bounded.outcome?] using came
      rfl
    | failed e =>
      obtain rfl : _ = outcome := by simpa [Bounded.outcome?] using came
      rfl
    | panicked payload => simp [Bounded.outcome?] at came

/-- A rejected first attempt leads to the hook if there is one. -/
theorem attemptEnded_rejected_iff (r : Remote ω α) (p : Policy) (id : Nat) (reason : String)
    (s : Site ω α) :
    .credentialsRejected id ∈ (s.attemptEnded r p id false (.error (.auth reason))).2 ↔
      r.hook.isSome = true := by
  cases hook : r.hook with
  | none => simp [attemptEnded, hook, finish]
  | some call => simp [attemptEnded, hook, startRenewal]

theorem step_rejected_iff (r : Remote ω α) {s : Site ω α} (reached : Reached p s.now s.cache h)
    (action : Action) (id : Nat) :
    .credentialsRejected id ∈ (s.step r p action).2 ↔
      action = .work id ∧ s.FirstRejected r p id := by
  have works {due : Instant} {result : Bounded α} {reason : String}
      (task : ⟨id, .attempting false due result⟩ ∈ s.cache.tasks) (elapsed : due ≤ s.now)
      (rejected : result.outcome? p.fetchTimeout = some (.error (.auth reason))) :
      .credentialsRejected id ∈ (s.work r p id).2 ↔ r.hook.isSome = true := by
    obtain ⟨passing, quiet, step⟩ := proceed_of_outcome r s id false elapsed rejected
    rw [work_of_alone (reached.flight.alone_of_task task), step,
      ← attemptEnded_rejected_iff r p id reason s]
    simp only [after, List.mem_append, or_iff_right_iff_imp]
    intro low
    simpa [Note.isPassing] using quiet _ low
  constructor
  · intro hn
    obtain ⟨notes, hn', move⟩ := exists_move_of_note hn rfl
    obtain ⟨due, result, reason, task, elapsed, rejected⟩ := move.of_rejected hn'
    obtain ⟨rfl, -⟩ := proceed_of_note reached hn rfl task
    exact ⟨rfl, (works task elapsed rejected).1 hn, due, result, reason, task, elapsed, rejected⟩
  · rintro ⟨rfl, hook, due, result, reason, task, elapsed, rejected⟩
    exact (works task elapsed rejected).2 hook

theorem step_hookPanicked_iff (r : Remote ω α) {s : Site ω α}
    (reached : Reached p s.now s.cache h) (action : Action) (id : Nat) :
    id ∈ (s.step r p action).2.filterMap Note.hookPanicked? ↔
      action = .work id ∧ s.HookPanicked id := by
  constructor
  · intro hid
    obtain ⟨n, hn, said⟩ := List.mem_filterMap.1 hid
    obtain ⟨payload, rfl⟩ := Note.eq_of_hookPanicked said
    obtain ⟨notes, hn', move⟩ := exists_move_of_note hn rfl
    obtain ⟨due, result, task⟩ := move.of_hookPanicked hn'
    obtain ⟨rfl, worked⟩ := proceed_of_note reached hn rfl task
    by_cases early : s.now < due
    · simp [proceed, early] at worked
    · simp only [proceed, if_neg early] at worked
      cases result with
      | cutOff => simp [after, startAttempt] at worked
      | ended ending events =>
        cases ending with
        | value u => simp [after, startAttempt] at worked
        | failed e => simp [after, startAttempt] at worked
        | panicked payload => exact ⟨rfl, due, payload, events, task, Nat.le_of_not_lt early⟩
  · rintro ⟨rfl, due, payload, events, task, elapsed⟩
    rw [step, work_of_alone (reached.flight.alone_of_task task)]
    simp [proceed, Nat.not_lt.2 elapsed, after, taskPanicked, Cache.abort, Note.hookPanicked?]

end Site

/-- What holds of the counters of a cache at a point of a run. -/
structure Accounted (r : Remote ω α) (p : Policy) (s : Site ω α) (h : History α) : Prop where
  /-- The refreshes that were started are numbered in that order, so that none is told twice. -/
  begun : told Note.begun? h = List.range s.cache.refreshes
  /-- With none under way, each of them has ended, once, and in one of the two ways. -/
  ended : s.cache.inflight = none →
    (told Note.succeeded? h ++ told Note.unsuccessful? h).Perm (told Note.begun? h)
  failures : s.cache.counters.failures = (told Note.unsuccessful? h).length
  /-- With none under way, there were as many refreshes as successes and failures. -/
  total : s.cache.inflight = none →
    (told Note.begun? h).length = (told Note.succeeded? h).length + s.cache.counters.failures
  authRetries : s.cache.counters.authRetries = (told Note.rejected? h).length
  /-- No refresh is rejected twice, nor does its hook panic twice. -/
  rejected_once : (told Note.rejected? h).Nodup
  hookPanicked_once : (told Note.hookPanicked? h).Nodup
  /-- With none under way, every refresh has made an attempt, and every rejected one another one
  unless its hook has panicked. -/
  fetches : s.cache.inflight = none →
    s.cache.counters.fetches + (told Note.hookPanicked? h).length =
      (told Note.begun? h).length + s.cache.counters.authRetries
  /-- It is told of a refresh that it has ended, in one of the two ways, in the step in which its
  task goes. -/
  ends : ∀ action id,
    (id ∈ s.cache.tasks.map Task.refresh ∧
        id ∉ (s.step r p action).1.cache.tasks.map Task.refresh) ↔
      id ∈ (s.step r p action).2.filterMap Note.succeeded? ∨
        id ∈ (s.step r p action).2.filterMap Note.unsuccessful?
  /-- A refresh that has succeeded leaves a new value, and one that has not leaves none. -/
  stores : ∀ action id value, .stored id value ∈ (s.step r p action).2 →
    (s.step r p action).1.cache.entry = some ⟨value, s.now⟩
  keeps : ∀ action id, id ∈ (s.step r p action).2.filterMap Note.unsuccessful? →
    (s.step r p action).1.cache.entry = s.cache.entry
  /-- It is told of a refresh that it is rejected exactly when its first attempt has ended with
  rejected credentials and there is a hook. -/
  rejects : ∀ action id, .credentialsRejected id ∈ (s.step r p action).2 ↔
    action = .work id ∧ s.FirstRejected r p id
  /-- It is told that the hook of a refresh has panicked exactly when it has. -/
  hook_panics : ∀ action id, id ∈ (s.step r p action).2.filterMap Note.hookPanicked? ↔
    action = .work id ∧ s.HookPanicked id

/-- At every point of every run the counters account for every refresh. -/
theorem run_accounted (r : Remote ω α) (p : Policy) (world : ω) (origin : Instant)
    (actions : List Action) :
    Accounted r p ((Site.start world origin).run r p actions).1
      ((Site.start world origin).run r p actions).2 := by
  have reached := Site.run_reached r p world origin actions
  generalize ((Site.start world origin).run r p actions).1 = s at reached
  generalize ((Site.start world origin).run r p actions).2 = h at reached
  have ledger := reached.ledger
  have ended (free : s.cache.inflight = none) :
      (told Note.succeeded? h ++ told Note.unsuccessful? h).Perm (told Note.begun? h) := by
    simpa [free, ledger.begun] using ledger.ended
  constructor
  case begun => exact ledger.begun
  case ended => exact ended
  case failures => exact ledger.failures
  case total =>
    intro free
    rw [← (ended free).length_eq, List.length_append, ledger.failures]
  case authRetries => exact ledger.authRetries
  case rejected_once => exact ledger.rejected_nodup
  case hookPanicked_once =>
    have all : (told Note.succeeded? h ++ told Note.unsuccessful? h ++
        s.cache.inflight.toList).Nodup := ledger.ended.nodup_iff.2 List.nodup_range
    have unsuccessful := (List.nodup_append.1 (List.nodup_append.1 all).1).2.1
    refine (told_sublist (fun n id said => ?_) h).nodup unsuccessful
    obtain ⟨payload, rfl⟩ := Note.eq_of_hookPanicked said
    rfl
  case fetches =>
    intro free
    have idle : s.cache.tasks = [] := by simpa [free] using reached.flight.tasks_eq
    have fetches := ledger.fetches
    rw [ledger.begun, List.length_range]
    simpa [owed, idle] using fetches
  case ends => exact fun action id => Site.step_gone_iff r reached action id
  case stores =>
    intro action id value hn
    obtain ⟨notes, hn, move⟩ := Site.exists_move_of_note hn rfl
    rw [(move.of_stored hn).2]
    rfl
  case keeps =>
    intro action id hid
    obtain ⟨n, hn, said⟩ := List.mem_filterMap.1 hid
    obtain ⟨e, failed⟩ := Note.outcome?_of_unsuccessful said
    obtain ⟨notes, hn, move⟩ := Site.exists_move_of_note hn (Note.loud_of_outcome failed)
    exact (move.of_error hn failed).2.2
  case rejects => exact fun action id => Site.step_rejected_iff r reached action id
  case hook_panics => exact fun action id => Site.step_hookPanicked_iff r reached action id

end CameraTelemetry.Cache
