import CameraTelemetry.Cache.History

/-!
# The moves of a cache

What one step can do to a cache is listed once, guards included, with the world and the remote calls
left out: a caller is answered, joins, starts a refresh, takes its answer or leaves, and a task goes
on or ends. Every step of the machine is such a move or lets time pass, so that a property of all
reachable caches needs one case for each move.
-/
namespace CameraTelemetry.Cache

variable {ω α : Type}

/-- A note that a task leaves on its way, by which nothing starts or ends. -/
def Note.isPassing : Note α → Bool
  | emitted _ | renewed | renewalFailed _ | renewalCutOff => true
  | _ => false

/-- The outcome of an attempt whose call has come to an end. A panic has none. -/
def Bounded.outcome? (limit : Duration) : Bounded α → Option (Except FetchFailure α)
  | cutOff => some (.error (.timeout limit))
  | ended (.value a) _ => some (.ok a)
  | ended (.failed e) _ => some (.error e)
  | ended (.panicked _) _ => none

theorem Note.loud_of_outcome {n : Note α} {id : Nat} {outcome : Outcome}
    (told : n.outcome? id = some outcome) : n.isPassing = false := by
  cases n <;> simp_all [isPassing, outcome?]

def Phase.inHook : Phase α → Bool
  | renewing .. => true
  | _ => false

/-- What a step makes of a cache at a moment, with the notes of it, those left in passing apart. -/
inductive Move (p : Policy) (now : Instant) (c : Cache α) : List (Note α) → Cache α → Prop
  | rest : Move p now c [] c
  | leave (caller : Nat) : Move p now c [] (c.leave caller)
  | hit {caller : Nat} {e : Entry α} (idle : c.isWaiting caller = false)
      (fresh : c.fresh? p now = some e) :
      Move p now c [.asked caller, .hit, .answered caller (.ok (e.lookup now false))] c
  | join {caller id : Nat} (idle : c.isWaiting caller = false) (expired : c.fresh? p now = none)
      (noted : c.inflight = some id) :
      Move p now c [.asked caller, .joined caller id] (c.await caller id)
  | start {caller : Nat} (idle : c.isWaiting caller = false) (expired : c.fresh? p now = none)
      (free : c.inflight = none) :
      Move p now c [.asked caller, .refreshStarted c.refreshes, .joined caller c.refreshes]
        (c.spawn.await caller c.refreshes)
  | attempt {id : Nat} (due : Instant) (result : Bounded α) (task : ⟨id, .spawned⟩ ∈ c.tasks) :
      Move p now c [.attemptStarted id false]
        { c.setPhase id (.attempting false due result) with
          counters.fetches := c.counters.fetches + 1 }
  | renew {id : Nat} {due : Instant} {result : Bounded α} {reason : String}
      (due' : Instant) (result' : Bounded Unit)
      (task : ⟨id, .attempting false due result⟩ ∈ c.tasks) (elapsed : due ≤ now)
      (rejected : result.outcome? p.fetchTimeout = some (.error (.auth reason))) :
      Move p now c [.credentialsRejected id]
        { c.setPhase id (.renewing due' result') with
          counters.authRetries := c.counters.authRetries + 1 }
  | retry {id : Nat} {due : Instant} {result : Bounded Unit} (due' : Instant)
      (result' : Bounded α) (task : ⟨id, .renewing due result⟩ ∈ c.tasks) (elapsed : due ≤ now) :
      Move p now c [.attemptStarted id true]
        { c.setPhase id (.attempting true due' result') with
          counters.fetches := c.counters.fetches + 1 }
  | store {id : Nat} {retry : Bool} {due : Instant} {result : Bounded α} {value : α}
      (task : ⟨id, .attempting retry due result⟩ ∈ c.tasks) (elapsed : due ≤ now)
      (brought : result.outcome? p.fetchTimeout = some (.ok value)) :
      Move p now c [.stored id value] (c.finish id (.ok value) now).1
  | fail {id : Nat} {retry : Bool} {due : Instant} {result : Bounded α} {e : FetchFailure}
      (task : ⟨id, .attempting retry due result⟩ ∈ c.tasks) (elapsed : due ≤ now)
      (failed : result.outcome? p.fetchTimeout = some (.error e)) :
      Move p now c [.refreshFailed id e c.entry.isSome] (c.finish id (.error e) now).1
  | abort {id : Nat} {phase : Phase α} (payload : String) (task : ⟨id, phase⟩ ∈ c.tasks)
      (ran : phase ≠ .spawned) :
      Move p now c [.refreshPanicked id payload phase.inHook]
        (c.abort id payload phase.inHook).1
  | resume {w : Waiter} {outcome : Outcome} (waits : w ∈ c.waiters)
      (woken : w.outcome = some outcome) :
      Move p now c [.answered w.caller (resolve p.name c.entry outcome now)] (c.leave w.caller)

namespace Move

variable {p : Policy} {now : Instant} {c c' : Cache α} {notes : List (Note α)} {id caller : Nat}

theorem finish {retry : Bool} {due : Instant} {result : Bounded α} {outcome : Except FetchFailure α}
    (task : ⟨id, .attempting retry due result⟩ ∈ c.tasks) (elapsed : due ≤ now)
    (ended : result.outcome? p.fetchTimeout = some outcome) :
    Move p now c (c.finish id outcome now).2 (c.finish id outcome now).1 := by
  cases outcome with
  | ok value => exact .store task elapsed ended
  | error e => exact .fail task elapsed ended

theorem of_stored {value : α} (move : Move p now c notes c') (hn : .stored id value ∈ notes) :
    (∃ retry due result, ⟨id, .attempting retry due result⟩ ∈ c.tasks ∧ due ≤ now ∧
      result.outcome? p.fetchTimeout = some (.ok value)) ∧
    c' = (c.finish id (.ok value) now).1 := by
  cases move with
  | @store id' retry due result value' task elapsed brought =>
    simp only [List.mem_singleton, Note.stored.injEq] at hn
    obtain ⟨rfl, rfl⟩ := hn
    exact ⟨⟨retry, due, result, task, elapsed, brought⟩, rfl⟩
  | _ => simp at hn

theorem of_failed {e : FetchFailure} {hasOlder : Bool} (move : Move p now c notes c')
    (hn : .refreshFailed id e hasOlder ∈ notes) :
    (∃ phase, ⟨id, phase⟩ ∈ c.tasks) ∧ c' = (c.finish id (.error e) now).1 := by
  cases move with
  | fail task elapsed failed =>
    simp only [List.mem_singleton, Note.refreshFailed.injEq] at hn
    obtain ⟨rfl, rfl, -⟩ := hn
    exact ⟨⟨_, task⟩, rfl⟩
  | _ => simp at hn

theorem of_panicked {payload : String} {inHook : Bool} (move : Move p now c notes c')
    (hn : .refreshPanicked id payload inHook ∈ notes) :
    (∃ phase, ⟨id, phase⟩ ∈ c.tasks) ∧ c' = (c.abort id payload inHook).1 := by
  cases move with
  | abort payload' task ran =>
    simp only [List.mem_singleton, Note.refreshPanicked.injEq] at hn
    obtain ⟨rfl, rfl, rfl⟩ := hn
    exact ⟨⟨_, task⟩, rfl⟩
  | _ => simp at hn

/-- A refresh without a value had a task, makes room for the next one and leaves the entry alone. -/
theorem of_error {n : Note α} {e : FetchFailure} (move : Move p now c notes c') (hn : n ∈ notes)
    (failed : n.outcome? id = some (.error e)) :
    (∃ phase, ⟨id, phase⟩ ∈ c.tasks) ∧ c'.inflight = none ∧ c'.entry = c.entry := by
  cases n with
  | refreshFailed k e' hasOlder =>
    obtain ⟨rfl, -⟩ : k = id ∧ _ := by simpa [Note.outcome?] using failed
    obtain ⟨task, rfl⟩ := move.of_failed hn
    exact ⟨task, rfl, rfl⟩
  | refreshPanicked k payload inHook =>
    obtain ⟨rfl, -⟩ : k = id ∧ _ := by simpa [Note.outcome?] using failed
    obtain ⟨task, rfl⟩ := move.of_panicked hn
    exact ⟨task, rfl, rfl⟩
  | _ => simp [Note.outcome?] at failed

/-- A refresh is started where nothing is fresh. -/
theorem of_refreshStarted (move : Move p now c notes c') (hn : .refreshStarted id ∈ notes) :
    c.fresh? p now = none := by
  cases move with
  | start idle expired free => exact expired
  | _ => simp at hn

theorem of_attemptStarted {retry : Bool} (move : Move p now c notes c')
    (hn : .attemptStarted id retry ∈ notes) : ∃ phase, ⟨id, phase⟩ ∈ c.tasks := by
  cases move with
  | attempt due result task =>
    simp only [List.mem_singleton, Note.attemptStarted.injEq] at hn
    exact ⟨_, hn.1 ▸ task⟩
  | retry due result task elapsed =>
    simp only [List.mem_singleton, Note.attemptStarted.injEq] at hn
    exact ⟨_, hn.1 ▸ task⟩
  | _ => simp at hn

/-- A caller is answered from a fresh entry, or with the outcome of the refresh that it joined. -/
theorem of_answered {result : Except NoData (Lookup α)} (move : Move p now c notes c')
    (hn : .answered caller result ∈ notes) :
    (∃ e, c.fresh? p now = some e ∧ result = .ok (e.lookup now false) ∧ .asked caller ∈ notes) ∨
    ∃ w ∈ c.waiters, w.caller = caller ∧ ∃ outcome, w.outcome = some outcome ∧
      result = resolve p.name c.entry outcome now ∧ notes = [.answered caller result] := by
  cases move with
  | hit idle fresh =>
    simp only [List.mem_cons, reduceCtorEq, Note.answered.injEq, List.not_mem_nil, or_false,
      false_or] at hn
    obtain ⟨rfl, rfl⟩ := hn
    exact .inl ⟨_, fresh, rfl, by simp⟩
  | resume waits woken =>
    simp only [List.mem_singleton, Note.answered.injEq] at hn
    obtain ⟨rfl, rfl⟩ := hn
    exact .inr ⟨_, waits, rfl, _, woken, rfl, rfl⟩
  | _ => simp at hn

end Move

namespace Site

/-- The result of a step that moves the cache and takes no time. -/
def Moved (p : Policy) (s : Site ω α) (result : Site ω α × List (Note α)) : Prop :=
  result.1.now = s.now ∧ ∃ passing notes, result.2 = passing ++ notes ∧
    (∀ n ∈ passing, n.isPassing = true) ∧ Move p s.now s.cache notes result.1.cache

theorem Moved.of_move {p : Policy} {s : Site ω α} {result : Site ω α × List (Note α)}
    (still : result.1.now = s.now) (move : Move p s.now s.cache result.2 result.1.cache) :
    s.Moved p result :=
  ⟨still, [], result.2, rfl, by simp, move⟩

theorem Moved.after {p : Policy} {s : Site ω α} {result : Site ω α × List (Note α)}
    {before : List (Note α)} (quiet : ∀ n ∈ before, n.isPassing = true)
    (moved : s.Moved p result) : s.Moved p (after before result) := by
  obtain ⟨still, passing, notes, parts, quiet', move⟩ := moved
  refine ⟨still, before ++ passing, notes, by simp [Site.after, parts], ?_, move⟩
  intro n hn
  exact (List.mem_append.1 hn).elim (quiet n) (quiet' n)

theorem moved_rest (p : Policy) (s : Site ω α) : s.Moved p (s, []) := .of_move rfl .rest

/-- A caller who finds a fresh entry is answered at once. -/
theorem get_of_fresh {p : Policy} {caller : Nat} {e : Entry α} {s : Site ω α}
    (idle : s.cache.isWaiting caller = false) (fresh : s.cache.fresh? p s.now = some e) :
    s.get p caller = (s, [.asked caller, .hit, .answered caller (.ok (e.lookup s.now false))]) := by
  simp [get, idle, fresh]

/-- A caller who finds no fresh entry joins the refresh that is noted. -/
theorem get_of_noted {p : Policy} {caller id : Nat} {s : Site ω α}
    (idle : s.cache.isWaiting caller = false) (expired : s.cache.fresh? p s.now = none)
    (noted : s.cache.inflight = some id) :
    s.get p caller =
      ({ s with cache := s.cache.await caller id }, [.asked caller, .joined caller id]) := by
  simp [get, idle, expired, Cache.join, noted]

/-- A caller who finds no fresh entry and no refresh noted starts one. -/
theorem get_of_free {p : Policy} {caller : Nat} {s : Site ω α}
    (idle : s.cache.isWaiting caller = false) (expired : s.cache.fresh? p s.now = none)
    (free : s.cache.inflight = none) :
    s.get p caller =
      ({ s with cache := s.cache.spawn.await caller s.cache.refreshes },
        [.asked caller, .refreshStarted s.cache.refreshes,
          .joined caller s.cache.refreshes]) := by
  simp [get, idle, expired, Cache.join, free]

theorem get_moved (p : Policy) (caller : Nat) (s : Site ω α) : s.Moved p (s.get p caller) := by
  by_cases waits : s.cache.isWaiting caller = true
  · simpa [get, waits] using moved_rest p s
  · have idle : s.cache.isWaiting caller = false := by simpa using waits
    cases fresh : s.cache.fresh? p s.now with
    | some e =>
      rw [get_of_fresh idle fresh]
      exact .of_move rfl (.hit idle fresh)
    | none =>
      cases noted : s.cache.inflight with
      | some id =>
        rw [get_of_noted idle fresh noted]
        exact .of_move rfl (.join idle fresh noted)
      | none =>
        rw [get_of_free idle fresh noted]
        exact .of_move rfl (.start idle fresh noted)

theorem resume_moved (p : Policy) (caller : Nat) (s : Site ω α) :
    s.Moved p (s.resume p caller) := by
  unfold resume
  split
  · next c id outcome found =>
    have hc : c = caller := by simpa using List.find?_some found
    subst hc
    exact .of_move rfl (.resume (List.mem_of_find?_eq_some found) rfl)
  · exact moved_rest p s

theorem attemptEnded_moved (r : Remote ω α) (p : Policy) {id : Nat} {retry : Bool} {due : Instant}
    {result : Bounded α} {outcome : Except FetchFailure α} (s : Site ω α)
    (task : ⟨id, .attempting retry due result⟩ ∈ s.cache.tasks) (elapsed : due ≤ s.now)
    (ended : result.outcome? p.fetchTimeout = some outcome) :
    s.Moved p (s.attemptEnded r p id retry outcome) := by
  unfold attemptEnded
  split
  · exact .of_move rfl (.renew _ _ task elapsed ended)
  · exact .of_move rfl (.finish task elapsed ended)

theorem retry_moved (r : Remote ω α) (p : Policy) {id : Nat} {due : Instant}
    {result : Bounded Unit} (s : Site ω α) (task : ⟨id, .renewing due result⟩ ∈ s.cache.tasks)
    (elapsed : due ≤ s.now) : s.Moved p (s.startAttempt r p id true) :=
  .of_move rfl (.retry _ _ task elapsed)

theorem taskPanicked_moved (p : Policy) {id : Nat} {phase : Phase α} (payload : String)
    (s : Site ω α) (task : ⟨id, phase⟩ ∈ s.cache.tasks) (ran : phase ≠ .spawned) :
    s.Moved p (s.taskPanicked id payload phase.inHook) :=
  .of_move rfl (.abort payload task ran)

theorem emitted_passing (events : List Journal.Event) :
    ∀ n ∈ events.map (Note.emitted (α := α)), n.isPassing = true := by
  simp [Note.isPassing]

theorem proceed_moved (r : Remote ω α) (p : Policy) {id : Nat} {phase : Phase α} (s : Site ω α)
    (task : ⟨id, phase⟩ ∈ s.cache.tasks) : s.Moved p (s.proceed r p id phase) := by
  cases phase with
  | spawned => exact .of_move rfl (.attempt _ _ task)
  | attempting retry due result =>
    by_cases early : s.now < due
    · simpa only [proceed, if_pos early] using moved_rest p s
    · have elapsed : due ≤ s.now := Nat.le_of_not_lt early
      simp only [proceed, if_neg early]
      cases result with
      | cutOff => exact s.attemptEnded_moved r p task elapsed rfl
      | ended ending events =>
        refine .after (emitted_passing events) ?_
        cases ending with
        | value a => exact s.attemptEnded_moved r p task elapsed rfl
        | failed e => exact s.attemptEnded_moved r p task elapsed rfl
        | panicked payload => exact s.taskPanicked_moved p payload task (by simp)
  | renewing due result =>
    by_cases early : s.now < due
    · simpa only [proceed, if_pos early] using moved_rest p s
    · have elapsed : due ≤ s.now := Nat.le_of_not_lt early
      have again := s.retry_moved r p task elapsed
      simp only [proceed, if_neg early]
      cases result with
      | cutOff => exact again.after (by simp [Note.isPassing])
      | ended ending events =>
        refine .after (emitted_passing events) ?_
        cases ending with
        | value u => exact again.after (by simp [Note.isPassing])
        | failed e => exact again.after (by simp [Note.isPassing])
        | panicked payload => exact s.taskPanicked_moved p payload task (by simp)

theorem work_moved (r : Remote ω α) (p : Policy) (id : Nat) (s : Site ω α) :
    s.Moved p (s.work r p id) := by
  unfold work
  split
  · next task found =>
    obtain ⟨refresh, phase⟩ := task
    have hr : refresh = id := by simpa using List.find?_some found
    subst hr
    exact s.proceed_moved r p (List.mem_of_find?_eq_some found)
  · exact moved_rest p s

/-- A step is a move at its moment, unless time passes in it. -/
theorem step_moved (r : Remote ω α) (p : Policy) (s : Site ω α) (action : Action) :
    s.Moved p (s.step r p action) ∨ ∃ time, s.step r p action = (s.pass time, []) := by
  cases action with
  | get caller => exact .inl (s.get_moved p caller)
  | resume caller => exact .inl (s.resume_moved p caller)
  | abandon caller => exact .inl (.of_move rfl (.leave caller))
  | work id => exact .inl (s.work_moved r p id)
  | pass time => exact .inr ⟨time, rfl⟩

/-- A note of a step that was not left in passing is a note of a move. -/
theorem exists_move_of_note {r : Remote ω α} {p : Policy} {s : Site ω α} {action : Action}
    {n : Note α} (hn : n ∈ (s.step r p action).2) (loud : n.isPassing = false) :
    ∃ notes, n ∈ notes ∧ Move p s.now s.cache notes (s.step r p action).1.cache := by
  rcases s.step_moved r p action with ⟨-, passing, notes, parts, quiet, move⟩ | ⟨time, passed⟩
  · rw [parts] at hn
    rcases List.mem_append.1 hn with hn | hn
    · simp [quiet n hn] at loud
    · exact ⟨notes, hn, move⟩
  · simp [passed] at hn

end Site

/-- The caches that can come about, with the moment and the history so far. -/
inductive Reached (p : Policy) : Instant → Cache α → History α → Prop
  | start (now : Instant) : Reached p now .empty []
  | pass {now : Instant} {c : Cache α} {h : History α} (time : Duration) :
      Reached p now c h → Reached p (now + time.nanos) c h
  | murmur {now : Instant} {c : Cache α} {h : History α} {passing : List (Note α)} :
      Reached p now c h → (∀ n ∈ passing, n.isPassing = true) →
      Reached p now c (h ++ stamped now passing)
  | move {now : Instant} {c c' : Cache α} {h : History α} {notes : List (Note α)} :
      Reached p now c h → Move p now c notes c' → Reached p now c' (h ++ stamped now notes)

namespace Site

theorem step_reached (r : Remote ω α) {p : Policy} {s : Site ω α} {h : History α}
    (reached : Reached p s.now s.cache h) (action : Action) :
    Reached p (s.step r p action).1.now (s.step r p action).1.cache
      (h ++ stamped s.now (s.step r p action).2) := by
  rcases s.step_moved r p action with ⟨still, passing, notes, parts, quiet, move⟩ | ⟨time, passed⟩
  · rw [still, parts, stamped_append, ← List.append_assoc]
    exact (reached.murmur quiet).move move
  · simpa [passed, pass] using reached.pass time

theorem run_reached_from (r : Remote ω α) {p : Policy} (actions : List Action) {s : Site ω α}
    {h : History α} (reached : Reached p s.now s.cache h) :
    Reached p (s.run r p actions).1.now (s.run r p actions).1.cache
      (h ++ (s.run r p actions).2) := by
  induction actions generalizing s h with
  | nil => simpa [run] using reached
  | cons action rest ih =>
    have next := ih (step_reached r reached action)
    simpa only [run, List.append_assoc] using next

/-- A run from the start reaches its last cache with its history. -/
theorem run_reached (r : Remote ω α) (p : Policy) (world : ω) (origin : Instant)
    (actions : List Action) :
    Reached p ((start world origin).run r p actions).1.now
      ((start world origin).run r p actions).1.cache ((start world origin).run r p actions).2 := by
  simpa using run_reached_from r actions (s := start world origin) (Reached.start origin)

end Site

end CameraTelemetry.Cache
