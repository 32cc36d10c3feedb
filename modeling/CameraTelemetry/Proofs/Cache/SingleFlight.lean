import CameraTelemetry.Proofs.Cache.Completion
import CameraTelemetry.Proofs.Cache.Transition

/-!
# One refresh at a time

The tasks at work, the refresh that is noted and the history of starts and ends agree at every
point of every run. Hence no two tasks are ever at work, callers share the refresh under way, and
however a refresh ends it makes room for the next one.
-/
namespace CameraTelemetry.Cache

variable {ω α : Type} {p : Policy} {now : Instant} {c c' : Cache α} {h : History α}
  {notes : List (Note α)}

/-- The note marks the start or the end of a refresh. -/
def Note.isMark : Note α → Bool
  | refreshStarted _ | stored .. | refreshFailed .. | refreshPanicked .. => true
  | _ => false

theorem Note.outcome?_of_not_mark {n : Note α} (hn : n.isMark = false) (id : Nat) :
    n.outcome? id = none := by
  cases n <;> simp_all [isMark, outcome?]

theorem Note.not_mark_of_passing {n : Note α} (hn : n.isPassing = true) : n.isMark = false := by
  cases n <;> simp_all [isMark, isPassing]

theorem setPhase_refreshes (id : Nat) (phase : Phase α) (c : Cache α) :
    (c.setPhase id phase).tasks.map Task.refresh = c.tasks.map Task.refresh := by
  simp only [setPhase, List.map_map]
  refine List.map_congr_left fun t _ => ?_
  by_cases ht : t.refresh = id <;> simp [ht]

/-- The tasks, the noted refresh and the count of refreshes agree with the history. -/
structure Flight (c : Cache α) (h : History α) : Prop where
  tasks_eq : c.tasks.map Task.refresh = c.inflight.toList
  noted_lt : ∀ id, c.inflight = some id → id < c.refreshes
  started_iff : ∀ id, Started id h ↔ id < c.refreshes
  open_iff : ∀ id < c.refreshes, outcomeOf id h = none ↔ c.inflight = some id
  unborn : ∀ id, c.refreshes ≤ id → outcomeOf id h = none

namespace Flight

theorem noted_of_task {id : Nat} {phase : Phase α} (flight : Flight c h)
    (task : ⟨id, phase⟩ ∈ c.tasks) : c.inflight = some id := by
  have hid : id ∈ c.tasks.map Task.refresh := List.mem_map.2 ⟨_, task, rfl⟩
  rwa [flight.tasks_eq, Option.mem_toList] at hid

/-- The task of the noted refresh is the only one at work. -/
theorem alone {id : Nat} (flight : Flight c h) (noted : c.inflight = some id) :
    ∃ phase, c.tasks = [⟨id, phase⟩] := by
  have ids : c.tasks.map Task.refresh = [id] := by simp [flight.tasks_eq, noted]
  obtain ⟨⟨_, phase⟩, tasks, rfl⟩ := List.map_eq_singleton_iff.1 ids
  exact ⟨phase, tasks⟩

theorem alone_of_task {id : Nat} {phase : Phase α} (flight : Flight c h)
    (task : ⟨id, phase⟩ ∈ c.tasks) : c.tasks = [⟨id, phase⟩] := by
  obtain ⟨phase', tasks⟩ := flight.alone (flight.noted_of_task task)
  rw [tasks] at task ⊢
  rw [List.mem_singleton.1 task]

theorem noted_iff_underway (flight : Flight c h) (id : Nat) :
    c.inflight = some id ↔ Underway id h := by
  rw [Underway, flight.started_iff]
  constructor
  · intro noted
    have hlt := flight.noted_lt id noted
    exact ⟨hlt, (flight.open_iff id hlt).2 noted⟩
  · rintro ⟨hlt, open'⟩
    exact (flight.open_iff id hlt).1 open'

theorem silent (flight : Flight c h)
    (tasks : c'.tasks.map Task.refresh = c.tasks.map Task.refresh)
    (noted : c'.inflight = c.inflight) (number : c'.refreshes = c.refreshes)
    (unmarked : ∀ n ∈ notes, n.isMark = false) : Flight c' (h ++ stamped now notes) := by
  have outcomes (id : Nat) : outcomeOf id (h ++ stamped now notes) = outcomeOf id h := by
    rw [outcomeOf, latest_append,
      latest_stamped fun n hn => Note.outcome?_of_not_mark (unmarked n hn) id, Option.none_or]
    rfl
  have starts (id : Nat) : Started id (h ++ stamped now notes) ↔ Started id h := by
    rw [started_append, started_stamped, or_iff_left]
    intro hn
    simpa [Note.isMark] using unmarked _ hn
  constructor
  · rw [tasks, noted, flight.tasks_eq]
  · rw [noted, number]
    exact flight.noted_lt
  · simpa only [starts, number] using flight.started_iff
  · simpa only [outcomes, noted, number] using flight.open_iff
  · simpa only [outcomes, number] using flight.unborn

theorem spawned (flight : Flight c h) (free : c.inflight = none) (caller : Nat) :
    Flight (c.spawn.await caller c.refreshes) (h ++ stamped now
      [.asked caller, .refreshStarted c.refreshes, .joined caller c.refreshes]) := by
  have idle : c.tasks = [] := by simpa [free] using flight.tasks_eq
  have outcomes (id : Nat) : outcomeOf id (h ++ stamped now
      [.asked caller, .refreshStarted c.refreshes, .joined caller c.refreshes]) =
      outcomeOf id h := by
    simp [outcomeOf, Note.outcome?]
  constructor
  · simp [spawn, Cache.await, idle]
  · simp [spawn, Cache.await]
  · intro id
    simp only [started_append, flight.started_iff, started_stamped, spawn, Cache.await,
      List.mem_cons, reduceCtorEq, Note.refreshStarted.injEq, List.not_mem_nil, or_false, false_or]
    omega
  · intro id hid
    rw [outcomes]
    rcases Nat.lt_succ_iff_lt_or_eq.1 hid with old | rfl
    · have ended := flight.open_iff id old
      simp only [free, reduceCtorEq, iff_false] at ended
      simp [ended, spawn, Cache.await, Nat.ne_of_gt old]
    · simp [flight.unborn _ (Nat.le_refl _), spawn, Cache.await]
  · intro id hid
    rw [outcomes]
    exact flight.unborn id (Nat.le_of_succ_le hid)

theorem ended {id : Nat} {phase : Phase α} {seen : Outcome} {n : Note α} (flight : Flight c h)
    (task : ⟨id, phase⟩ ∈ c.tasks) (cleared : c'.inflight = none)
    (tasks : c'.tasks = c.tasks.filter fun t => t.refresh != id)
    (number : c'.refreshes = c.refreshes)
    (mark : ∀ k, n.outcome? k = if id = k then some seen else none)
    (noStart : ∀ k, n ≠ .refreshStarted k) : Flight c' (h ++ stamped now [n]) := by
  have noted := flight.noted_of_task task
  have outcomes (k : Nat) :
      outcomeOf k (h ++ stamped now [n]) = if id = k then some seen else outcomeOf k h := by
    by_cases hk : id = k <;> simp [outcomeOf, mark, hk]
  constructor
  · have gone : c'.tasks = [] := by simp [tasks, flight.alone_of_task task]
    simp [gone, cleared]
  · simp [cleared]
  · intro k
    rw [started_append, started_stamped, number, flight.started_iff]
    simp [fun k => (noStart k).symm]
  · intro k hk
    rw [number] at hk
    have before := flight.open_iff k hk
    rw [outcomes, cleared]
    by_cases hid : id = k
    · simp [hid]
    · simp [hid, before, noted]
  · intro k hk
    rw [number] at hk
    have hid : id ≠ k := by
      have := flight.noted_lt id noted
      omega
    rw [outcomes, if_neg hid]
    exact flight.unborn k hk

theorem move (flight : Flight c h) (move : Move p now c notes c') :
    Flight c' (h ++ stamped now notes) := by
  cases move with
  | rest => exact flight.silent rfl rfl rfl (by simp)
  | leave caller => exact flight.silent rfl rfl rfl (by simp)
  | hit idle fresh => exact flight.silent rfl rfl rfl (by simp [Note.isMark])
  | join idle expired noted => exact flight.silent rfl rfl rfl (by simp [Note.isMark])
  | start idle expired free => exact flight.spawned free _
  | attempt due result task =>
    exact flight.silent (setPhase_refreshes ..) rfl rfl (by simp [Note.isMark])
  | renew due result task elapsed rejected =>
    exact flight.silent (setPhase_refreshes ..) rfl rfl (by simp [Note.isMark])
  | retry due result task elapsed =>
    exact flight.silent (setPhase_refreshes ..) rfl rfl (by simp [Note.isMark])
  | store task elapsed brought => exact flight.ended task rfl rfl rfl (fun k => rfl) (by simp)
  | fail task elapsed failed => exact flight.ended task rfl rfl rfl (fun k => rfl) (by simp)
  | abort payload task ran => exact flight.ended task rfl rfl rfl (fun k => rfl) (by simp)
  | resume waits woken => exact flight.silent rfl rfl rfl (by simp [Note.isMark])

end Flight

theorem Reached.flight (reached : Reached p now c h) : Flight c h := by
  induction reached with
  | start now =>
    constructor <;> simp [empty, Started, outcomeOf]
  | pass time reached ih => exact ih
  | murmur reached quiet ih =>
    exact ih.silent rfl rfl rfl fun n hn => Note.not_mark_of_passing (quiet n hn)
  | move reached move ih => exact ih.move move

/-- While a refresh is under way the entry is missing or has outlived its time. -/
theorem Reached.expired (reached : Reached p now c h) (busy : c.inflight ≠ none) :
    c.fresh? p now = none := by
  simp only [fresh?_eq_none_iff]
  induction reached with
  | start now => simp [empty]
  | pass time reached ih => exact fun e he => Nat.le_trans (ih busy e he) (by omega)
  | murmur reached quiet ih => exact ih busy
  | move reached move ih =>
    cases move with
    | start idle expired free => exact fresh?_eq_none_iff.1 expired
    | store task elapsed brought => exact absurd rfl busy
    | fail task elapsed failed => exact absurd rfl busy
    | abort payload task ran => exact absurd rfl busy
    | _ => exact ih busy

/-- What holds of the refreshes at a point of a run. -/
structure SingleFlight (r : Remote ω α) (p : Policy) (s : Site ω α) (h : History α) : Prop where
  /-- No two tasks are at work. -/
  one_task : s.cache.tasks.length ≤ 1
  /-- The task at work is that of the refresh that was started and has not ended. -/
  task_iff : ∀ id, id ∈ s.cache.tasks.map Task.refresh ↔ Underway id h
  inflight_iff : ∀ id, s.cache.inflight = some id ↔ Underway id h
  /-- While a refresh is under way the entry is missing or at least as old as its time to live. -/
  expired : s.cache.inflight ≠ none →
    ∀ e, s.cache.entry = some e → p.ttl.nanos ≤ s.now - e.capturedAt
  /-- Whoever asks while a refresh is under way joins it, and nothing else happens. -/
  joins : ∀ id caller, s.cache.inflight = some id → s.cache.isWaiting caller = false →
    s.get p caller =
      ({ s with cache := s.cache.await caller id }, [.asked caller, .joined caller id])
  /-- A value is stored in the step in which its refresh makes room for the next one. -/
  stores : ∀ action id value, .stored id value ∈ (s.step r p action).2 →
    (s.step r p action).1.cache.inflight = none ∧
      (s.step r p action).1.cache.entry = some ⟨value, s.now⟩
  /-- A refresh that failed, or panicked in an attempt or in the hook, makes room and leaves the
  entry as it was. -/
  keeps : ∀ action id n e, n ∈ (s.step r p action).2 → n.outcome? id = some (.error e) →
    (s.step r p action).1.cache.inflight = none ∧
      (s.step r p action).1.cache.entry = s.cache.entry
  /-- Where no refresh is under way, the first caller who finds no fresh entry starts one that never
  was before. -/
  starts : ∀ caller, s.cache.inflight = none → s.cache.isWaiting caller = false →
    s.cache.fresh? p s.now = none →
    s.get p caller =
      ({ s with cache := s.cache.spawn.await caller s.cache.refreshes },
        [.asked caller, .refreshStarted s.cache.refreshes, .joined caller s.cache.refreshes]) ∧
    ¬ Started s.cache.refreshes h
  /-- The refresh under way comes to its end when its task is run at its moments. -/
  ends : (s.complete r p).1.cache.inflight = none

/-- At every point of every run, in whatever order callers ask, return and leave, time passes and
the tasks go on, at most one refresh is under way, it is the one that callers join, and each of its
ends makes room for the next. -/
theorem run_singleFlight (r : Remote ω α) (p : Policy) (world : ω) (origin : Instant)
    (actions : List Action) :
    SingleFlight r p ((Site.start world origin).run r p actions).1
      ((Site.start world origin).run r p actions).2 := by
  have reached := Site.run_reached r p world origin actions
  generalize ((Site.start world origin).run r p actions).1 = s at reached
  generalize ((Site.start world origin).run r p actions).2 = h at reached
  have flight := reached.flight
  have expired (busy : s.cache.inflight ≠ none) := reached.expired busy
  constructor
  case one_task =>
    have count := congrArg List.length flight.tasks_eq
    rw [List.length_map] at count
    rw [count]
    cases s.cache.inflight <;> simp
  case task_iff =>
    intro id
    rw [flight.tasks_eq, Option.mem_toList, flight.noted_iff_underway]
  case inflight_iff => exact flight.noted_iff_underway
  case expired => exact fun busy => fresh?_eq_none_iff.1 (expired busy)
  case joins =>
    intro id caller noted idle
    exact Site.get_of_noted idle (expired (by simp [noted])) noted
  case stores =>
    intro action id value hn
    obtain ⟨notes, hn, move⟩ := Site.exists_move_of_note hn rfl
    rw [(move.of_stored hn).2]
    exact ⟨rfl, rfl⟩
  case keeps =>
    intro action id n e hn failed
    obtain ⟨notes, hn, move⟩ := Site.exists_move_of_note hn (Note.loud_of_outcome failed)
    exact (move.of_error hn failed).2
  case starts =>
    intro caller free idle old
    refine ⟨Site.get_of_free idle old free, ?_⟩
    rw [flight.started_iff]
    exact Nat.lt_irrefl _
  case ends =>
    cases noted : s.cache.inflight with
    | none =>
      have idle : s.cache.tasks = [] := by simpa [noted] using flight.tasks_eq
      simpa [Site.complete, Site.momentsPerRefresh, Site.drive, idle] using noted
    | some id =>
      obtain ⟨phase, tasks⟩ := flight.alone noted
      exact Site.drive_ends r p _ _ s phase tasks phase.rank_lt

end CameraTelemetry.Cache
