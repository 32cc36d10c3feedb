import CameraTelemetry.Proofs.Cache.Accounting
import CameraTelemetry.Proofs.Cache.Reaching

/-!
# How a refresh goes on

A step starts a refresh where none is under way, or lets the task of the one refresh go on, or has
nothing to do with refreshes. What a task that goes on does is listed here with all of it: the call
that it makes, the notes, and the cache and the world that it leaves.
-/
namespace CameraTelemetry.Cache

variable {ω α : Type}

/-- The note with which a refresh ends, and its outcome unless it panicked. -/
inductive Note.Ends (id : Nat) : Note α → Option (Except FetchFailure α) → Prop
  | stored (value : α) : Ends id (.stored id value) (some (.ok value))
  | failed (e : FetchFailure) (hasOlder : Bool) :
      Ends id (.refreshFailed id e hasOlder) (some (.error e))
  | panicked (payload : String) (inHook : Bool) : Ends id (.refreshPanicked id payload inHook) none

theorem Note.Ends.told {n : Note α} {id : Nat} {outcome : Option (Except FetchFailure α)}
    (ends : n.Ends id outcome) : ∃ seen, n.outcome? id = some seen := by
  cases ends <;> exact ⟨_, if_pos rfl⟩

theorem Note.exists_ends {n : Note α} {id : Nat} {seen : Outcome}
    (told : n.outcome? id = some seen) :
    ∃ outcome, n.Ends id outcome := by
  cases n with
  | stored k value =>
    obtain rfl : k = id := (Option.ite_none_right_eq_some.1 told).1
    exact ⟨_, .stored value⟩
  | refreshFailed k e hasOlder =>
    obtain rfl : k = id := (Option.ite_none_right_eq_some.1 told).1
    exact ⟨_, .failed e hasOlder⟩
  | refreshPanicked k payload inHook =>
    obtain rfl : k = id := (Option.ite_none_right_eq_some.1 told).1
    exact ⟨_, .panicked payload inHook⟩
  | _ => simp [outcome?] at told

theorem Note.Ends.isMark {n : Note α} {id : Nat} {outcome : Option (Except FetchFailure α)}
    (ends : n.Ends id outcome) : n.isMark = true := by
  cases ends <;> rfl

/-- The task goes on from a call that ended with a panic. -/
def Phase.Panicked (limit : Duration) : Phase α → Prop
  | spawned => False
  | attempting _ _ result => result.outcome? limit = none
  | renewing _ result => result.outcome? limit = none

/-- An attempt with this outcome is the last one of its refresh. -/
def Remote.Settles (r : Remote ω α) (retry : Bool) (outcome : Except FetchFailure α) : Prop :=
  retry = false → r.hook.isSome = true → ∀ reason, outcome ≠ .error (.auth reason)

/-- What the task of a refresh does as it goes on from a phase. -/
inductive Onward (r : Remote ω α) (p : Policy) (s : Site ω α) (id : Nat) :
    Phase α → Site ω α × List (Note α) → Prop
  | waits {phase : Phase α} (early : s.now < phase.due s.now) : Onward r p s id phase (s, [])
  | first : Onward r p s id .spawned (s.startAttempt r p id false)
  | hook {due : Instant} {result : Bounded α} {reason : String} {hook : ω → Call Unit × ω}
      {passing : List (Note α)} (elapsed : due ≤ s.now)
      (rejected : result.outcome? p.fetchTimeout = some (.error (.auth reason)))
      (known : r.hook = some hook) (quiet : ∀ n ∈ passing, n.isPassing = true) :
      Onward r p s id (.attempting false due result)
        (Site.after passing (s.startRenewal hook p id))
  | settles {retry : Bool} {due : Instant} {result : Bounded α} {outcome : Except FetchFailure α}
      {passing : List (Note α)} (elapsed : due ≤ s.now)
      (came : result.outcome? p.fetchTimeout = some outcome) (last : r.Settles retry outcome)
      (quiet : ∀ n ∈ passing, n.isPassing = true) :
      Onward r p s id (.attempting retry due result)
        (Site.after passing ({ s with cache := (s.cache.finish id outcome s.now).1 },
          (s.cache.finish id outcome s.now).2))
  | retries {due : Instant} {result : Bounded Unit} {passing : List (Note α)}
    (elapsed : due ≤ s.now)
      (returned : result.outcome? p.fetchTimeout ≠ none)
      (quiet : ∀ n ∈ passing, n.isPassing = true) :
      Onward r p s id (.renewing due result) (Site.after passing (s.startAttempt r p id true))
  | panics {phase : Phase α} {payload : String} {passing : List (Note α)}
      (elapsed : phase.due s.now ≤ s.now) (panicked : phase.Panicked p.fetchTimeout)
      (quiet : ∀ n ∈ passing, n.isPassing = true) :
      Onward r p s id phase (Site.after passing (s.taskPanicked id payload phase.inHook))

/-- How a step concerns the refreshes. -/
inductive Concerns (r : Remote ω α) (p : Policy) (s : Site ω α) (action : Action) :
    Site ω α × List (Note α) → Prop
  | aside {done : Site ω α × List (Note α)} (world : done.1.world = s.world)
      (tasks : done.1.cache.tasks = s.cache.tasks)
      (number : done.1.cache.refreshes = s.cache.refreshes)
      (clock : done.1.now = s.now ∨ ∃ time, action = .pass time ∧ done.1.now = s.now + time.nanos)
      (silent : ∀ n ∈ done.2, n.isCall = false ∧ n.isMark = false) : Concerns r p s action done
  | begins {caller : Nat} (idle : s.cache.tasks = []) :
      Concerns r p s action
        ({ s with cache := s.cache.spawn.await caller s.cache.refreshes },
          [.asked caller, .refreshStarted s.cache.refreshes, .joined caller s.cache.refreshes])
  | works {id : Nat} {phase : Phase α} {done : Site ω α × List (Note α)}
      (alone : s.cache.tasks = [⟨id, phase⟩]) (onward : Onward r p s id phase done) :
      Concerns r p s action done

namespace Onward

variable {r : Remote ω α} {p : Policy} {s : Site ω α} {id : Nat} {phase : Phase α}
  {done : Site ω α × List (Note α)}

theorem now_eq (onward : Onward r p s id phase done) : done.1.now = s.now := by
  cases onward <;> rfl

theorem refreshes_eq (onward : Onward r p s id phase done) :
    done.1.cache.refreshes = s.cache.refreshes := by
  cases onward with
  | @settles retry due result outcome passing elapsed came last quiet => cases outcome <;> rfl
  | _ => rfl

/-- A task that goes on starts no refresh, and ends none but its own. -/
theorem of_mark {n : Note α} (onward : Onward r p s id phase done) (mem : n ∈ done.2)
    (mark : n.isMark = true) : ∃ outcome, n.Ends id outcome := by
  have loud {passing notes : List (Note α)} (quiet : ∀ n ∈ passing, n.isPassing = true)
      (mem : n ∈ passing ++ notes) : n ∈ notes := by
    refine (List.mem_append.1 mem).resolve_left fun low => ?_
    simp [Note.not_mark_of_passing (quiet n low)] at mark
  cases onward with
  | waits early => simp at mem
  | first =>
    obtain rfl := List.mem_singleton.1 mem
    cases mark
  | hook elapsed rejected known quiet =>
    obtain rfl := List.mem_singleton.1 (loud quiet mem)
    cases mark
  | retries elapsed returned quiet =>
    obtain rfl := List.mem_singleton.1 (loud quiet mem)
    cases mark
  | @settles retry due result outcome passing elapsed came last quiet =>
    have mem := loud quiet mem
    cases outcome with
    | ok value =>
      obtain rfl := List.mem_singleton.1 mem
      exact ⟨_, .stored value⟩
    | error e =>
      obtain rfl := List.mem_singleton.1 mem
      exact ⟨_, .failed e _⟩
  | panics elapsed panicked quiet =>
    obtain rfl := List.mem_singleton.1 (loud quiet mem)
    exact ⟨_, .panicked _ _⟩

end Onward

namespace Site

variable {r : Remote ω α} {p : Policy} {s : Site ω α} {id : Nat}

theorem after_after (before more : List (Note α)) (done : Site ω α × List (Note α)) :
    after before (after more done) = after (before ++ more) done := by
  simp [after]

theorem attemptEnded_onward {retry : Bool} {due : Instant} {result : Bounded α}
    {outcome : Except FetchFailure α} {passing : List (Note α)} (elapsed : due ≤ s.now)
    (came : result.outcome? p.fetchTimeout = some outcome)
    (quiet : ∀ n ∈ passing, n.isPassing = true) :
    Onward r p s id (.attempting retry due result)
      (after passing (s.attemptEnded r p id retry outcome)) := by
  unfold attemptEnded
  split
  case h_1 reason hook known => exact .hook elapsed came known quiet
  case h_2 other =>
    refine .settles elapsed came (fun first hooked reason same => ?_) quiet
    obtain ⟨hook, known⟩ := Option.isSome_iff_exists.1 hooked
    exact other reason hook first same known

theorem proceed_onward (r : Remote ω α) (p : Policy) (s : Site ω α) (id : Nat) (phase : Phase α) :
    Onward r p s id phase (s.proceed r p id phase) := by
  cases phase with
  | spawned => exact .first
  | attempting retry due result =>
    by_cases early : s.now < due
    · simp only [proceed, if_pos early]
      exact .waits (Nat.lt_of_lt_of_le early (Nat.le_max_right ..))
    · have elapsed : due ≤ s.now := Nat.le_of_not_lt early
      simp only [proceed, if_neg early]
      cases result with
      | cutOff => exact attemptEnded_onward elapsed rfl (List.forall_mem_nil _)
      | ended ending events =>
        cases ending with
        | value a => exact attemptEnded_onward elapsed rfl (emitted_passing events)
        | failed e => exact attemptEnded_onward elapsed rfl (emitted_passing events)
        | panicked payload =>
          exact .panics (Nat.max_le.2 ⟨Nat.le_refl _, elapsed⟩) rfl (emitted_passing events)
  | renewing due result =>
    by_cases early : s.now < due
    · simp only [proceed, if_pos early]
      exact .waits (Nat.lt_of_lt_of_le early (Nat.le_max_right ..))
    · have elapsed : due ≤ s.now := Nat.le_of_not_lt early
      have told {n : Note α} (passing : n.isPassing = true) (events : List Journal.Event) :
          ∀ m ∈ events.map Note.emitted ++ [n], m.isPassing = true := by
        simpa [or_imp, forall_and, passing] using emitted_passing (α := α) events
      simp only [proceed, if_neg early]
      cases result with
      | cutOff => exact .retries elapsed (by simp [Bounded.outcome?]) (by simp [Note.isPassing])
      | ended ending events =>
        cases ending with
        | value u =>
          dsimp only
          rw [after_after]
          exact .retries elapsed (by simp [Bounded.outcome?]) (told rfl events)
        | failed e =>
          dsimp only
          rw [after_after]
          exact .retries elapsed (by simp [Bounded.outcome?]) (told rfl events)
        | panicked payload =>
          exact .panics (Nat.max_le.2 ⟨Nat.le_refl _, elapsed⟩) rfl (emitted_passing events)

/-- Every step starts a refresh, lets its task go on, or leaves the refreshes alone. -/
theorem step_concerns {h : History α} (flight : Flight s.cache h) (action : Action) :
    Concerns r p s action (s.step r p action) := by
  cases action with
  | get caller =>
    by_cases waits : s.cache.isWaiting caller = true
    · simp only [step, get, if_pos waits]
      exact .aside rfl rfl rfl (.inl rfl) (by simp)
    · have idle : s.cache.isWaiting caller = false := by simpa using waits
      cases fresh : s.cache.fresh? p s.now with
      | some e =>
        rw [step, get_of_fresh idle fresh]
        exact .aside rfl rfl rfl (.inl rfl) (by simp [Note.isCall, Note.isMark])
      | none =>
        cases noted : s.cache.inflight with
        | some id =>
          rw [step, get_of_noted idle fresh noted]
          exact .aside rfl rfl rfl (.inl rfl) (by simp [Note.isCall, Note.isMark])
        | none =>
          rw [step, get_of_free idle fresh noted]
          exact .begins (by simpa [noted] using flight.tasks_eq)
  | resume caller =>
    rw [step, resume]
    split
    · exact .aside rfl rfl rfl (.inl rfl) (by simp [Note.isCall, Note.isMark])
    · exact .aside rfl rfl rfl (.inl rfl) (by simp)
  | abandon caller => exact .aside rfl rfl rfl (.inl rfl) (by simp [step])
  | work k =>
    rw [step, work]
    split
    case h_1 task found =>
      obtain ⟨id, phase⟩ := task
      obtain rfl : id = k := by simpa using List.find?_some found
      have alone := flight.alone_of_task (List.mem_of_find?_eq_some found)
      exact .works alone (s.proceed_onward r p id phase)
    case h_2 => exact .aside rfl rfl rfl (.inl rfl) (by simp)
  | pass time => exact .aside rfl rfl rfl (.inr ⟨time, rfl, rfl⟩) (by simp [step])

end Site

end CameraTelemetry.Cache
