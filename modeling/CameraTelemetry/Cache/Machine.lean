import CameraTelemetry.Cache.Entry
import CameraTelemetry.Cache.Remote

/-!
# The cache as a machine

One cache, its callers and its refresh tasks move in small steps, in any order: a caller asks, is
served later or goes away, time passes, and a task does its next piece of work. A caller that finds
no fresh entry joins the refresh under way, and starts one only where none is noted. A task goes on
when all its callers have gone, and as it ends it clears the note of the refresh under way.

Each step says in notes what happened. The log of a cache is read off them.
-/
namespace CameraTelemetry.Cache

open Journal

structure Policy where
  name : String
  ttl : Duration
  /-- The limit of one attempt to fetch, and of one call of the hook. -/
  fetchTimeout : Duration
deriving DecidableEq, Repr

/-- What a refresh task is waiting for. -/
inductive Phase (α : Type)
  /-- To be run for the first time. -/
  | spawned
  /-- The end of an attempt, the first one or the retry. -/
  | attempting (retry : Bool) (due : Instant) (result : Bounded α)
  /-- The end of the hook, between the two attempts. -/
  | renewing (due : Instant) (result : Bounded Unit)
deriving DecidableEq, Repr

structure Task (α : Type) where
  refresh : Nat
  phase : Phase α
deriving DecidableEq, Repr

structure Counters where
  fetches : Nat
  failures : Nat
  authRetries : Nat
deriving DecidableEq, Repr

/-- A caller that joined a refresh; once that has ended it carries the outcome. -/
structure Waiter where
  caller : Nat
  refresh : Nat
  outcome : Option Outcome

end CameraTelemetry.Cache

namespace CameraTelemetry

/-- What is cached of one metric: the entry and the refresh that callers may join, the tasks at
work, and the callers that wait for the end of a refresh. -/
structure Cache (α : Type) where
  entry : Option (Cache.Entry α)
  inflight : Option Nat
  tasks : List (Cache.Task α)
  /-- How many refreshes were started. They are numbered in that order. -/
  refreshes : Nat
  counters : Cache.Counters
  waiters : List Cache.Waiter

namespace Cache

open Journal

/-- A cache with the world behind it and the time. -/
structure Site (ω α : Type) where
  cache : Cache α
  world : ω
  now : Instant

/-- What happened in a step. -/
inductive Note (α : Type)
  | asked (caller : Nat)
  /-- A caller found a fresh entry. -/
  | hit
  /-- A caller found no refresh to join. -/
  | refreshStarted (refresh : Nat)
  /-- A caller waits for the end of the refresh. -/
  | joined (caller refresh : Nat)
  | attemptStarted (refresh : Nat) (retry : Bool)
  /-- A call behind the cache emitted an event. -/
  | emitted (e : Event)
  | credentialsRejected (refresh : Nat)
  | renewed
  | renewalFailed (e : FetchFailure)
  | renewalCutOff
  | stored (refresh : Nat) (value : α)
  | refreshFailed (refresh : Nat) (e : FetchFailure) (hasOlder : Bool)
  /-- The task panicked, in the hook or in an attempt. -/
  | refreshPanicked (refresh : Nat) (payload : String) (inHook : Bool)
  | answered (caller : Nat) (result : Except NoData (Lookup α))

inductive Action
  /-- A caller asks. -/
  | get (caller : Nat)
  /-- A caller whose refresh has ended takes its answer. -/
  | resume (caller : Nat)
  /-- A caller goes away. -/
  | abandon (caller : Nat)
  /-- The task of a refresh is run, if there is one. -/
  | work (refresh : Nat)
  | pass (time : Duration)
deriving DecidableEq, Repr

section

variable {α : Type}

def empty : Cache α := ⟨none, none, [], 0, ⟨0, 0, 0⟩, []⟩

/-- The state of the cache, without a refresh. -/
def state (c : Cache α) (p : Policy) (now : Instant) : State := classify c.entry now p.ttl

def fresh? (c : Cache α) (p : Policy) (now : Instant) : Option (Entry α) :=
  c.entry.filter fun e => classify (some e) now p.ttl = .fresh

/-- No entry is fresh if there is none, or if it is at least as old as its time to live. -/
theorem fresh?_eq_none_iff {c : Cache α} {p : Policy} {now : Instant} :
    c.fresh? p now = none ↔ ∀ e, c.entry = some e → p.ttl.nanos ≤ now - e.capturedAt := by
  simp [fresh?, Option.filter_eq_none_iff, classify_some_eq_fresh_iff]

theorem fresh?_eq_some_iff {c : Cache α} {p : Policy} {now : Instant} {e : Entry α} :
    c.fresh? p now = some e ↔ c.entry = some e ∧ now - e.capturedAt < p.ttl.nanos := by
  simp [fresh?, Option.filter_eq_some_iff, classify_some_eq_fresh_iff]

def isWaiting (c : Cache α) (caller : Nat) : Bool :=
  c.waiters.any fun w => w.caller == caller

def await (caller refresh : Nat) (c : Cache α) : Cache α :=
  { c with waiters := c.waiters ++ [⟨caller, refresh, none⟩] }

/-- A refresh is started and noted as the one to join. -/
def spawn (c : Cache α) : Cache α :=
  { c with
    inflight := some c.refreshes
    tasks := c.tasks ++ [⟨c.refreshes, .spawned⟩]
    refreshes := c.refreshes + 1 }

/-- A caller joins the refresh under way, and starts one if none is noted. -/
def join (caller : Nat) (c : Cache α) : Cache α × List (Note α) :=
  match c.inflight with
  | some id => (c.await caller id, [.joined caller id])
  | none =>
    (c.spawn.await caller c.refreshes, [.refreshStarted c.refreshes, .joined caller c.refreshes])

def leave (caller : Nat) (c : Cache α) : Cache α :=
  { c with waiters := c.waiters.filter fun w => w.caller != caller }

def setPhase (refresh : Nat) (phase : Phase α) (c : Cache α) : Cache α :=
  { c with tasks := c.tasks.map fun t => if t.refresh = refresh then { t with phase } else t }

/-- Hands the outcome of a refresh to the callers that joined it. -/
def wake (refresh : Nat) (outcome : Outcome) (waiters : List Waiter) : List Waiter :=
  waiters.map fun w => if w.refresh = refresh then { w with outcome := some outcome } else w

/-- The guard of a task goes away with it. While it is armed, because no outcome was stored, it
clears the note of the refresh under way and counts a failure. -/
def dropGuard (armed : Bool) (c : Cache α) : Cache α :=
  if armed then { c with inflight := none, counters.failures := c.counters.failures + 1 } else c

def endTask (refresh : Nat) (outcome : Outcome) (c : Cache α) : Cache α :=
  { c with
    tasks := c.tasks.filter fun t => t.refresh != refresh
    waiters := wake refresh outcome c.waiters }

/-- The refresh ends with an outcome. In one piece the note of the refresh under way is cleared, the
value is stored or a failure counted, and the guard is disarmed. -/
def finish (c : Cache α) (refresh : Nat) (outcome : Except FetchFailure α) (now : Instant) :
    Cache α × List (Note α) :=
  let (entry, seen) := applyRefresh c.entry outcome now
  let applied := { c with entry, inflight := none }
  match outcome with
  | .ok value => ((applied.dropGuard false).endTask refresh seen, [.stored refresh value])
  | .error e =>
    let counted := { applied with counters.failures := c.counters.failures + 1 }
    ((counted.dropGuard false).endTask refresh seen, [.refreshFailed refresh e c.entry.isSome])

theorem finish_ok (c : Cache α) (id : Nat) (value : α) (now : Instant) :
    c.finish id (.ok value) now =
      ({ c with
          entry := some ⟨value, now⟩
          inflight := none
          tasks := c.tasks.filter fun t => t.refresh != id
          waiters := wake id (.ok ()) c.waiters },
        [.stored id value]) := rfl

theorem finish_inflight (c : Cache α) (id : Nat) (outcome : Except FetchFailure α)
    (now : Instant) : (c.finish id outcome now).1.inflight = none := by
  cases outcome <;> rfl

theorem finish_tasks (c : Cache α) (id : Nat) (outcome : Except FetchFailure α) (now : Instant) :
    (c.finish id outcome now).1.tasks = c.tasks.filter fun t => t.refresh != id := by
  cases outcome <;> rfl

/-- What the callers see of a refresh that panicked. -/
def panickedOutcome (payload : String) : Outcome :=
  .error (.transport ("refresh task aborted: " ++ panickedTask payload))

/-- The refresh ends without an outcome, by a panic. -/
def abort (c : Cache α) (refresh : Nat) (payload : String) (inHook : Bool) :
    Cache α × List (Note α) :=
  ((c.dropGuard true).endTask refresh (panickedOutcome payload),
    [.refreshPanicked refresh payload inHook])

end

namespace Site

variable {ω α : Type}

def start (world : ω) (now : Instant) : Site ω α := ⟨.empty, world, now⟩

def startAttempt (r : Remote ω α) (p : Policy) (refresh : Nat) (retry : Bool) (s : Site ω α) :
    Site ω α × List (Note α) :=
  let (call, world) := r.fetch s.world
  let due := s.now + (call.lasting p.fetchTimeout).nanos
  let phase : Phase α := .attempting retry due (call.bounded p.fetchTimeout)
  ({ s with
      world
      cache := { s.cache.setPhase refresh phase with
        counters.fetches := s.cache.counters.fetches + 1 } },
    [.attemptStarted refresh retry])

def startRenewal (hook : ω → Call Unit × ω) (p : Policy) (refresh : Nat) (s : Site ω α) :
    Site ω α × List (Note α) :=
  let (call, world) := hook s.world
  let due := s.now + (call.lasting p.fetchTimeout).nanos
  let phase : Phase α := .renewing due (call.bounded p.fetchTimeout)
  ({ s with
      world
      cache := { s.cache.setPhase refresh phase with
        counters.authRetries := s.cache.counters.authRetries + 1 } },
    [.credentialsRejected refresh])

/-- An attempt came to an outcome: a rejected first attempt leads to the hook if there is one, all
else ends the refresh. -/
def attemptEnded (r : Remote ω α) (p : Policy) (refresh : Nat) (retry : Bool)
    (outcome : Except FetchFailure α) (s : Site ω α) : Site ω α × List (Note α) :=
  match retry, outcome, r.hook with
  | false, .error (.auth _), some hook => s.startRenewal hook p refresh
  | _, _, _ =>
    let (cache, notes) := s.cache.finish refresh outcome s.now
    ({ s with cache }, notes)

def taskPanicked (refresh : Nat) (payload : String) (inHook : Bool) (s : Site ω α) :
    Site ω α × List (Note α) :=
  let (cache, notes) := s.cache.abort refresh payload inHook
  ({ s with cache }, notes)

def after (notes : List (Note α)) (step : Site ω α × List (Note α)) : Site ω α × List (Note α) :=
  (step.1, notes ++ step.2)

/-- The task of a refresh goes on from what it was waiting for. -/
def proceed (r : Remote ω α) (p : Policy) (refresh : Nat) (s : Site ω α) :
    Phase α → Site ω α × List (Note α)
  | .spawned => s.startAttempt r p refresh false
  | .attempting retry due result =>
    if s.now < due then (s, [])
    else match result with
      | .cutOff => s.attemptEnded r p refresh retry (.error (.timeout p.fetchTimeout))
      | .ended ending events => after (events.map .emitted) <|
        match ending with
        | .value a => s.attemptEnded r p refresh retry (.ok a)
        | .failed e => s.attemptEnded r p refresh retry (.error e)
        | .panicked payload => s.taskPanicked refresh payload false
  | .renewing due result =>
    if s.now < due then (s, [])
    else match result with
      | .cutOff => after [.renewalCutOff] (s.startAttempt r p refresh true)
      | .ended ending events => after (events.map .emitted) <|
        match ending with
        | .value () => after [.renewed] (s.startAttempt r p refresh true)
        | .failed e => after [.renewalFailed e] (s.startAttempt r p refresh true)
        | .panicked payload => s.taskPanicked refresh payload true

def work (r : Remote ω α) (p : Policy) (refresh : Nat) (s : Site ω α) :
    Site ω α × List (Note α) :=
  match s.cache.tasks.find? fun t => t.refresh == refresh with
  | some task => s.proceed r p refresh task.phase
  | none => (s, [])

theorem work_of_alone {r : Remote ω α} {p : Policy} {refresh : Nat} {phase : Phase α}
    {s : Site ω α} (alone : s.cache.tasks = [⟨refresh, phase⟩]) :
    s.work r p refresh = s.proceed r p refresh phase := by
  simp [work, alone]

/-- A caller asks: it is answered at once from a fresh entry, and otherwise joins a refresh. -/
def get (p : Policy) (caller : Nat) (s : Site ω α) : Site ω α × List (Note α) :=
  if s.cache.isWaiting caller then (s, [])
  else match s.cache.fresh? p s.now with
    | some e => (s, [.asked caller, .hit, .answered caller (.ok (e.lookup s.now false))])
    | none =>
      let (cache, notes) := s.cache.join caller
      ({ s with cache }, .asked caller :: notes)

/-- A caller takes its answer, if its refresh has ended: from the entry as it is now. -/
def resume (p : Policy) (caller : Nat) (s : Site ω α) : Site ω α × List (Note α) :=
  match s.cache.waiters.find? fun w => w.caller == caller with
  | some ⟨_, _, some outcome⟩ =>
    ({ s with cache := s.cache.leave caller },
      [.answered caller (resolve p.name s.cache.entry outcome s.now)])
  | _ => (s, [])

def abandon (caller : Nat) (s : Site ω α) : Site ω α := { s with cache := s.cache.leave caller }

def pass (time : Duration) (s : Site ω α) : Site ω α := { s with now := s.now + time.nanos }

def step (r : Remote ω α) (p : Policy) (s : Site ω α) : Action → Site ω α × List (Note α)
  | .get caller => s.get p caller
  | .resume caller => s.resume p caller
  | .abandon caller => (s.abandon caller, [])
  | .work refresh => s.work r p refresh
  | .pass time => (s.pass time, [])

end Site

def target : String := "camwatch_agent::cache"

def Note.event? {α : Type} (p : Policy) : Note α → Option Event
  | hit => some ⟨.debug, target, "cache hit", [cacheField]⟩
  | emitted e => some e
  | credentialsRejected _ =>
    some ⟨.info, target, "credentials rejected, refreshing and retrying once", [cacheField]⟩
  | renewalFailed e =>
    some ⟨.warn, target, "credential refresh failed: " ++ e.message, [cacheField]⟩
  | renewalCutOff =>
    some ⟨.warn, target, "credential refresh timed out after " ++ p.fetchTimeout.text, [cacheField]⟩
  | stored .. => some ⟨.debug, target, "refreshed", [cacheField]⟩
  | refreshFailed _ e hasOlder =>
    let what := if hasOlder then "refresh failed, serving stale value: "
      else "refresh failed, no data available: "
    some ⟨.warn, target, what ++ e.message, [cacheField, ("reason", .bare e.kind)]⟩
  | refreshPanicked .. =>
    some ⟨.warn, target, "refresh task ended without an outcome", [cacheField]⟩
  | asked _ | refreshStarted _ | joined .. | attemptStarted .. | renewed | answered .. => none
where
  cacheField : String × FieldValue := ("cache", .bare p.name)

def events {α : Type} (p : Policy) (notes : List (Note α)) : List Event :=
  notes.filterMap (Note.event? p)

end Cache

end CameraTelemetry
