import CameraTelemetry.Cache.Machine

/-!
# Running a cache by the clock

A schedule for the machine in which time passes only when there is nothing else to do, and then up
to the next moment at which the refresh task can go on. A refresh has at most four such moments: it
is run for the first time, and one attempt, the hook and a second attempt end.
-/
namespace CameraTelemetry.Cache

variable {ω α : Type}

/-- The moment at which the task can go on. -/
def Phase.due (now : Instant) : Phase α → Instant
  | spawned => now
  | attempting _ due _ => max now due
  | renewing due _ => max now due

namespace Site

def andThen (done : Site ω α × List (Note α)) (next : Site ω α → Site ω α × List (Note α)) :
    Site ω α × List (Note α) :=
  after done.2 (next done.1)

/-- Lets the task do its work at its moments, up to a deadline if there is one; at most `moments`
of them. -/
def drive (r : Remote ω α) (p : Policy) (deadline : Option Instant) :
    Nat → Site ω α → Site ω α × List (Note α)
  | 0, s => (s, [])
  | moments + 1, s =>
    match s.cache.tasks with
    | [] => (s, [])
    | task :: _ =>
      let due := task.phase.due s.now
      if deadline.all (due ≤ ·) then
        andThen ((s.pass ⟨due - s.now⟩).work r p task.refresh) (drive r p deadline moments)
      else (s, [])

def momentsPerRefresh : Nat := 4

def complete (r : Remote ω α) (p : Policy) (s : Site ω α) : Site ω α × List (Note α) :=
  s.drive r p none momentsPerRefresh

/-- Lets time pass up to a moment, with the work that falls due by then. -/
def passUntil (r : Remote ω α) (p : Policy) (moment : Instant) (s : Site ω α) :
    Site ω α × List (Note α) :=
  let (done, notes) := s.drive r p (some moment) momentsPerRefresh
  (done.pass ⟨moment - done.now⟩, notes)

/-- All of some callers ask at once, and wait until they are answered. -/
def getAll (r : Remote ω α) (p : Policy) (callers : List Nat) (s : Site ω α) :
    Site ω α × List (Note α) :=
  let asked := callers.foldl (fun done c => andThen done (·.get p c)) (s, [])
  let completed := if asked.1.cache.waiters.isEmpty then asked else andThen asked (·.complete r p)
  callers.foldl (fun done c => andThen done (·.resume p c)) completed

def getWithin (r : Remote ω α) (p : Policy) (caller : Nat) (patience : Duration) (s : Site ω α) :
    Site ω α × List (Note α) :=
  let asked := s.get p caller
  if asked.1.cache.isWaiting caller then
    let deadline := s.now + patience.nanos
    let driven := andThen asked (·.drive r p (some deadline) momentsPerRefresh)
    if driven.1.cache.inflight.isNone then andThen driven (·.resume p caller)
    else andThen driven fun s => ((s.pass ⟨deadline - s.now⟩).abandon caller, [])
  else asked

def answerTo (caller : Nat) (notes : List (Note α)) : Option (Except NoData (Lookup α)) :=
  notes.findSome? fun
    | .answered c result => if c = caller then some result else none
    | _ => none

end Site

end CameraTelemetry.Cache
