import CameraTelemetry.Cache.Schedule
import CameraTelemetry.Proofs.Cache.Transition

/-!
# Counters only grow

No move of a cache takes anything off its counters, whether a refresh succeeds, fails or panics.
What a schedule does to a cache, it does by such moves.
-/
namespace CameraTelemetry.Cache

variable {ω α : Type}

/-- No counter is less than it was. -/
structure Counters.Grown (before after : Counters) : Prop where
  fetches : before.fetches ≤ after.fetches
  failures : before.failures ≤ after.failures
  authRetries : before.authRetries ≤ after.authRetries

namespace Counters.Grown

theorem refl (c : Counters) : c.Grown c := ⟨Nat.le_refl _, Nat.le_refl _, Nat.le_refl _⟩

theorem trans {a b c : Counters} (first : a.Grown b) (second : b.Grown c) : a.Grown c :=
  ⟨Nat.le_trans first.fetches second.fetches, Nat.le_trans first.failures second.failures,
    Nat.le_trans first.authRetries second.authRetries⟩

end Counters.Grown

theorem Move.grown {p : Policy} {now : Instant} {c c' : Cache α} {notes : List (Note α)}
    (move : Move p now c notes c') : c.counters.Grown c'.counters := by
  cases move with
  | attempt due result task => exact ⟨Nat.le_succ _, Nat.le_refl _, Nat.le_refl _⟩
  | renew due result task elapsed rejected => exact ⟨Nat.le_refl _, Nat.le_refl _, Nat.le_succ _⟩
  | retry due result task elapsed => exact ⟨Nat.le_succ _, Nat.le_refl _, Nat.le_refl _⟩
  | fail task elapsed failed => exact ⟨Nat.le_refl _, Nat.le_succ _, Nat.le_refl _⟩
  | abort payload task ran => exact ⟨Nat.le_refl _, Nat.le_succ _, Nat.le_refl _⟩
  | _ => exact .refl c.counters

namespace Site

def Grown (s : Site ω α) (done : Site ω α × List (Note α)) : Prop :=
  s.cache.counters.Grown done.1.cache.counters

variable {r : Remote ω α} {p : Policy} {s : Site ω α} {done : Site ω α × List (Note α)}

theorem Moved.grown (moved : s.Moved p done) : s.Grown done := by
  obtain ⟨-, passing, notes, -, -, move⟩ := moved
  exact move.grown

theorem Grown.rest (s : Site ω α) : s.Grown (s, []) := .refl _

theorem Grown.andThen {next : Site ω α → Site ω α × List (Note α)} (grown : s.Grown done)
    (onward : ∀ s : Site ω α, s.Grown (next s)) : s.Grown (andThen done next) :=
  grown.trans (onward done.1)

/-! ## By the clock -/

theorem drive_grown (r : Remote ω α) (p : Policy) (deadline : Option Instant) (moments : Nat)
    (s : Site ω α) : s.Grown (s.drive r p deadline moments) := by
  induction moments generalizing s with
  | zero => exact .rest s
  | succ moments ih =>
    rw [drive]
    split
    · exact .rest s
    · dsimp only
      split
      · exact Grown.andThen ((s.pass _).work_moved r p _).grown ih
      · exact .rest s

theorem complete_grown (r : Remote ω α) (p : Policy) (s : Site ω α) : s.Grown (s.complete r p) :=
  drive_grown r p none momentsPerRefresh s

theorem Grown.foldl {next : Nat → Site ω α → Site ω α × List (Note α)}
    (onward : ∀ caller (s : Site ω α), s.Grown (next caller s)) (grown : s.Grown done)
    (callers : List Nat) :
    s.Grown (callers.foldl (fun done c => Site.andThen done (next c)) done) := by
  induction callers generalizing done with
  | nil => exact grown
  | cons c rest ih => exact ih (grown.andThen (onward c))

theorem getAll_grown (r : Remote ω α) (p : Policy) (callers : List Nat) (s : Site ω α) :
    s.Grown (s.getAll r p callers) := by
  have asked := Grown.foldl (fun c s => (s.get_moved p c).grown) (.rest s) callers
  unfold getAll
  refine Grown.foldl (fun c s => (s.resume_moved p c).grown) ?_ callers
  split
  · exact asked
  · exact asked.andThen (complete_grown r p)

end Site

end CameraTelemetry.Cache
