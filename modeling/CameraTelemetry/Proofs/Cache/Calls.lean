import CameraTelemetry.Proofs.Cache.Likeness
import CameraTelemetry.Proofs.Cache.Reaching

/-!
# The calls of a run

A run is seen here with the calls that it makes and with what each of them does when it is left
alone. They are taken down behind the cache, where they are made; a world that takes down its calls
cannot be told from one that does not. A call belongs to the refresh whose note is left in the same
turn.
-/
namespace CameraTelemetry.Cache

variable {ω α : Type}

inductive Outgoing (α : Type)
  | fetch (call : Call α)
  | hook (call : Call Unit)

/-- A world with the calls that were made into it. -/
structure Watched (ω α : Type) where
  world : ω
  calls : List (Outgoing α)

namespace Remote

/-- The same calls, taken down as they are made. -/
def watched (r : Remote ω α) : Remote (Watched ω α) α where
  fetch w := ((r.fetch w.world).1, ⟨(r.fetch w.world).2, w.calls ++ [.fetch (r.fetch w.world).1]⟩)
  hook := r.hook.map fun hook w =>
    ((hook w.world).1, ⟨(hook w.world).2, w.calls ++ [.hook (hook w.world).1]⟩)

@[simp] theorem watched_hook_isSome (r : Remote ω α) : r.watched.hook.isSome = r.hook.isSome :=
  Option.isSome_map ..

theorem watched_alike (r : Remote ω α) : r.watched.Alike (fun w v => w.world = v) r where
  fetch := by
    rintro w _ rfl
    exact ⟨rfl, rfl⟩
  hook := by
    rw [watched]
    cases r.hook with
    | none => exact .none
    | some hook =>
      refine .some ?_
      rintro w _ rfl
      exact ⟨rfl, rfl⟩

end Remote

/-- One step as it is seen: its moment, its notes, and the calls that it made. -/
structure Turn (α : Type) where
  moment : Instant
  notes : List (Note α)
  calls : List (Outgoing α)

namespace Site

def watched (s : Site ω α) : Site (Watched ω α) α := ⟨s.cache, ⟨s.world, []⟩, s.now⟩

def turn (r : Remote ω α) (p : Policy) (s : Site ω α) (action : Action) : Turn α :=
  let done := s.watched.step r.watched p action
  ⟨s.now, done.2, done.1.world.calls⟩

def turns (r : Remote ω α) (p : Policy) (s : Site ω α) : List Action → List (Turn α)
  | [] => []
  | action :: rest => s.turn r p action :: (s.step r p action).1.turns r p rest

/-- The step that is watched is the step that is taken. -/
theorem step_watched (r : Remote ω α) (p : Policy) (s : Site ω α) (action : Action) :
    SameStep (fun w v => w.world = v) (s.watched.step r.watched p action) (s.step r p action) :=
  Alike.step r.watched_alike ⟨rfl, rfl, rfl⟩ action

end Site

def historyOf (turns : List (Turn α)) : History α := turns.flatMap fun t => stamped t.moment t.notes

/-- The history that is seen is that of the run. -/
theorem Site.historyOf_turns (r : Remote ω α) (p : Policy) (s : Site ω α) (actions : List Action) :
    historyOf (s.turns r p actions) = (s.run r p actions).2 := by
  induction actions generalizing s with
  | nil => rfl
  | cons action rest ih =>
    have notes : (s.turn r p action).notes = (s.step r p action).2 :=
      (s.step_watched r p action).notes
    have next := ih (s.step r p action).1
    simp only [historyOf] at next
    simp only [historyOf, turns, run, List.flatMap_cons, next, notes]
    rfl

def Note.caller? : Note α → Option Nat
  | attemptStarted id _ => some id
  | credentialsRejected id => some id
  | _ => none

theorem Note.caller?_of_not_call {n : Note α} (quiet : n.isCall = false) : n.caller? = none := by
  cases n <;> simp_all [isCall, caller?]

theorem filterMap_caller?_of_quiet {notes : List (Note α)} (quiet : ∀ n ∈ notes, n.isCall = false) :
    notes.filterMap Note.caller? = [] :=
  List.filterMap_eq_nil_iff.2 fun n mem => Note.caller?_of_not_call (quiet n mem)

/-- The calls that were made for a refresh. -/
def callsOf (id : Nat) (turns : List (Turn α)) : List (Outgoing α) :=
  turns.flatMap fun t => if id ∈ t.notes.filterMap Note.caller? then t.calls else []

/-- The calls of a turn are those of one refresh, with one note for each. -/
def Turn.Attributed (t : Turn α) : Prop :=
  ∃ id, t.notes.filterMap Note.caller? = t.calls.map fun _ => id

section

variable {id : Nat} {turns : List (Turn α)} {t : Turn α}

theorem historyOf_append_one :
    historyOf (turns ++ [t]) = historyOf turns ++ stamped t.moment t.notes := by
  simp [historyOf]

theorem mem_historyOf_append_one {x : Instant × Note α} (mem : x ∈ historyOf (turns ++ [t])) :
    x ∈ historyOf turns ∨ x.2 ∈ t.notes := by
  obtain ⟨moment, n⟩ := x
  rw [historyOf_append_one, List.mem_append] at mem
  exact mem.imp_right fun new => (mem_stamped.1 new).2

theorem callsOf_append_one :
    callsOf id (turns ++ [t]) =
      callsOf id turns ++ if id ∈ t.notes.filterMap Note.caller? then t.calls else [] := by
  rw [callsOf, List.flatMap_append, List.flatMap_singleton, callsOf]

theorem callsOf_append_own (own : t.notes.filterMap Note.caller? = t.calls.map fun _ => id) :
    callsOf id (turns ++ [t]) = callsOf id turns ++ t.calls := by
  rw [callsOf_append_one, own]
  cases t.calls with
  | nil => simp
  | cons call rest => simp

theorem callsOf_append_other {k : Nat} (other : k ≠ id)
    (own : t.notes.filterMap Note.caller? = t.calls.map fun _ => id) :
    callsOf k (turns ++ [t]) = callsOf k turns := by
  have others : k ∉ t.notes.filterMap Note.caller? := by
    rw [own]
    intro mem
    obtain ⟨_, -, same⟩ := List.mem_map.1 mem
    exact other same.symm
  rw [callsOf_append_one, if_neg others, List.append_nil]

theorem callsOf_append_quiet (none : t.calls = []) :
    callsOf id (turns ++ [t]) = callsOf id turns := by
  rw [callsOf_append_one, none, ite_self, List.append_nil]

end

end CameraTelemetry.Cache
