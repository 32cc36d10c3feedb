import CameraTelemetry.Cache.Machine

/-!
# Histories

A run of a cache leaves its notes behind, each with the moment of its step. What a refresh came to,
which refresh a caller joined and when it asked are read off the latest note about it.
-/
namespace CameraTelemetry.Cache

variable {ω α β : Type}

/-- The notes of a run in their order, with their moments. -/
abbrev History (α : Type) := List (Instant × Note α)

def stamped (now : Instant) (notes : List (Note α)) : History α := notes.map (now, ·)

/-- A run of steps. Passing time leaves no note, so that a note has the moment at which its step
begins and ends. -/
def Site.run (r : Remote ω α) (p : Policy) (s : Site ω α) : List Action → Site ω α × History α
  | [] => (s, [])
  | action :: rest =>
    let (next, notes) := s.step r p action
    let (last, later) := next.run r p rest
    (last, stamped s.now notes ++ later)

namespace Note

def stored? : Note α → Option α
  | stored _ value => some value
  | _ => none

/-- The outcome with which a refresh ended, as its callers see it. -/
def outcome? (refresh : Nat) : Note α → Option Outcome
  | stored id _ => if id = refresh then some (.ok ()) else none
  | refreshFailed id e _ => if id = refresh then some (.error e) else none
  | refreshPanicked id payload _ => if id = refresh then some (panickedOutcome payload) else none
  | _ => none

def joined? (caller : Nat) : Note α → Option Nat
  | joined c id => if c = caller then some id else none
  | _ => none

def asks (caller : Nat) : Note α → Bool
  | asked c => c == caller
  | _ => false

end Note

/-- What the latest note that says something says. -/
def latest (f : Instant × Note α → Option β) (h : History α) : Option β := h.reverse.findSome? f

/-- The value of the latest refresh that succeeded, with the moment at which it did. -/
def lastSuccess (h : History α) : Option (Entry α) :=
  latest (fun x => x.2.stored?.map fun value => ⟨value, x.1⟩) h

def outcomeOf (refresh : Nat) (h : History α) : Option Outcome := latest (·.2.outcome? refresh) h

/-- The refresh that a caller joined when it last had to wait. -/
def joinedBy (caller : Nat) (h : History α) : Option Nat := latest (·.2.joined? caller) h

def askedAt (caller : Nat) (h : History α) : Option Instant :=
  latest (fun x => if x.2.asks caller then some x.1 else none) h

def Started (refresh : Nat) (h : History α) : Prop := ∃ t, (t, .refreshStarted refresh) ∈ h

/-- A refresh was started, and has neither come to an outcome nor panicked. -/
def Underway (refresh : Nat) (h : History α) : Prop :=
  Started refresh h ∧ outcomeOf refresh h = none

def SucceededAt (t : Instant) (h : History α) : Prop := ∃ id value, (t, .stored id value) ∈ h

section

variable {f : Instant × Note α → Option β} {h h' : History α}

@[simp] theorem latest_nil : latest f ([] : History α) = none := rfl

@[simp] theorem latest_append : latest f (h ++ h') = (latest f h').or (latest f h) := by
  simp [latest, List.findSome?_append]

@[simp] theorem latest_cons (x : Instant × Note α) :
    latest f (x :: h) = (latest f h).or (f x) := by
  cases hx : f x <;> simp [latest, List.findSome?_append, hx]

theorem latest_eq_none_iff : latest f h = none ↔ ∀ x ∈ h, f x = none := by
  simp [latest]

theorem exists_of_latest {b : β} (hb : latest f h = some b) : ∃ x ∈ h, f x = some b := by
  simpa [latest] using List.exists_of_findSome?_eq_some hb

end

section

variable {now t : Instant} {notes : List (Note α)} {h : History α}

@[simp] theorem stamped_nil : stamped now ([] : List (Note α)) = [] := rfl

@[simp] theorem stamped_cons (n : Note α) :
    stamped now (n :: notes) = (now, n) :: stamped now notes := rfl

@[simp] theorem stamped_append (more : List (Note α)) :
    stamped now (notes ++ more) = stamped now notes ++ stamped now more := List.map_append

@[simp] theorem mem_stamped {n : Note α} : (t, n) ∈ stamped now notes ↔ t = now ∧ n ∈ notes := by
  simp only [stamped, List.mem_map, Prod.mk.injEq]
  constructor
  · rintro ⟨m, hm, rfl, rfl⟩
    exact ⟨rfl, hm⟩
  · rintro ⟨rfl, hn⟩
    exact ⟨n, hn, rfl, rfl⟩

/-- Notes that say nothing leave the latest word as it was. -/
theorem latest_stamped {f : Instant × Note α → Option β} (hf : ∀ n ∈ notes, f (now, n) = none) :
    latest f (stamped now notes) = none := by
  rw [latest_eq_none_iff]
  rintro ⟨t, n⟩ hx
  obtain ⟨rfl, hn⟩ := mem_stamped.1 hx
  exact hf n hn

theorem started_append {h' : History α} {refresh : Nat} :
    Started refresh (h ++ h') ↔ Started refresh h ∨ Started refresh h' := by
  simp [Started, exists_or]

theorem started_stamped {refresh : Nat} :
    Started refresh (stamped now notes) ↔ .refreshStarted refresh ∈ notes := by
  simp [Started]

end

end CameraTelemetry.Cache
