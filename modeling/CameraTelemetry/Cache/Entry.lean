import CameraTelemetry.Failure

/-!
# Cache entries

A cached value is fresh until its time to live has passed since it was captured. A refresh that
fails leaves the entry as it was; whoever asked then gets the older value, marked stale.
-/
namespace CameraTelemetry.Cache

/-- A value with the moment at which it was captured. -/
structure Entry (α : Type) where
  value : α
  capturedAt : Instant
deriving DecidableEq, Repr

inductive State
  | empty
  | fresh
  | stale
deriving DecidableEq, Repr

def State.name : State → String
  | empty => "empty"
  | fresh => "fresh"
  | stale => "stale"

/-- The state of an entry at a moment. The moment at which the time to live is over counts as past.
-/
def classify {α : Type} (entry : Option (Entry α)) (now : Instant) (ttl : Duration) : State :=
  match entry with
  | none => .empty
  | some e => if Duration.since e.capturedAt now < ttl then .fresh else .stale

theorem classify_some_eq_fresh_iff {α : Type} (e : Entry α) (now : Instant) (ttl : Duration) :
    classify (some e) now ttl = .fresh ↔ now - e.capturedAt < ttl.nanos := by
  have age : Duration.since e.capturedAt now < ttl ↔ now - e.capturedAt < ttl.nanos := Iff.rfl
  by_cases young : Duration.since e.capturedAt now < ttl
  · simp only [classify, if_pos young, age.1 young]
  · simp only [classify, if_neg young, reduceCtorEq, false_iff]
    exact fun old => young (age.2 old)

/-- The outcome of a refresh as its callers see it, without the value. -/
abbrev Outcome := Except FetchFailure Unit

def applyRefresh {α : Type} (entry : Option (Entry α)) (outcome : Except FetchFailure α)
    (now : Instant) : Option (Entry α) × Outcome :=
  match outcome with
  | .ok value => (some ⟨value, now⟩, .ok ())
  | .error e => (entry, .error e)

/-- What a caller gets: the value, whether it comes from before a failed refresh, and its age. -/
structure Lookup (α : Type) where
  value : α
  stale : Bool
  age : Duration
deriving DecidableEq, Repr

def Entry.lookup {α : Type} (e : Entry α) (now : Instant) (stale : Bool) : Lookup α :=
  ⟨e.value, stale, .since e.capturedAt now⟩

/-- What the caller of a refresh gets from its outcome and the entry at hand. -/
def resolve {α : Type} (metric : String) (entry : Option (Entry α)) (outcome : Outcome)
    (now : Instant) : Except NoData (Lookup α) :=
  match entry, outcome with
  | some e, .ok () => .ok (e.lookup now false)
  | some e, .error _ => .ok (e.lookup now true)
  | none, .error cause => .error ⟨metric, cause⟩
  | none, .ok () => .error ⟨metric, .malformed "refresh reported success without a value"⟩

end CameraTelemetry.Cache
