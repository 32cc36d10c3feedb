import CameraTelemetry.Journal.Event
import CameraTelemetry.Json.Value

/-!
# The ring of recent events

A bounded list of log entries, oldest first. A new entry pushes the oldest out once the ring is
full; a ring without room keeps nothing.
-/
namespace CameraTelemetry.Journal

/-- Drops the oldest for as long as there is no room for one more. -/
def makeRoom {α : Type} (capacity : Nat) : List α → List α
  | [] => []
  | x :: rest => if capacity ≤ rest.length + 1 then makeRoom capacity rest else x :: rest

/-- Appends an element once there is room for it. -/
def pushCapped {α : Type} (capacity : Nat) (xs : List α) (x : α) : List α :=
  if capacity = 0 then xs else makeRoom capacity xs ++ [x]

structure Entry where
  timestamp : String
  severity : String
  target : String
  message : String
deriving DecidableEq, Repr

def Entry.toJson (e : Entry) : Json.Value :=
  .object [("timestamp", .string e.timestamp), ("severity", .string e.severity),
    ("target", .string e.target), ("message", .string e.message)]

def Event.entry (timestamp : String) (e : Event) : Entry :=
  ⟨timestamp, e.level.severity, e.target, e.line⟩

structure Ring where
  capacity : Nat
  entries : List Entry
deriving DecidableEq, Repr

namespace Ring

/-- How many entries the agent keeps, and how many it shows unless asked otherwise. -/
def defaultCapacity : Nat := 100

def empty (capacity : Nat) : Ring := ⟨capacity, []⟩

def push (r : Ring) (e : Entry) : Ring :=
  { r with entries := pushCapped r.capacity r.entries e }

def recent (r : Ring) (limit : Nat) : List Entry :=
  r.entries.drop (r.entries.length - limit)

def size (r : Ring) : Nat := r.entries.length

def record (limit : Level) (timestamp : String) (r : Ring) (e : Event) : Ring :=
  if limit.passes e.level then r.push (e.entry timestamp) else r

def recordAll (limit : Level) (timestamp : String) (r : Ring) (events : List Event) : Ring :=
  events.foldl (record limit timestamp) r

end Ring

end CameraTelemetry.Journal
