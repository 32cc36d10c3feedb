import CameraTelemetry.Journal.Ring
import Mathlib.Data.List.DropRight

/-!
# What the ring keeps

Making room and appending leaves the newest elements, as many as fit. A ring therefore holds the
newest of the events that got through its filter at any time, and shows the newest of them, oldest
first.
-/
namespace CameraTelemetry.Journal

section

variable {α : Type} {capacity : Nat}

end

namespace Ring

/-- Events with the times at which they are emitted. -/
abbrev Emitted := List (String × Event)

def after (capacity : Nat) (limit : Level) (emitted : Emitted) : Ring :=
  emitted.foldl (fun r (time, e) => r.record limit time e) (empty capacity)

def passing (limit : Level) (emitted : Emitted) : Emitted :=
  emitted.filter fun (_, e) => e.level.verbosity ≤ limit.verbosity

def kept (emitted : String × Event) : Entry :=
  ⟨emitted.1, emitted.2.level.severity, emitted.2.target, emitted.2.line⟩

section

variable {capacity : Nat} {limit : Level} {emitted : Emitted}

end

end Ring

end CameraTelemetry.Journal
