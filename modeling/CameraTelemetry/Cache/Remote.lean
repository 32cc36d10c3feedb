import CameraTelemetry.Failure
import CameraTelemetry.Journal.Event

/-!
# Remote calls

What lies behind a cache: a fetch, and perhaps a hook that acquires the credentials anew. Both are
calls that take some time and end with a value, a failure or a panic; a call that outlasts its limit
is cut off. What a call will do is decided when it starts, from the state of the world behind it.
-/
namespace CameraTelemetry.Cache

open Journal

inductive Ending (α : Type)
  | value (a : α)
  | failed (e : FetchFailure)
  | panicked (payload : String)
deriving DecidableEq, Repr

/-- What a call does when it is left alone: the events it emits as it ends, and its ending. -/
structure Call (α : Type) where
  delay : Duration
  ending : Ending α
  events : List Event
deriving DecidableEq, Repr

inductive Bounded (α : Type)
  | ended (ending : Ending α) (events : List Event)
  | cutOff
deriving DecidableEq, Repr

namespace Call

/-- A call that ends exactly at the limit still ends by itself. -/
def bounded {α : Type} (limit : Duration) (c : Call α) : Bounded α :=
  if limit < c.delay then .cutOff else .ended c.ending c.events

def lasting {α : Type} (limit : Duration) (c : Call α) : Duration :=
  ⟨min c.delay.nanos limit.nanos⟩

end Call

/-- A source of values of type `α` in a world of type `ω`. -/
structure Remote (ω α : Type) where
  fetch : ω → Call α × ω
  hook : Option (ω → Call Unit × ω)

end CameraTelemetry.Cache
