import CameraTelemetry.Cpu.Ticks
import CameraTelemetry.Number.Binary64

/-!
# Readings of the host

What each family of host counters answers when it is read: a reading, a failure of that family, or a
panic that ends the task that reads.
-/
namespace CameraTelemetry.Host

open Number

structure Memory where
  total : UInt64
  available : UInt64
deriving DecidableEq, Repr

/-- The load averages over one, five and fifteen minutes. -/
structure Load where
  one : Binary64
  five : Binary64
  fifteen : Binary64
deriving DecidableEq

/-- What one network interface has counted since it came up. -/
structure Interface where
  name : String
  rxBytes : UInt64
  rxPackets : UInt64
  rxErrors : UInt64
  txBytes : UInt64
  txPackets : UInt64
  txErrors : UInt64
deriving DecidableEq, Repr

def Interface.isLoopback (i : Interface) : Bool := i.name == "lo"

structure Filesystem where
  mountPoint : String
  total : UInt64
  available : UInt64
deriving DecidableEq, Repr

/-- What reading one family comes to. -/
inductive Reading (α : Type)
  | value (a : α)
  | failed (e : SourceFailure)
  | panicked (payload : String)
deriving DecidableEq

/-- The result of a reading, if the reader survives it. -/
def Reading.result {α : Type} : Reading α → Except String (Except SourceFailure α)
  | .value a => .ok (.ok a)
  | .failed e => .ok (.error e)
  | .panicked payload => .error payload

def Reading.value? {α : Type} : Reading α → Option α
  | .value a => some a
  | _ => none

theorem Reading.value?_eq_some_iff {α : Type} {x : Reading α} {a : α} :
    x.value? = some a ↔ x = .value a := by
  cases x <;> simp [value?]

theorem Reading.value?_eq_none_iff {α : Type} {x : Reading α} :
    x.value? = none ↔ ∀ a, x ≠ .value a := by
  cases x <;> simp [value?]

def Reading.panics {α : Type} : Reading α → Bool
  | .panicked _ => true
  | _ => false

theorem Reading.panics_eq_result {α : Type} (x : Reading α) : x.panics = !x.result.isOk := by
  cases x <;> rfl

/-- What the families of a host would answer at one moment. -/
structure Readings where
  uptime : Reading Binary64
  memory : Reading Memory
  load : Reading Load
  cpu : Reading Cpu.Ticks
  network : Reading (List Interface)
  filesystem : Reading Filesystem
  processes : Reading UInt64
deriving DecidableEq

namespace Readings

def othersPanic (r : Readings) : Bool :=
  r.uptime.panics || r.memory.panics || r.load.panics || r.network.panics || r.filesystem.panics
    || r.processes.panics

def panics (r : Readings) : Bool := r.cpu.panics || r.othersPanic

end Readings

end CameraTelemetry.Host
