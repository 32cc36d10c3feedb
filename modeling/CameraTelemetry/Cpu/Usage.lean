import CameraTelemetry.Cpu.Ticks
import CameraTelemetry.Number.Binary64

/-!
# Processor usage

Usage is defined between two samples of the tick counters only: the busy share of the ticks that
passed. Where there is no such share the reason is kept, never a nought in its place.
-/
namespace CameraTelemetry.Cpu

open Number

inductive UnknownReason
  /-- There is no earlier sample. -/
  | firstSample
  /-- A counter went backwards. -/
  | counterReset
  /-- No counter advanced. -/
  | noProgress
  /-- The counters could not be read. -/
  | sourceUnavailable
deriving DecidableEq, Repr

def UnknownReason.name : UnknownReason → String
  | firstSample => "first_sample"
  | counterReset => "counter_reset"
  | noProgress => "no_progress"
  | sourceUnavailable => "source_unavailable"

inductive Usage
  | percent (share : Binary64)
  | unknown (reason : UnknownReason)
deriving DecidableEq

def Usage.percent? : Usage → Option Binary64
  | percent share => some share
  | unknown _ => none

/-- By how much each counter advanced, unless one went backwards. -/
def increases? : List UInt64 → List UInt64 → Option (List Nat)
  | p :: ps, c :: cs =>
    if c.toNat < p.toNat then none
    else (increases? ps cs).map ((c.toNat - p.toNat) :: ·)
  | _, _ => some []

def busyPercent (busy total : Nat) : Binary64 :=
  Binary64.clamp 0 100 (Binary64.ofNat busy * 100 / Binary64.ofNat total)

/-- The usage between two samples. Sums stay at the largest count. -/
def usageBetween (prev curr : Ticks) : Usage :=
  match increases? prev.toList curr.toList with
  | none => .unknown .counterReset
  | some deltas =>
    let total := deltas.foldl addCount 0
    if total = 0 then .unknown .noProgress
    else .percent (busyPercent (total - (curr.idleTicks - prev.idleTicks)) total)

/-- Holds the sample that the next one is compared with. -/
structure Tracker where
  previous : Option Ticks
deriving DecidableEq, Repr

namespace Tracker

def empty : Tracker := ⟨none⟩

def usage (t : Tracker) (current : Ticks) : Usage :=
  match t.previous with
  | none => .unknown .firstSample
  | some prev => usageBetween prev current

def observe (t : Tracker) (current : Ticks) : Usage × Tracker :=
  (t.usage current, ⟨some current⟩)

end Tracker

end CameraTelemetry.Cpu
