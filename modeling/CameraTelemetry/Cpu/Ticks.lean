import CameraTelemetry.Failure
import CameraTelemetry.Files
import CameraTelemetry.Number.Count
import CameraTelemetry.Text.Words

/-!
# Processor tick counters

The aggregate line of the kernel's tick counters: the word `cpu` and at least seven counts, of which
the first eight are read. Older kernels have no eighth, which then counts as nought.
-/
namespace CameraTelemetry.Cpu

open Number Text

/-- The counters of the aggregate line. -/
structure Ticks where
  user : UInt64
  nice : UInt64
  system : UInt64
  idle : UInt64
  iowait : UInt64
  irq : UInt64
  softirq : UInt64
  steal : UInt64
deriving DecidableEq, Repr

namespace Ticks

def toList (t : Ticks) : List UInt64 :=
  [t.user, t.nice, t.system, t.idle, t.iowait, t.irq, t.softirq, t.steal]

def ofList (counts : List UInt64) : Ticks :=
  let field (i : Nat) := counts.getD i 0
  ⟨field 0, field 1, field 2, field 3, field 4, field 5, field 6, field 7⟩

/-- Ticks spent idle or waiting for devices, at most the largest count. -/
def idleTicks (t : Ticks) : Nat := addCount t.idle.toNat t.iowait.toNat

end Ticks

/-- Why a line is not the aggregate line. -/
inductive StatLineError
  | notAggregate (found : Option String)
  | badField (index : Nat) (text : String) (cause : CountError)
  | tooFewFields (found : Nat)
deriving DecidableEq, Repr

def StatLineError.message : StatLineError → String
  | notAggregate found => "expected aggregate cpu line, found " ++ quotedOption found
  | badField index text cause =>
    "tick field " ++ toString index ++ " " ++ quoted text ++ ": " ++ cause.message
  | tooFewFields found => "expected at least 7 tick fields, found " ++ toString found

/-- Reads the words that follow `index` earlier fields. -/
def readFields (index : Nat) : List String → Except StatLineError (List UInt64)
  | [] => .ok []
  | word :: rest =>
    match readCount maxCount word.toList with
    | .error e => .error (.badField index word e)
    | .ok n => (readFields (index + 1) rest).map (UInt64.ofNat n :: ·)

def Ticks.ofLine (line : String) : Except StatLineError Ticks :=
  match wordsOf line with
  | "cpu" :: fields =>
    match readFields 0 (fields.take 8) with
    | .error e => .error e
    | .ok counts =>
      if counts.length < 7 then .error (.tooFewFields counts.length) else .ok (.ofList counts)
  | other => .error (.notAggregate other.head?)

def firstLine? (text : String) : Option String :=
  if text.isEmpty then none else some (String.ofList (text.toList.takeWhile (· ≠ '\n')))

def Ticks.ofFile (path : String) : FileText → Except SourceFailure Ticks
  | .error fault => .error (.unavailable .cpu path fault.message)
  | .ok text =>
    match firstLine? text with
    | none => .error (.malformed .cpu "empty stat file")
    | some line => (Ticks.ofLine line).mapError fun e => .malformed .cpu e.message

end CameraTelemetry.Cpu
