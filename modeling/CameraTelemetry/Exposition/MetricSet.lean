import CameraTelemetry.Journal.Event
import CameraTelemetry.Number.Binary64

/-!
# Metric families

A set of metrics keeps its families in the order in which they were first named. The first sample of
a name fixes the kind and the help text of its family; a later sample of the other kind is dropped
with a warning.
-/
namespace CameraTelemetry.Exposition

open Journal Number

inductive Kind
  /-- Only ever increases. -/
  | counter
  /-- Can go up and down. -/
  | gauge
deriving DecidableEq, Repr

def Kind.name : Kind → String
  | counter => "counter"
  | gauge => "gauge"

/-- Labels with their values, in the order in which they were given. -/
abbrev Labels := List (String × String)

/-- One value, offered under the name of its family. -/
structure Observation where
  name : String
  help : String
  kind : Kind
  labels : Labels
  value : Binary64
deriving DecidableEq

namespace Observation

def gauge (name help : String) (labels : Labels) (value : Binary64) : Observation :=
  ⟨name, help, .gauge, labels, value⟩

/-- A count is kept as the nearest number in double precision. -/
def counter (name help : String) (labels : Labels) (value : UInt64) : Observation :=
  ⟨name, help, .counter, labels, .ofNat value.toNat⟩

end Observation

structure Sample where
  labels : Labels
  value : Binary64
deriving DecidableEq

structure Family where
  name : String
  help : String
  kind : Kind
  samples : List Sample
deriving DecidableEq

structure MetricSet where
  families : List Family
deriving DecidableEq

def target : String := "camwatch_agent::exposition"

def droppedEvent (metric reason : String) : Event :=
  ⟨.warn, target, "dropping sample: " ++ reason, [("metric", .bare metric)]⟩

namespace MetricSet

def empty : MetricSet := ⟨[]⟩

def get? (m : MetricSet) (name : String) : Option Family :=
  m.families.find? fun f => f.name == name

def addTo (name : String) (sample : Sample) : List Family → List Family
  | [] => []
  | f :: rest =>
    if f.name == name then { f with samples := f.samples ++ [sample] } :: rest
    else f :: addTo name sample rest

def add (m : MetricSet) (o : Observation) : MetricSet × List Event :=
  match m.get? o.name with
  | none => (⟨m.families ++ [⟨o.name, o.help, o.kind, [⟨o.labels, o.value⟩]⟩]⟩, [])
  | some f =>
    if f.kind = o.kind then (⟨addTo o.name ⟨o.labels, o.value⟩ m.families⟩, [])
    else (m, [droppedEvent o.name ("registered as " ++ f.kind.name)])

def addAll (m : MetricSet) : List Observation → MetricSet × List Event
  | [] => (m, [])
  | o :: rest =>
    let (next, events) := m.add o
    let (last, more) := next.addAll rest
    (last, events ++ more)

end MetricSet

end CameraTelemetry.Exposition
