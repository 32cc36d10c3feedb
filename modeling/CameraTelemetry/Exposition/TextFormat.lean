import CameraTelemetry.Exposition.MetricSet
import CameraTelemetry.Number.Layout

/-!
# The text exposition format

A metric set is written family by family, sorted by name; the samples of a family are sorted by
their label values. The labels of the first sample of a family are its labels, and a sample with
others is dropped with a warning. Samples of a family are told apart by their label values written
one after the other: of gauges that agree in this the last counts, and counters are added up.
-/
namespace CameraTelemetry.Exposition

open Journal Number

def contentType : String := "text/plain; version=0.0.4; charset=utf-8"

inductive RenderError
  | emptyHelp
  | invalidMetricName (name : String)
  | invalidLabelName (name : String)
  | duplicateLabelName (name : String)
deriving DecidableEq, Repr

def RenderError.message : RenderError → String
  | emptyHelp => "Error: empty help string"
  | invalidMetricName name => "Error: '" ++ name ++ "' is not a valid metric name"
  | invalidLabelName name => "Error: '" ++ name ++ "' is not a valid label name"
  | duplicateLabelName name => "Error: duplicate variable label name " ++ name

def isNameStart (c : Char) : Bool := c.isAlpha || c == '_'

def isMetricName (name : String) : Bool :=
  match name.toList with
  | [] => false
  | c :: rest =>
    (isNameStart c || c == ':') && rest.all fun c => isNameStart c || c == ':' || c.isDigit

def isLabelName (name : String) : Bool :=
  match name.toList with
  | [] => false
  | c :: rest => isNameStart c && rest.all fun c => isNameStart c || c.isDigit

/-- Checks label names one after the other, each against those before it. -/
def checkLabelNames : List String → List String → Except RenderError Unit
  | _, [] => .ok ()
  | seen, name :: rest =>
    if !isLabelName name then .error (.invalidLabelName name)
    else if seen.contains name then .error (.duplicateLabelName name)
    else checkLabelNames (name :: seen) rest

namespace Family

def labelNames (f : Family) : List String :=
  (f.samples.head?.map fun s => s.labels.map Prod.fst).getD []

def check (f : Family) : Except RenderError Unit :=
  if f.help.isEmpty then .error .emptyHelp
  else if !isMetricName f.name then .error (.invalidMetricName f.name)
  else checkLabelNames [] f.labelNames

/-- The sample has the labels of the family, in its order. -/
def accepts (f : Family) (s : Sample) : Bool := s.labels.map Prod.fst == f.labelNames

def mislabelled (f : Family) : List Event :=
  (f.samples.filter (!f.accepts ·)).map fun _ =>
    droppedEvent f.name "label names differ from the family"

end Family

/-- What tells samples of a family apart. -/
def sampleKey (labels : Labels) : String := labels.foldl (fun key (_, value) => key ++ value) ""

/-- A row of output. A counter adds up in whole numbers of sixty-four bits and is shown as the
nearest number in double precision. -/
structure Row where
  labels : Labels
  count : Nat
  value : Binary64
deriving DecidableEq

def Row.add (kind : Kind) (s : Sample) (r : Row) : Row :=
  match kind with
  | .gauge => { r with value := s.value }
  | .counter =>
    let count := (r.count + s.value.toCount) % 2 ^ 64
    { r with count, value := .ofNat count }

/-- Takes a sample into the rows: into the row of its key, or into a new one. -/
def addRow (kind : Kind) (s : Sample) : List Row → List Row
  | [] => [Row.add kind s ⟨s.labels, 0, 0⟩]
  | r :: rest =>
    if sampleKey r.labels == sampleKey s.labels then r.add kind s :: rest
    else r :: addRow kind s rest

def Family.rows (f : Family) : List Row :=
  (f.samples.filter f.accepts).foldl (fun rows s => addRow f.kind s rows) []

def sortLabels (labels : Labels) : Labels :=
  labels.mergeSort fun a b => decide (a.1 ≤ b.1)

/-- The order of rows: by the first label value in which they differ. -/
def valuesLe : List String → List String → Bool
  | [], _ => true
  | _ :: _, [] => false
  | a :: as, b :: bs => if a = b then valuesLe as bs else a < b

def sortRows (rows : List Row) : List Row :=
  (rows.map fun r => { r with labels := sortLabels r.labels }).mergeSort fun a b =>
    valuesLe (a.labels.map Prod.snd) (b.labels.map Prod.snd)

def escapeHelp (s : String) : String :=
  s.foldl (fun done c =>
    done ++ (if c = '\\' then "\\\\" else if c = '\n' then "\\n" else c.toString)) ""

def escapeValue (s : String) : String :=
  s.foldl (fun done c =>
    done ++ (if c = '\\' then "\\\\" else if c = '\n' then "\\n"
      else if c = '"' then "\\\"" else c.toString)) ""

def labelsText (labels : Labels) : String :=
  if labels.isEmpty then ""
  else "\x7b" ++ ",".intercalate (labels.map fun (name, value) =>
    name ++ "=\"" ++ escapeValue value ++ "\"") ++ "\x7d"

def Row.line (name : String) (r : Row) : String :=
  name ++ labelsText r.labels ++ " " ++ r.value.plain ++ "\n"

def Family.text (f : Family) : String :=
  "# HELP " ++ f.name ++ " " ++ escapeHelp f.help ++ "\n"
    ++ "# TYPE " ++ f.name ++ " " ++ f.kind.name ++ "\n"
    ++ String.join ((sortRows f.rows).map (Row.line f.name))

def registerAll : List Family → Except RenderError Unit × List Event
  | [] => (.ok (), [])
  | f :: rest =>
    match f.check with
    | .error e => (.error e, [])
    | .ok () =>
      let (result, events) := registerAll rest
      (result, f.mislabelled ++ events)

def MetricSet.text (m : MetricSet) : String :=
  String.join ((m.families.mergeSort fun a b => decide (a.name ≤ b.name)).map Family.text)

/-- The text of a metric set, and the warnings about the samples that are not in it. -/
def MetricSet.render (m : MetricSet) : Except RenderError String × List Event :=
  match registerAll m.families with
  | (.error e, events) => (.error e, events)
  | (.ok (), events) => (.ok m.text, events)

end CameraTelemetry.Exposition
