import CameraTelemetry.Journal.Event

/-!
# Filters of events

A filter is a list of directives, each of which sets a limit for the targets that begin with a text.
The directive with the longest such text decides on an event, and of several with the same text the
last. An event that no directive is about does not get through.
-/
namespace CameraTelemetry.Journal

/-- A limit for some targets. Without a limit nothing gets through. -/
structure Directive where
  target : String
  limit : Option Level
deriving DecidableEq, Repr

abbrev Filter := List Directive

def limitOf? (s : String) : Option (Option Level) :=
  match String.ofList (s.toList.map Char.toLower) with
  | "off" | "0" => some none
  | "error" | "1" => some (some .error)
  | "warn" | "2" => some (some .warn)
  | "info" | "3" => some (some .info)
  | "debug" | "4" => some (some .debug)
  | "trace" | "5" => some (some .trace)
  | _ => none

private def isTargetChar (c : Char) : Bool := c.isAlphanum || c == '_' || c == ':' || c == '-'

/-- Reads a limit for all targets, a target that is not limited, or a target with its limit. -/
def Directive.ofText? (s : String) : Option Directive :=
  match limitOf? s with
  | some limit => some ⟨"", limit⟩
  | none =>
    let target := s.toList.takeWhile (· ≠ '=')
    let limit := String.ofList ((s.toList.dropWhile (· ≠ '=')).drop 1)
    if target.isEmpty || !target.all isTargetChar then none
    else if limit.isEmpty then some ⟨String.ofList target, some .trace⟩
    else (limitOf? limit).map fun limit => ⟨String.ofList target, limit⟩

namespace Filter

def upTo (limit : Level) : Filter := [⟨"", some limit⟩]

/-- Reads directives between commas. Without any, only errors get through. -/
def ofText? (s : String) : Option Filter :=
  if s.isEmpty then some (upTo .error) else (s.splitOn ",").mapM Directive.ofText?

/-- The filter of a setting that may be missing or wrong. -/
def ofSetting (s : Option String) : Filter := (s.bind ofText?).getD (upTo .info)

/-- The directive that decides on a target. -/
def decisive? (f : Filter) (target : String) : Option Directive :=
  f.foldl (fun best d =>
    if d.target.isPrefixOf target ∧ best.all (·.target.length ≤ d.target.length) then some d
    else best) none

def passes (f : Filter) (e : Event) : Bool :=
  ((f.decisive? e.target).bind (·.limit)).any fun limit => limit.passes e.level

end Filter

end CameraTelemetry.Journal
