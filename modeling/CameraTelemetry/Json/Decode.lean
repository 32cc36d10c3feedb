import CameraTelemetry.Json.Tree
import CameraTelemetry.Number.Layout
import CameraTelemetry.Text.Quoted

/-!
# Taking trees apart

Decoders take a tree apart from left to right and stop at the first fault: a break of the text, a
value of another kind than expected, or a field that is missing or given twice. A structure is read
from an object, whose unknown members are skipped, or from an array of its fields in order.
-/
namespace CameraTelemetry.Json

open Number

/-- Why a text has no meaning for a reader. -/
inductive Fault
  | broken (b : Break)
  | wrongType (found expected : String)
  | wrongValue (found expected : String)
  | missingField (name : String)
  | duplicateField (name : String)
  | wrongLength (found : Nat) (structName : String) (fields : Nat)
  | unknownVariant (found : String) (expected : List String)
deriving DecidableEq, Repr

private def ticked (s : String) : String := "\x60" ++ s ++ "\x60"

structure Place where
  line : Nat
  column : Nat
deriving DecidableEq, Repr

/-- What the library for JSON adds of its own when it tells of the faults of texts for one reader:
how it describes a text that is not JSON, and the place where it met the fault, if it gives one. -/
structure Wording where
  broken : String → Break → String
  place? : String → Fault → Option Place

namespace Wording

/-- No places, and of a text that is not JSON no more than whether it ended too early. -/
def bare : Wording where
  broken := fun _ b =>
    match b with
    | .endOfText => "<eof>"
    | .grammar => "<syntax>"
  place? := fun _ _ => none

/-- The message without the place. -/
def describe (w : Wording) (text : String) : Fault → String
  | .broken b => w.broken text b
  | .wrongType found expected => "invalid type: " ++ found ++ ", expected " ++ expected
  | .wrongValue found expected => "invalid value: " ++ found ++ ", expected " ++ expected
  | .missingField name => "missing field " ++ ticked name
  | .duplicateField name => "duplicate field " ++ ticked name
  | .wrongLength found structName fields =>
    "invalid length " ++ toString found ++ ", expected struct " ++ structName ++ " with "
      ++ toString fields ++ (if fields = 1 then " element" else " elements")
  | .unknownVariant found expected =>
    "unknown variant " ++ ticked found ++ ", expected " ++ " or ".intercalate (expected.map ticked)

def message (w : Wording) (text : String) (fault : Fault) : String :=
  w.describe text fault ++
    match w.place? text fault with
    | some p => " at line " ++ toString p.line ++ " column " ++ toString p.column
    | none => ""

end Wording

/-- A fault and what is told of it. -/
structure Complaint where
  fault : Fault
  message : String
deriving DecidableEq, Repr

/-- The fault of a value that is not what a reader expects. A number or a text that cannot be had is
a break of the grammar instead. -/
def Tree.mismatch (expected : String) : Tree → Fault
  | .null => .wrongType "null" expected
  | .bool b => .wrongType ("boolean " ++ ticked (if b then "true" else "false")) expected
  | .number l =>
    match l.value? with
    | none => .broken .grammar
    | some (.whole n) => .wrongType ("integer " ++ ticked (toString n)) expected
    | some (.real x) => .wrongType ("floating point " ++ ticked (x.write .json)) expected
  | .string none => .broken .grammar
  | .string (some s) => .wrongType ("string " ++ Text.quoted s) expected
  | .array .. => .wrongType "sequence" expected
  | .object .. => .wrongType "map" expected
  | .broken b => .broken b.wanted

/-- How deep containers may be nested in a value that is kept. -/
def maxDepth : Nat := 127

mutual

/-- The first break met on the way through a value that nobody wants. -/
def Tree.skip : Tree → Option Break
  | .null | .bool _ | .number _ | .string _ => none
  | .broken b => some b.skipped
  | .array items broken => (skipItems items).or (broken.map (·.skipped))
  | .object members broken => (skipMembers members).or (broken.map (·.skipped))

def skipItems : List Tree → Option Break
  | [] => none
  | t :: rest => t.skip.or (skipItems rest)

def skipMembers : List (Option String × Tree) → Option Break
  | [] => none
  | (_, t) :: rest => t.skip.or (skipMembers rest)

end

mutual

/-- The first break met on the way through a value that is kept, at a depth of containers. -/
def Tree.keep (depth : Nat) : Tree → Option Break
  | .null | .bool _ => none
  | .number l => if l.value?.isSome then none else some .grammar
  | .string s => if s.isSome then none else some .grammar
  | .broken b => some b.wanted
  | .array items broken =>
    if maxDepth ≤ depth then some .grammar
    else (keepItems (depth + 1) items).or (broken.map (·.wanted))
  | .object members broken =>
    if maxDepth ≤ depth then some .grammar
    else (keepMembers (depth + 1) members).or (broken.map (·.wanted))

def keepItems (depth : Nat) : List Tree → Option Break
  | [] => none
  | t :: rest => (t.keep depth).or (keepItems depth rest)

def keepMembers (depth : Nat) : List (Option String × Tree) → Option Break
  | [] => none
  | (none, _) :: _ => some .grammar
  | (some _, t) :: rest => (t.keep depth).or (keepMembers depth rest)

end

abbrev Decoder (α : Type) := Tree → Except Fault α

def decodeString : Decoder String
  | .string (some s) => .ok s
  | t => .error (t.mismatch "a string")

def decodeReal : Decoder Binary64
  | .number l =>
    match l.value? with
    | some v => .ok v.toBinary64
    | none => .error (.broken .grammar)
  | t => .error (t.mismatch "f64")

def decodeOptional {α : Type} (decode : Decoder α) : Decoder (Option α)
  | .null => .ok none
  | t => (decode t).map some

def decodeItems {α : Type} (decode : Decoder α) (broken : Option BreakPoint) :
    List Tree → Except Fault (List α)
  | [] =>
    match broken with
    | some b => .error (.broken b.wanted)
    | none => .ok []
  | t :: rest =>
    match decode t with
    | .error e => .error e
    | .ok a => (decodeItems decode broken rest).map (a :: ·)

def decodeList {α : Type} (decode : Decoder α) : Decoder (List α)
  | .array items broken => decodeItems decode broken items
  | t => .error (t.mismatch "a sequence")

/-- The fields found in an object, with their values. -/
abbrev Found (α : Type) := List (String × α)

def Found.get? {α : Type} (found : Found α) (name : String) : Option α :=
  (found.find? fun entry => entry.1 == name).map Prod.snd

def Found.require {α : Type} (found : Found α) (name : String) : Except Fault α :=
  match found.get? name with
  | some a => .ok a
  | none => .error (.missingField name)

def decodeMembers {α : Type} (fields : List String) (decode : Decoder α)
    (broken : Option BreakPoint) :
    Found α → List (Option String × Tree) → Except Fault (Found α)
  | found, [] =>
    match broken with
    | some b => .error (.broken b.wanted)
    | none => .ok found
  | _, (none, _) :: _ => .error (.broken .grammar)
  | found, (some name, t) :: rest =>
    if fields.contains name then
      if (found.get? name).isSome then .error (.duplicateField name)
      else
        match decode t with
        | .error e => .error e
        | .ok a => decodeMembers fields decode broken (found ++ [(name, a)]) rest
    else
      match t.skip with
      | some b => .error (.broken b)
      | none => decodeMembers fields decode broken found rest

/-- The fields of a structure from the items of an array, one for one. -/
def decodePositions {α : Type} (structName : String) (total : Nat) (decode : Decoder α)
    (broken : Option BreakPoint) :
    List String → List Tree → Except Fault (Found α)
  | [], [] =>
    match broken with
    | some b => .error (.broken b.wanted)
    | none => .ok []
  | [], _ :: _ => .error (.broken .grammar)
  | names, [] =>
    match broken with
    | some b => .error (.broken b.wanted)
    | none => .error (.wrongLength (total - names.length) structName total)
  | name :: names, t :: rest =>
    match decode t with
    | .error e => .error e
    | .ok a => (decodePositions structName total decode broken names rest).map ((name, a) :: ·)

/-- A structure whose fields are all of one kind. -/
def decodeStruct {α : Type} (structName : String) (fields : List String) (decode : Decoder α) :
    Decoder (Found α)
  | .object members broken => decodeMembers fields decode broken [] members
  | .array items broken => decodePositions structName fields.length decode broken fields items
  | t => .error (t.mismatch ("struct " ++ structName))

def decodeText {α : Type} (decode : Decoder α) (text : String) : Except Fault α :=
  match readDocument text with
  | (t, trailing) =>
    match decode t with
    | .error e => .error e
    | .ok a =>
      match trailing with
      | some b => .error (.broken b)
      | none => .ok a

end CameraTelemetry.Json
