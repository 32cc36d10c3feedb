import CameraTelemetry.Files
import CameraTelemetry.Host.Reading
import CameraTelemetry.Number.Decimal
import CameraTelemetry.Text.Words

/-!
# Counters in the kernel's files

The families of a host as the kernel shows them in text files. What the files do not say is a
failure of the family, and so is a count that cannot be true.
-/
namespace CameraTelemetry.Host

open Number Text

private def rows (text : String) : List (List String) := (text.splitOn "\n").map wordsOf

private def count? (word : String) : Option Nat := (readCount maxCount word.toList).toOption

private def real? (word : String) : Option Binary64 := readReal? word.toList

def readingOf {α : Type} (family : Family) (path reason : String) (find? : String → Option α) :
    FileText → Reading α
  | .error fault => .failed (.unavailable family path fault.message)
  | .ok text =>
    match find? text with
    | some a => .value a
    | none => .failed (.unavailable family path reason)

def uptimeIn? (text : String) : Option Binary64 :=
  match wordsOf text with
  | word :: _ => (count? (String.ofList (word.toList.takeWhile (· ≠ '.')))).bind fun n =>
    if n = 0 then none else some (.ofNat n)
  | [] => none

/-- A count of bytes from a row that gives it in kibibytes. -/
private def kibibytes? (name : String) (rows : List (List String)) : Option Nat :=
  rows.findSome? fun
    | found :: n :: _ => if found = name then (count? n).map (· * 1024) else none
    | _ => none

/-- What is available is at most all there is. -/
def memoryIn? (text : String) : Option Memory := do
  let total ← kibibytes? "MemTotal:" (rows text)
  let available ← kibibytes? "MemAvailable:" (rows text)
  if total = 0 then none else some ⟨.ofNat total, .ofNat (min available total)⟩

def loadIn? (text : String) : Option Load :=
  match wordsOf text with
  | one :: five :: fifteen :: _ => do
    let load : Load := ⟨← real? one, ← real? five, ← real? fifteen⟩
    if [load.one, load.five, load.fifteen].all fun x => x.isFinite && !(x < 0) then some load
      else none
  | _ => none

/-- An interface from its row, in which a colon follows the name. -/
def interfaceIn? (row : String) : Option Interface :=
  let name := String.ofList (trim (row.toList.takeWhile (· ≠ ':')))
  let counts := (wordsOf (String.ofList ((row.toList.dropWhile (· ≠ ':')).drop 1))).map count?
  match counts with
  | some rxBytes :: some rxPackets :: some rxErrors :: _ :: _ :: _ :: _ :: _
      :: some txBytes :: some txPackets :: some txErrors :: _ =>
    some ⟨name, .ofNat rxBytes, .ofNat rxPackets, .ofNat rxErrors, .ofNat txBytes, .ofNat txPackets,
      .ofNat txErrors⟩
  | _ => none

def interfacesIn? (text : String) : Option (List Interface) :=
  match (text.splitOn "\n").filterMap interfaceIn? with
  | [] => none
  | found => some (found.mergeSort fun a b => decide (a.name ≤ b.name))

end CameraTelemetry.Host
