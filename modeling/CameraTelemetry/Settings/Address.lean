import CameraTelemetry.Number.Decimal
import CameraTelemetry.Text.Quoted

/-!
# Internet addresses

Addresses of four octets, and of eight groups of sixteen bits. The written form of an octet has no
leading zeros. One double colon stands for a run of zero groups, and the last two groups may be
written as octets. An address is shown in its canonical form.
-/
namespace CameraTelemetry.Settings

open Number

inductive Address
  | v4 (bits : BitVec 32)
  | v6 (bits : BitVec 128)
deriving DecidableEq, Repr

namespace Address

private def fromBase (base : Nat) (digits : List Nat) : Nat :=
  digits.foldl (fun n d => n * base + d) 0

def ofOctets (octets : List Nat) : Address := .v4 (.ofNat 32 (fromBase 256 octets))

def ofGroups (groups : List Nat) : Address := .v6 (.ofNat 128 (fromBase 65536 groups))

def unspecified : Address := .v4 0

/-! ## Reading -/

private def hexValue? (c : Char) : Option Nat :=
  if c.isDigit then some (c.toNat - '0'.toNat)
  else if 'a' ≤ c ∧ c ≤ 'f' then some (c.toNat - 'a'.toNat + 10)
  else if 'A' ≤ c ∧ c ≤ 'F' then some (c.toNat - 'A'.toNat + 10)
  else none

private def isHex (c : Char) : Bool := (hexValue? c).isSome

/-- An octet at the front of a text: all digits that stand there. -/
private def readOctet? (cs : List Char) : Option (Nat × List Char) :=
  let digits := cs.takeWhile Char.isDigit
  if digits.isEmpty ∨ 3 < digits.length ∨ (digits.head? = some '0' ∧ 1 < digits.length)
    ∨ 255 < digitsValue digits then none
  else some (digitsValue digits, cs.dropWhile Char.isDigit)

/-- Octets at the front of a text, with a point before each of them but the first. -/
private def readOctets? : Nat → List Char → Option (List Nat × List Char)
  | 0, cs => some ([], cs)
  | n + 1, '.' :: cs => do
    let (octet, rest) ← readOctet? cs
    let (octets, rest) ← readOctets? n rest
    return (octet :: octets, rest)
  | _, _ => none

private def readV4? (cs : List Char) : Option (List Nat × List Char) := do
  let (octet, rest) ← readOctet? cs
  let (octets, rest) ← readOctets? 3 rest
  return (octet :: octets, rest)

/-- A group at the front of a text: all hexadecimal digits that stand there. -/
private def readGroup? (cs : List Char) : Option (Nat × List Char) :=
  let digits := cs.takeWhile isHex
  if digits.isEmpty ∨ 4 < digits.length then none
  else some (fromBase 16 (digits.filterMap hexValue?), cs.dropWhile isHex)

/-- As many groups as there are at the front of a text, up to a number, with a colon before each of
them but the first. Says whether the last two were written as octets. -/
private def readGroups : Nat → Bool → List Char → List Nat × Bool × List Char
  | 0, _, cs => ([], false, cs)
  | n + 1, first, cs =>
    let body? := if first then some cs else match cs with
      | ':' :: rest => some rest
      | _ => none
    match body? with
    | none => ([], false, cs)
    | some body =>
      match if n = 0 then none else readV4? body with
      | some (octets, rest) =>
        ([fromBase 256 (octets.take 2), fromBase 256 (octets.drop 2)], true, rest)
      | none =>
        match readGroup? body with
        | none => ([], false, cs)
        | some (group, rest) =>
          let (groups, octets, rest) := readGroups n false rest
          (group :: groups, octets, rest)

/-- Eight groups, some of them perhaps behind a double colon. -/
private def readV6? (cs : List Char) : Option (List Nat × List Char) :=
  match readGroups 8 true cs with
  | (head, octets, rest) =>
    if head.length = 8 then some (head, rest)
    else if octets then none
    else match rest with
      | ':' :: ':' :: rest =>
        let (tail, _, rest) := readGroups (7 - head.length) true rest
        some (head ++ List.replicate (8 - head.length - tail.length) 0 ++ tail, rest)
      | _ => none

def ofText? (cs : List Char) : Option Address :=
  match readV4? cs with
  | some (octets, []) => some (ofOctets octets)
  | some _ => none
  | none =>
    match readV6? cs with
    | some (groups, []) => some (ofGroups groups)
    | _ => none

/-! ## Showing -/

private def toBase (base : Nat) : Nat → Nat → List Nat
  | 0, _ => []
  | k + 1, n => toBase base k (n / base) ++ [n % base]

private def octetsText (n : Nat) : String :=
  ".".intercalate ((toBase 256 4 n).map toString)

private def groupsText (groups : List Nat) : String :=
  ":".intercalate (groups.map Text.hexDigits)

private def leadingZeros (groups : List Nat) : Nat := (groups.takeWhile (· == 0)).length

/-- The place and length of the longest run of zeros, the first of several. -/
private def longestZeros (groups : List Nat) : Nat × Nat :=
  (List.range groups.length).foldl
    (fun (start, length) i =>
      let here := leadingZeros (groups.drop i)
      if length < here then (i, here) else (start, length)) (0, 0)

private def v6Text (groups : List Nat) : String :=
  if groups.take 6 = [0, 0, 0, 0, 0, 0xffff] then
    "::ffff:" ++ octetsText (fromBase 65536 (groups.drop 6))
  else
    let (start, length) := longestZeros groups
    if length < 2 then groupsText groups
    else groupsText (groups.take start) ++ "::" ++ groupsText (groups.drop (start + length))

def text : Address → String
  | v4 bits => octetsText bits.toNat
  | v6 bits => v6Text (toBase 65536 8 bits.toNat)

def withPort (a : Address) (port : UInt16) : String :=
  match a with
  | v4 _ => a.text ++ ":" ++ toString port.toNat
  | v6 _ => "[" ++ a.text ++ "]:" ++ toString port.toNat

end Address

end CameraTelemetry.Settings
