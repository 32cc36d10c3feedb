import CameraTelemetry.Text.Utf8

/-!
# Form-encoded queries

The query of a request is a list of names with values, parted by ampersands. A plus sign stands for
a space, and a percent sign with two hexadecimal digits for a byte. What is not UTF-8 after that is
replaced as in any text.
-/
namespace CameraTelemetry.Http

def hexDigit? (b : UInt8) : Option UInt8 :=
  if 0x30 ≤ b ∧ b ≤ 0x39 then some (b - 0x30)
  else if 0x61 ≤ b ∧ b ≤ 0x66 then some (b - 0x61 + 10)
  else if 0x41 ≤ b ∧ b ≤ 0x46 then some (b - 0x41 + 10)
  else none

def percent : UInt8 := 0x25

def percentDecode : List UInt8 → List UInt8
  | [] => []
  | b :: hi :: lo :: rest =>
    if b = percent then
      match hexDigit? hi, hexDigit? lo with
      | some h, some l => (h * 16 + l) :: percentDecode rest
      | _, _ => b :: percentDecode (hi :: lo :: rest)
    else b :: percentDecode (hi :: lo :: rest)
  | b :: rest => b :: percentDecode rest

/-- A name or a value as it was before it was encoded. -/
def decodePart (part : List Char) : String :=
  let spaced := part.map fun c => if c = '+' then ' ' else c
  Text.decodeLossy (percentDecode (String.ofList spaced).toUTF8.toList)

def splitAt (separator : Char) : List Char → List (List Char)
  | [] => [[]]
  | c :: rest =>
    if c = separator then [] :: splitAt separator rest
    else match splitAt separator rest with
      | [] => [[c]]
      | first :: others => (c :: first) :: others

/-- The names and values of a query, in order. A value that is missing is empty. -/
def parseForm (query : String) : List (String × String) :=
  ((splitAt '&' query.toList).filter (!·.isEmpty)).map fun part =>
    (decodePart (part.takeWhile (· ≠ '=')), decodePart ((part.dropWhile (· ≠ '=')).drop 1))

end CameraTelemetry.Http
