import CameraTelemetry.Number.Power

/-!
# Bytes as text

Bytes that are meant to be UTF-8 but may not be. A longest run of bytes that begins a character and
cannot be completed is read as one replacement character, and so is a byte that begins none.
-/
namespace CameraTelemetry.Text

def replacement : Char := Char.ofNat 0xfffd

private def isContinuation (b : UInt8) : Bool := 0x80 ≤ b && b ≤ 0xbf

/-- How many more bytes follow a first byte, and the range of the first of them. -/
private def leadInfo? (b : UInt8) : Option (Nat × UInt8 × UInt8) :=
  if 0xc2 ≤ b && b ≤ 0xdf then some (1, 0x80, 0xbf)
  else if b == 0xe0 then some (2, 0xa0, 0xbf)
  else if b == 0xed then some (2, 0x80, 0x9f)
  else if 0xe1 ≤ b && b ≤ 0xef then some (2, 0x80, 0xbf)
  else if b == 0xf0 then some (3, 0x90, 0xbf)
  else if 0xf1 ≤ b && b ≤ 0xf3 then some (3, 0x80, 0xbf)
  else if b == 0xf4 then some (3, 0x80, 0x8f)
  else none

private def leadBits (b : UInt8) (more : Nat) : Nat :=
  b.toNat % 2 ^ (6 - more)

/-- The character under way: its bits so far, how many bytes it lacks, and the range of the next. -/
private structure Pending where
  bits : Nat
  missing : Nat
  low : UInt8
  high : UInt8

private def beginChar (b : UInt8) : List Char × Option Pending :=
  if b < 0x80 then ([Char.ofNat b.toNat], none)
  else match leadInfo? b with
    | some (more, low, high) => ([], some ⟨leadBits b more, more, low, high⟩)
    | none => ([replacement], none)

/-- Reads one byte: the characters it completes, and the one that is then under way. -/
private def takeByte (pending : Option Pending) (b : UInt8) : List Char × Option Pending :=
  match pending with
  | none => beginChar b
  | some p =>
    if p.low ≤ b && b ≤ p.high && isContinuation b then
      let bits := p.bits * 64 + b.toNat % 64
      if p.missing = 1 then ([Char.ofNat bits], none)
        else ([], some ⟨bits, p.missing - 1, 0x80, 0xbf⟩)
    else
      let (chars, next) := beginChar b
      (replacement :: chars, next)

private def decodeFrom (pending : Option Pending) : List UInt8 → List Char
  | [] => if pending.isSome then [replacement] else []
  | b :: rest =>
    let (chars, next) := takeByte pending b
    chars ++ decodeFrom next rest

def decodeLossy (bytes : List UInt8) : String := String.ofList (decodeFrom none bytes)

end CameraTelemetry.Text
