import CameraTelemetry.Json.StringLiteral
import CameraTelemetry.Number.Decimal

/-!
# Number literals of JSON

A literal without fraction and exponent that fits in sixty-four bits is a whole number. Any other
literal is a real: its leading digits are kept as long as they fit in sixty-four bits, the rest
only count for the power of ten, and that power is applied by rounded steps. A literal may be too
large to have a value; that matters only to those who ask for it.
-/
namespace CameraTelemetry.Json

open Number

structure NumberLiteral where
  negative : Bool
  whole : List Char
  fraction : List Char
  /-- The sign and the digits of the exponent. -/
  exponent : Option (Bool × List Char)
deriving DecidableEq, Repr

inductive NumberScan
  | literal (l : NumberLiteral) (rest : List Char)
  /-- The text ends inside the number. -/
  | cutOff
  | malformed

def scanExponent (l : NumberLiteral) : List Char → NumberScan
  | c :: rest =>
    if c = 'e' ∨ c = 'E' then
      let (negative, digits) := splitSign rest
      match digits with
      | [] => .cutOff
      | d :: _ =>
        if d.isDigit then
          .literal { l with exponent := some (negative, digits.takeWhile Char.isDigit) }
            (digits.dropWhile Char.isDigit)
        else .malformed
    else .literal l (c :: rest)
  | [] => .literal l []

def scanNumber (cs : List Char) : NumberScan :=
  let (negative, body) := match cs with
    | '-' :: rest => (true, rest)
    | _ => (false, cs)
  match body with
  | [] => .cutOff
  | first :: second =>
    if !first.isDigit || (first = '0' && second.head?.any Char.isDigit) then .malformed
    else
      let l : NumberLiteral := ⟨negative, body.takeWhile Char.isDigit, [], none⟩
      match body.dropWhile Char.isDigit with
      | '.' :: rest =>
        match rest with
        | [] => .cutOff
        | d :: _ =>
          if d.isDigit then
            scanExponent { l with fraction := rest.takeWhile Char.isDigit }
              (rest.dropWhile Char.isDigit)
          else .malformed
      | rest => scanExponent l rest

inductive NumberValue
  | whole (n : Int)
  | real (x : Binary64)
deriving DecidableEq

/-- Takes digits into a count for as long as it stays within sixty-four bits, and says how many were
left. -/
def takeDigits : Nat → List Char → Nat × Nat
  | n, [] => (n, 0)
  | n, c :: rest =>
    let more := n * 10 + (c.toNat - '0'.toNat)
    if maxCount < more then (n, rest.length + 1) else takeDigits more rest
where
  maxCount : Nat := 2 ^ 64 - 1

/-- Exponents stay within thirty-two bits. -/
def clampExponent (e : Int) : Int := max (-(2 ^ 31)) (min e (2 ^ 31 - 1))

/-- A number times a power of ten, in steps of at most `10 ^ 308`; none if it overflows. -/
def scaled? (x : Binary64) (e : Int) : Option Binary64 :=
  if e.natAbs ≤ 308 then
    let power := Binary64.ofNat (10 ^ e.natAbs)
    if 0 ≤ e then
      let y := x * power
      if y.isFinite then some y else none
    else some (x / power)
  else if x = 0 then some x
  else if 0 ≤ e then none
  else scaled? (x / Binary64.ofNat (10 ^ 308)) (e + 308)
termination_by e.natAbs
decreasing_by omega

namespace NumberLiteral

private def signed (l : NumberLiteral) (x : Binary64) : Binary64 := if l.negative then -x else x

def real? (l : NumberLiteral) : Option Binary64 :=
  let (significand, dropped) := takeDigits 0 l.whole
  let (significand, left) := takeDigits significand l.fraction
  let start : Int := dropped - (l.fraction.length - left : Nat)
  match l.exponent with
  | none => (scaled? (.ofNat significand) start).map l.signed
  | some (negative, digits) =>
    let e := digitsValue digits
    if 2 ^ 31 ≤ e then
      if significand ≠ 0 ∧ !negative then none else some (l.signed 0)
    else
      let e : Int := if negative then -(e : Int) else e
      (scaled? (.ofNat significand) (clampExponent (start + e))).map l.signed

/-- The value, if it is not too large. -/
def value? (l : NumberLiteral) : Option NumberValue :=
  let n := digitsValue l.whole
  if l.fraction.isEmpty ∧ l.exponent.isNone ∧ n < 2 ^ 64 then
    if !l.negative then some (.whole n)
    else if n = 0 ∨ 2 ^ 63 < n then some (.real (-(.ofNat n)))
    else some (.whole (-(n : Int)))
  else l.real?.map .real

end NumberLiteral

def NumberValue.toBinary64 : NumberValue → Binary64
  | whole n => if 0 ≤ n then .ofNat n.toNat else -(.ofNat n.natAbs)
  | real x => x

end CameraTelemetry.Json
