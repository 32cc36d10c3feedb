import CameraTelemetry.Number.Binary64

/-!
# Decimal numbers as text

A decimal is a sign, a natural coefficient and a power of ten. A literal is an optional sign, digits
with at most one point among or beside them, and an optional exponent; the words for infinity and
for no number are literals too, in any case. A literal denotes the nearest double-precision number.
-/
namespace CameraTelemetry.Number

/-- The number `± coefficient * 10 ^ exponent`. -/
structure Decimal where
  negative : Bool
  coefficient : Nat
  exponent : Int
deriving DecidableEq, Repr

/-- The nearest double. Powers of ten that lead out of the range on either side are not computed. -/
def Decimal.toBinary64 (d : Decimal) : Binary64 :=
  if d.coefficient = 0 ∨ (d.coefficient.log2 : Int) + 1200 < -3 * d.exponent then
    .finite d.negative .zero
  else if 400 < d.exponent then .infinite d.negative
  else match d.exponent with
    | .ofNat e => .ofRatio d.negative (d.coefficient * 10 ^ e) 1
    | .negSucc e => .ofRatio d.negative d.coefficient (10 ^ (e + 1))

def digitsValue (cs : List Char) : Nat :=
  cs.foldl (fun n c => 10 * n + (c.toNat - '0'.toNat)) 0

def splitSign : List Char → Bool × List Char
  | '-' :: rest => (true, rest)
  | '+' :: rest => (false, rest)
  | cs => (false, cs)

/-- What follows the digits of a literal: nothing, or an exponent. -/
def readExponent? : List Char → Option Int
  | [] => some 0
  | c :: rest =>
    let (negative, digits) := splitSign rest
    if (c = 'e' ∨ c = 'E') ∧ digits ≠ [] ∧ digits.all Char.isDigit then
      some (if negative then -(digitsValue digits : Int) else digitsValue digits)
    else none

/-- The digits of a literal, its sign apart. -/
def readUnsigned? (negative : Bool) (cs : List Char) : Option Decimal :=
  let whole := cs.takeWhile Char.isDigit
  let afterWhole := cs.dropWhile Char.isDigit
  let (fraction, rest) := match afterWhole with
    | '.' :: more => (more.takeWhile Char.isDigit, more.dropWhile Char.isDigit)
    | _ => ([], afterWhole)
  if whole.isEmpty && fraction.isEmpty then none
  else (readExponent? rest).map fun e =>
    ⟨negative, digitsValue (whole ++ fraction), e - fraction.length⟩

def readSpecial? (negative : Bool) (cs : List Char) : Option Binary64 :=
  let word := String.ofList (cs.map Char.toLower)
  if word = "inf" ∨ word = "infinity" then some (.infinite negative)
  else if word = "nan" then some .nan
  else none

def readReal? (cs : List Char) : Option Binary64 :=
  let (negative, body) := splitSign cs
  match readUnsigned? negative body with
  | some d => some d.toBinary64
  | none => readSpecial? negative body

end CameraTelemetry.Number
