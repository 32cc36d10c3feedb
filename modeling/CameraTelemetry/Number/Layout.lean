import CameraTelemetry.Number.Shortest

/-!
# Written forms of double-precision numbers

Two forms are in use, both with the shortest digits that read back: the plain one, always
positional, and the one of JSON documents, positional in a middle range and with a point in every
number. They also part on a tie between two shortest texts. A third form has a fixed count of
decimal places.
-/
namespace CameraTelemetry.Number

/-- How a number is written from its shortest digits. The exponents are those of the leading digit.
-/
structure Layout where
  /-- The least exponent written positionally, if there is one. -/
  leastPositional : Option Int
  /-- The greatest exponent written positionally, if there is one. -/
  greatestPositional : Option Int
  /-- Whole numbers written positionally keep a point and a nought. -/
  keepsPoint : Bool
  /-- The choice between two shortest texts that are equally near. -/
  tie : Tie
deriving DecidableEq, Repr

/-- Always positional; whole numbers have no point, and a tie goes away from nought. -/
def Layout.plain : Layout := ⟨none, none, false, .up⟩

/-- Positional from `0.00001` up to below `10 ^ 16`; whole numbers have a point, and a tie goes to
the even digit. -/
def Layout.json : Layout := ⟨some (-5), some 15, true, .even⟩

namespace Digits

def zeros (n : Nat) : String := String.ofList (List.replicate n '0')

/-- Positional notation. The last digit of `coefficient` stands for `10 ^ exponent`. -/
def positional (keepsPoint : Bool) (coefficient : List Char) (exponent : Int) : String :=
  let tail := if keepsPoint then ".0" else ""
  match exponent with
  | .ofNat e => String.ofList coefficient ++ zeros e ++ tail
  | .negSucc e =>
    let places := e + 1
    if places < coefficient.length then
      String.ofList (coefficient.take (coefficient.length - places)) ++ "."
        ++ String.ofList (coefficient.drop (coefficient.length - places))
    else "0." ++ zeros (places - coefficient.length) ++ String.ofList coefficient

/-- One digit, a point if more follow, and the exponent of the first digit with its sign. -/
def scientific (coefficient : List Char) (leading : Int) : String :=
  let rest := coefficient.drop 1
  String.ofList (coefficient.take 1)
    ++ (if rest.isEmpty then "" else "." ++ String.ofList rest)
    ++ "e" ++ (if leading < 0 then "-" else "+") ++ toString leading.natAbs

def write (layout : Layout) (d : Digits) : String :=
  let coefficient := Nat.toDigits 10 d.coefficient
  let exponent : Int := (d.place : Int) - 400
  let leading : Int := exponent + coefficient.length - 1
  let fits := (layout.leastPositional.all (· ≤ leading))
    && (layout.greatestPositional.all (leading ≤ ·))
  if fits then positional layout.keepsPoint coefficient exponent else scientific coefficient leading

end Digits

namespace Binary64

private def signText (negative : Bool) : String := if negative then "-" else ""

def write (layout : Layout) : Binary64 → String
  | nan => "NaN"
  | infinite negative => signText negative ++ "inf"
  | finite negative m =>
    signText negative ++
      (if m.units = 0 then Digits.positional layout.keepsPoint ['0'] 0
       else (Digits.shortest layout.tie m).write layout)

def plain (x : Binary64) : String := x.write .plain

/-- The exact value rounded to two decimal places, ties to even. -/
def twoPlaces : Binary64 → String
  | nan => "NaN"
  | infinite negative => signText negative ++ "inf"
  | finite negative m =>
    let hundredths := roundRatio (m.units * 100) unitsPerOne
    signText negative ++ toString (hundredths / 100) ++ "."
      ++ (if hundredths % 100 < 10 then "0" else "") ++ toString (hundredths % 100)

end Binary64

end CameraTelemetry.Number
