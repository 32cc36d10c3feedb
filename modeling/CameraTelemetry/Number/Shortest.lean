import CameraTelemetry.Number.Binary64

/-!
# Shortest decimal digits

The fewest significant digits that read back as a given magnitude, and of those the nearest. On the
decimal grid of a given number of digits only the two neighbours of the magnitude are tried: if any
point of the grid reads back, one of them does. Which neighbour is taken when both are equally near
is left to the caller.
-/
namespace CameraTelemetry.Number

/-- The choice between two neighbours that are equally near. -/
inductive Tie
  /-- The greater magnitude. -/
  | up
  /-- The one with an even last digit. -/
  | even
deriving DecidableEq, Repr

/-- The lower neighbour, which ends in the last digit of `below`, wins an exact tie. -/
def Tie.takesLower (tie : Tie) (below : Nat) : Bool :=
  match tie with
  | .up => false
  | .even => below % 2 == 0

/-- The number `coefficient * 10 ^ (place - 400)`; every positive double is above `10 ^ (-400)`. -/
structure Digits where
  coefficient : Nat
  place : Nat
deriving DecidableEq, Repr

namespace Digits

def readsBack (m : Magnitude) (d : Digits) : Bool :=
  Magnitude.nearest? (d.coefficient * 10 ^ d.place * Binary64.unitsPerOne) (10 ^ 400) == some m

/-- Twice the distance from the magnitude, on a common scale. -/
def distance (m : Magnitude) (d : Digits) : Nat :=
  let there := d.coefficient * 10 ^ d.place * Binary64.unitsPerOne
  let here := m.units * 10 ^ 400
  max here there - min here there

def onGrid? (tie : Tie) (m : Magnitude) (place : Nat) : Option Digits :=
  let below := m.units * 10 ^ 400 / (Binary64.unitsPerOne * 10 ^ place)
  let low : Digits := ⟨below, place⟩
  let high : Digits := ⟨below + 1, place⟩
  match readsBack m low, readsBack m high with
  | true, true =>
    if distance m low < distance m high
      ∨ (distance m low = distance m high ∧ tie.takesLower below) then some low else some high
  | true, false => some low
  | false, true => some high
  | false, false => none

/-- Tries the grids from `place` down, at most `tries` of them after this one. -/
def search (tie : Tie) (m : Magnitude) : Nat → Nat → Digits
  | 0, place =>
    (onGrid? tie m place).getD ⟨m.units * 10 ^ 400 / (Binary64.unitsPerOne * 10 ^ place), place⟩
  | tries + 1, place => (onGrid? tie m place).getD (search tie m tries (place - 1))

def leadingPlace (m : Magnitude) : Nat :=
  (Nat.toDigits 10 (m.units * 10 ^ 400 / Binary64.unitsPerOne)).length - 1

/-- Moves trailing zeros of the coefficient into the place. -/
def stripZeros (d : Digits) : Digits :=
  if h : d.coefficient ≠ 0 ∧ d.coefficient % 10 = 0 then
    stripZeros ⟨d.coefficient / 10, d.place + 1⟩
  else d
termination_by d.coefficient
decreasing_by omega

/-- The shortest digits of a positive magnitude; seventeen always suffice. -/
def shortest (tie : Tie) (m : Magnitude) : Digits :=
  stripZeros (search tie m 16 (leadingPlace m))

end Digits

end CameraTelemetry.Number
