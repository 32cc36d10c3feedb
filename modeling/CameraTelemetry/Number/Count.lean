import CameraTelemetry.Number.Power

/-!
# Counts written in decimal

A count is written as an optional plus sign and decimal digits, any number of leading zeros, and
must not exceed the limit of its field. Reading goes from the left and stops at the first fault.
-/
namespace CameraTelemetry.Number

inductive CountError
  | empty
  | invalidDigit
  | tooLarge
deriving DecidableEq, Repr

def CountError.message : CountError → String
  | .empty => "cannot parse integer from empty string"
  | .invalidDigit => "invalid digit found in string"
  | .tooLarge => "number too large to fit in target type"

def digit? (c : Char) : Option Nat :=
  if c.isDigit then some (c.toNat - '0'.toNat) else none

def readDigits (limit : Nat) : Nat → List Char → Except CountError Nat
  | soFar, [] => .ok soFar
  | soFar, c :: rest =>
    match digit? c with
    | none => .error .invalidDigit
    | some d =>
      if limit < soFar * 10 + d then .error .tooLarge
      else readDigits limit (soFar * 10 + d) rest

/-- Reads a count of at most `limit`. -/
def readCount (limit : Nat) : List Char → Except CountError Nat
  | [] => .error .empty
  | ['+'] => .error .invalidDigit
  | '+' :: rest => readDigits limit 0 rest
  | cs => readDigits limit 0 cs

/-- The largest count of sixty-four bits. -/
def maxCount : Nat := 2 ^ 64 - 1

/-- Addition that stays at the largest count. -/
def addCount (a b : Nat) : Nat := min (a + b) maxCount

end CameraTelemetry.Number
