import CameraTelemetry.Number.Power

/-!
# Durations

A span of time in whole nanoseconds, and the text that messages show for it.
-/
namespace CameraTelemetry

structure Duration where
  nanos : Nat
deriving DecidableEq, Repr

/-- A moment, as nanoseconds since a common origin. -/
abbrev Instant := Nat

namespace Duration

def ofMillis (n : Nat) : Duration := ⟨n * 10 ^ 6⟩

def ofSecs (n : Nat) : Duration := ⟨n * 10 ^ 9⟩

def wholeSecs (d : Duration) : Nat := d.nanos / 10 ^ 9

/-- The nanoseconds beyond the whole seconds. -/
def remainder (d : Duration) : Nat := d.nanos % 10 ^ 9

/-- The time from `start` to `now`, none if `now` comes first. -/
def since (start now : Instant) : Duration := ⟨now - start⟩

instance : LT Duration := ⟨fun a b => a.nanos < b.nanos⟩

instance (a b : Duration) : Decidable (a < b) := inferInstanceAs (Decidable (a.nanos < b.nanos))

/-- The first `places` decimals of `part / 10 ^ places` with their point, trailing zeros dropped. -/
def fraction (part places : Nat) : String :=
  let digits := Nat.toDigits 10 part
  let padded := List.replicate (places - digits.length) '0' ++ digits
  let kept := (padded.reverse.dropWhile (· == '0')).reverse
  if kept.isEmpty then "" else "." ++ String.ofList kept

/-- Shown in the largest of seconds, milliseconds, microseconds and nanoseconds of which there is a
whole one. -/
def text (d : Duration) : String :=
  let n := d.nanos
  if 10 ^ 9 ≤ n then toString (n / 10 ^ 9) ++ fraction (n % 10 ^ 9) 9 ++ "s"
  else if 10 ^ 6 ≤ n then toString (n / 10 ^ 6) ++ fraction (n % 10 ^ 6) 6 ++ "ms"
  else if 10 ^ 3 ≤ n then toString (n / 10 ^ 3) ++ fraction (n % 10 ^ 3) 3 ++ "µs"
  else toString n ++ "ns"

end Duration

end CameraTelemetry
