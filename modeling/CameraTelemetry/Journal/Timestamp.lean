import CameraTelemetry.Duration

/-!
# Timestamps

How a moment since the start of 1970 is written: date and time of day in universal time, with as
many decimals of the second as there are. Years are counted from March, so that the day which leap
years add is the last of its year.
-/
namespace CameraTelemetry.Journal

structure Date where
  year : Nat
  month : Nat
  day : Nat
deriving DecidableEq, Repr

/-- The days from the start of March of the year nought to the start of 1970. -/
def daysBefore1970 : Nat := 719468

def daysPerEra : Nat := 146097

/-- The date of a count of days since the start of 1970. An era is four hundred years. -/
def Date.ofDays (days : Nat) : Date :=
  let shifted := days + daysBefore1970
  let ofEra := shifted % daysPerEra
  let yearOfEra := (ofEra - ofEra / 1460 + ofEra / 36524 - ofEra / 146096) / 365
  let ofYear := ofEra - (365 * yearOfEra + yearOfEra / 4 - yearOfEra / 100)
  let monthFromMarch := (5 * ofYear + 2) / 153
  let year := yearOfEra + shifted / daysPerEra * 400
  { year := if monthFromMarch < 10 then year else year + 1
    month := if monthFromMarch < 10 then monthFromMarch + 3 else monthFromMarch - 9
    day := ofYear - (153 * monthFromMarch + 2) / 5 + 1 }

/-- A number with noughts before it, up to a count of digits. -/
private def padded (places n : Nat) : String :=
  let digits := Nat.toDigits 10 n
  String.ofList (List.replicate (places - digits.length) '0' ++ digits)

def timestampText (moment : Instant) : String :=
  let seconds := moment / 10 ^ 9
  let date := Date.ofDays (seconds / 86400)
  let ofDay := seconds % 86400
  padded 4 date.year ++ "-" ++ padded 2 date.month ++ "-" ++ padded 2 date.day ++ "T"
    ++ padded 2 (ofDay / 3600) ++ ":" ++ padded 2 (ofDay / 60 % 60) ++ ":" ++ padded 2 (ofDay % 60)
    ++ Duration.fraction (moment % 10 ^ 9) 9 ++ "Z"

end CameraTelemetry.Journal
