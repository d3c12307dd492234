/-
# The time in front of a log record

The instant of a record as a date and a time of day in universal time, with
six places of the second. Days are counted in years that begin in March, so
that a leap day is the last of its year.

Key definitions: `Log.Civil`, `Log.Civil.ofDays`, `Log.stamp`.
-/
import SignedHooks.Instant

namespace SignedHooks
namespace Log

/-- A day of the calendar. -/
structure Civil where
  /-- The year. -/
  year : Int
  /-- The month, from one. -/
  month : Int
  /-- The day of the month, from one. -/
  day : Int
  deriving DecidableEq, Repr

/-- The days in four hundred years. -/
def daysPerEra : Int := 146097

/-- The days from the first of March of the year zero to the epoch. -/
def daysToEpoch : Int := 719468

/-- The day that comes so many days after the epoch. -/
def Civil.ofDays (days : Int) : Civil :=
  let shifted := days + daysToEpoch
  let era := shifted.fdiv daysPerEra
  let dayOfEra := shifted - era * daysPerEra
  let yearOfEra := (dayOfEra - dayOfEra / 1460 + dayOfEra / 36524 - dayOfEra / 146096) / 365
  let dayOfYear := dayOfEra - (365 * yearOfEra + yearOfEra / 4 - yearOfEra / 100)
  let month := (5 * dayOfYear + 2) / 153
  let year := yearOfEra + era * 400
  ⟨if month < 10 then year else year + 1, if month < 10 then month + 3 else month - 9,
    dayOfYear - (153 * month + 2) / 5 + 1⟩

/-- A number with zeros in front, up to a width. -/
def padded (width : Nat) (n : Int) : String :=
  let digits := Decimal.digitsOf n.natAbs
  String.ofList (List.replicate (width - digits.length) '0' ++ digits)

/-- The nanoseconds of a day. -/
def nanosPerDay : Int := 86400000000000

/-- An instant as a date and a time of day. -/
def stamp (t : Instant) : String :=
  let days := t.offset.fdiv nanosPerDay
  let micros := (t.offset - days * nanosPerDay) / 1000
  let seconds := micros / 1000000
  let date := Civil.ofDays days
  padded 4 date.year ++ "-" ++ padded 2 date.month ++ "-" ++ padded 2 date.day ++ "T" ++
    padded 2 (seconds / 3600) ++ ":" ++ padded 2 (seconds / 60 % 60) ++ ":" ++
    padded 2 (seconds % 60) ++ "." ++ padded 6 (micros % 1000000) ++ "Z"

end Log
end SignedHooks
