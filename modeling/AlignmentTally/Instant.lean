/-!
# Instants

A point in time as seconds and nanoseconds since 1970-01-01 in UTC, and its text: a date, a time
with 0, 3, 6 or 9 fraction digits, the fewest that are exact, and `Z`. A leap second is the second
before a full minute with a nanosecond part of a second or more; it is written as second 60.
Years outside 0 to 9999 carry a sign.
-/

namespace AlignmentTally

/-- A point in time. -/
structure Instant where
  /-- Whole seconds since 1970-01-01, negative before. -/
  seconds : Int := 0
  /-- Nanoseconds since then, below `2 · 10 ^ 9`. -/
  nanoseconds : Nat := 0
  deriving DecidableEq, Repr, Inhabited

/-- A day of the Gregorian calendar. -/
structure Date where
  /-- The year, where 0 stands for 1 BC. -/
  year : Int
  /-- The month, from 1. -/
  month : Nat
  /-- The day of the month, from 1. -/
  day : Nat
  deriving DecidableEq, Repr

namespace Date

/-- The date that lies `days` after 1970-01-01. Years are counted from March, so that the leap day
is the last of its year; 400 such years have 146097 days. -/
def ofDays (days : Int) : Date :=
  let shifted := days + 719468
  let era := Int.fdiv shifted 146097
  let dayOfEra := (Int.fmod shifted 146097).toNat
  let yearOfEra :=
    (dayOfEra - dayOfEra / 1460 + dayOfEra / 36524 - dayOfEra / 146096) / 365
  let dayOfYear := dayOfEra - (365 * yearOfEra + yearOfEra / 4 - yearOfEra / 100)
  let fromMarch := (5 * dayOfYear + 2) / 153
  let month := if fromMarch < 10 then fromMarch + 3 else fromMarch - 9
  { year := yearOfEra + era * 400 + (if month ≤ 2 then 1 else 0)
    month
    day := dayOfYear - (153 * fromMarch + 2) / 5 + 1 }

end Date

/-- A natural number in decimal, with zeros in front up to `width` digits. -/
def padded (width n : Nat) : String :=
  let digits := Nat.toDigits 10 n
  String.ofList (List.replicate (width - digits.length) '0' ++ digits)

/-- A year with at least four digits, and a sign outside 0 to 9999. -/
def writeYear (year : Int) : String :=
  if year < 0 then "-" ++ padded 4 year.natAbs
  else if 9999 < year then "+" ++ padded 4 year.natAbs
  else padded 4 year.natAbs

namespace Instant

/-- The fraction of a second, with the fewest groups of three digits that are exact. -/
def writeFraction (nanoseconds : Nat) : String :=
  if nanoseconds = 0 then ""
  else if nanoseconds % 1000000 = 0 then "." ++ padded 3 (nanoseconds / 1000000)
  else if nanoseconds % 1000 = 0 then "." ++ padded 6 (nanoseconds / 1000)
  else "." ++ padded 9 nanoseconds

/-- The instant as a date and a time in UTC. -/
def write (instant : Instant) : String :=
  let date := Date.ofDays (Int.fdiv instant.seconds 86400)
  let second := (Int.fmod instant.seconds 86400).toNat
  let leap := instant.nanoseconds / 1000000000
  writeYear date.year ++ "-" ++ padded 2 date.month ++ "-" ++ padded 2 date.day ++ "T" ++
    padded 2 (second / 3600) ++ ":" ++ padded 2 (second / 60 % 60) ++ ":" ++
    padded 2 (second % 60 + leap) ++ writeFraction (instant.nanoseconds % 1000000000) ++ "Z"

end Instant

end AlignmentTally
