import AlignmentTally.Instant
import AlignmentTally.Machine.Text

/-!
# Civil times

What calendars and clocks show at a point in time, in a zone that is some seconds ahead of UTC. A
civil time need not be a real one while it is computed with: months and days may run over, and
`Civil.seconds` is the point in time that is meant.
-/

namespace AlignmentTally

open Machine

namespace Date

/-- The number of days from 1970-01-01 to a date. The month and the day may run over. -/
def daysOf (year month day : Int) : Int :=
  let months := year * 12 + (month - 1)
  let year := Int.fdiv months 12
  let month := Int.fmod months 12 + 1
  let shifted := if month ≤ 2 then year - 1 else year
  let era := Int.fdiv shifted 400
  let yearOfEra := Int.fmod shifted 400
  let fromMarch := if 2 < month then month - 3 else month + 9
  let dayOfYear := (153 * fromMarch + 2) / 5 + (day - 1)
  let dayOfEra := yearOfEra * 365 + yearOfEra / 4 - yearOfEra / 100 + dayOfYear
  era * 146097 + dayOfEra - 719468

/-- The number of days from 1970-01-01 to a date. -/
def toDays (date : Date) : Int := daysOf date.year date.month date.day

/-- The day of the week, from Sunday, which is 0. -/
def weekday (date : Date) : Nat := (Int.fmod (date.toDays + 4) 7).toNat

/-- The days of the year before a date. -/
def yearDay (date : Date) : Nat := (date.toDays - daysOf date.year 1 1).toNat

/-- The year and the number of the week that a date belongs to if weeks begin on Monday and belong
to the year that has most of their days. -/
def isoWeek (date : Date) : Int × Nat :=
  let days := date.toDays
  let thursday := days - Int.fmod (days + 3) 7 + 3
  let year := (Date.ofDays thursday).year
  (year, ((thursday - daysOf year 1 1) / 7 + 1).toNat)

end Date

/-- A zone in which clocks show the same time. -/
structure Zone where
  /-- The name of the zone. -/
  name : Text := "UTC"
  /-- The seconds that clocks are ahead of UTC. -/
  ahead : Int := 0
  deriving DecidableEq, Repr, Inhabited

namespace Zone

/-- Hours, minutes and seconds with a sign at the start of a text, in seconds, and what follows. -/
def offset? (text : Text) : Option (Int × Text) :=
  let (sign, text) : Int × Text :=
    match text with
    | '-' :: rest => (-1, rest)
    | '+' :: rest => (1, rest)
    | text => (1, text)
  let number (text : Text) : Text × Text := (text.takeWhile Char.isDigit, text.dropWhile Char.isDigit)
  let part (worth : Nat) (text : Text) : Nat × Text :=
    match text with
    | ':' :: rest =>
      let (digits, rest) := number rest
      (worth * Text.natOfDigits 10 digits, rest)
    | text => (0, text)
  let (hours, rest) := number text
  if hours.isEmpty ∨ 24 < Text.natOfDigits 10 hours then none
  else
    let (minutes, rest) := part 60 rest
    let (seconds, rest) := part 1 rest
    some (sign * ((3600 * Text.natOfDigits 10 hours + minutes + seconds : Nat) : Int), rest)

/-- The name of a zone at the start of a text, and what follows. -/
def name? (text : Text) : Option (Text × Text) :=
  match text with
  | '<' :: rest =>
    let name := rest.takeWhile (· ≠ '>')
    if 3 ≤ name.length then some (name, rest.drop (name.length + 1)) else none
  | text =>
    let name := text.takeWhile Char.isAlpha
    if 3 ≤ name.length then some (name, text.drop name.length) else none

/-- The zone that a text describes by its name and by how far clocks are behind UTC. A name alone is
another name for UTC. -/
def ofText (text : Text) : Zone :=
  let text := if text.head? = some ':' then text.drop 1 else text
  if text.isEmpty then { name := "Universal".toList }
  else
    match name? text with
    | none => {}
    | some (name, rest) =>
      match offset? rest with
      | some (behind, _) => { name, ahead := -behind }
      | none => { name }

/-- The zone that the values of a program say. -/
def ofValue (value? : Option Text) : Zone := value?.elim {} ofText

end Zone

/-- What calendars and clocks show. -/
structure Civil where
  /-- The date. -/
  date : Date
  /-- The hour of the day. -/
  hour : Nat := 0
  /-- The minute of the hour. -/
  minute : Nat := 0
  /-- The second of the minute. -/
  second : Nat := 0
  /-- The nanosecond of the second. -/
  nanosecond : Nat := 0
  /-- The zone. -/
  zone : Zone := {}
  /-- The point in time, in seconds since 1970-01-01 in UTC. -/
  seconds : Int
  deriving Repr

namespace Civil

/-- What calendars and clocks show at a point in time. -/
def ofInstant (zone : Zone) (instant : Instant) : Civil :=
  let shown := instant.seconds + zone.ahead
  let second := (Int.fmod shown 86400).toNat
  { date := Date.ofDays (Int.fdiv shown 86400)
    hour := second / 3600, minute := second / 60 % 60, second := second % 60
    nanosecond := instant.nanoseconds, zone, seconds := instant.seconds }

/-- The hour as clocks of twelve hours show it. -/
def hourOfTwelve (time : Civil) : Nat := if time.hour % 12 = 0 then 12 else time.hour % 12

end Civil

end AlignmentTally
