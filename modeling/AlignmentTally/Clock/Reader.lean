import AlignmentTally.Clock.Civil

/-!
# Reading dates and times

People write dates and times in many ways: as numbers in the order of several countries, with names
of months and days, and as distances from other points in time. A text is cut into tokens, the tokens
make up items, and all items together say which point in time is meant. What no item says is taken
from the present.
-/

namespace AlignmentTally

open Machine

namespace Clock

/-! ### Tokens -/

/-- What is counted in distances. -/
inductive Unit_ where
  /-- Years. -/
  | year
  /-- Months. -/
  | month
  /-- Some days. -/
  | days (count : Nat)
  /-- Hours. -/
  | hour
  /-- Minutes. -/
  | minute
  /-- Seconds. -/
  | second
  deriving DecidableEq, Repr

/-- What is said about the half of the day. -/
inductive Half where
  /-- Before noon. -/
  | morning
  /-- After noon. -/
  | afternoon
  deriving DecidableEq, Repr

/-- A number as it was written. -/
structure Written where
  /-- Its value. -/
  value : Int
  /-- Whether a minus sign stood before it. -/
  isNegative : Bool := false
  /-- The number of its digits. -/
  digits : Nat
  deriving DecidableEq, Repr, Inhabited

/-- A token. -/
inductive Token where
  /-- A number, with a sign or without. -/
  | number (hasSign : Bool) (n : Written)
  /-- Seconds with a fraction, with a sign or without. -/
  | decimal (hasSign : Bool) (seconds : Int) (nanoseconds : Nat)
  /-- A half of the day. -/
  | half (half : Half)
  /-- A month. -/
  | month (n : Nat)
  /-- A day of the week. -/
  | day (n : Nat)
  /-- A zone, in seconds ahead of UTC. -/
  | zone (ahead : Int)
  /-- A zone that has summer time, without it. -/
  | summerZone (ahead : Int)
  /-- The zone of the clock. -/
  | ownZone
  /-- That there is summer time. -/
  | summer
  /-- What is counted. -/
  | unit (unit : Unit_)
  /-- A number in words. -/
  | ordinal (n : Int)
  /-- A distance in days from the present. -/
  | shift (days : Int)
  /-- Whether a distance leads back. -/
  | direction (factor : Int)
  /-- The letter between a date and a time, which is also a zone. -/
  | letterT
  /-- Another character. -/
  | char (c : Char)
  deriving DecidableEq, Repr

/-- The names of the months and how they may be cut short besides their first three letters. -/
def months : List (String × Nat) :=
  [("JANUARY", 1), ("FEBRUARY", 2), ("MARCH", 3), ("APRIL", 4), ("MAY", 5), ("JUNE", 6),
    ("JULY", 7), ("AUGUST", 8), ("SEPTEMBER", 9), ("SEPT", 9), ("OCTOBER", 10), ("NOVEMBER", 11),
    ("DECEMBER", 12)]

/-- The names of the days and how they may be cut short besides their first three letters. -/
def days : List (String × Nat) :=
  [("SUNDAY", 0), ("MONDAY", 1), ("TUESDAY", 2), ("TUES", 2), ("WEDNESDAY", 3), ("WEDNES", 3),
    ("THURSDAY", 4), ("THUR", 4), ("THURS", 4), ("FRIDAY", 5), ("SATURDAY", 6)]

/-- The names of UTC. -/
def universal : List String := ["GMT", "UT", "UTC"]

/-- Zones without summer time, in minutes ahead of UTC. -/
def zones : List (String × Int) :=
  [("WET", 0), ("ART", -180), ("BRT", -180), ("NST", -210), ("AST", -240), ("CLT", -240),
    ("EST", -300), ("CST", -360), ("MST", -420), ("PST", -480), ("AKST", -540), ("HST", -600),
    ("HAST", -600), ("SST", -720), ("WAT", 60), ("CET", 60), ("MET", 60), ("MEZ", 60),
    ("EET", 120), ("CAT", 120), ("SAST", 120), ("EAT", 180), ("MSK", 180), ("IST", 330),
    ("SGT", 480), ("KST", 540), ("JST", 540), ("GST", 600), ("NZST", 720)]

/-- Zones with summer time, in minutes ahead of UTC without it. -/
def summerZones : List (String × Int) :=
  [("WEST", 0), ("BST", 0), ("BRST", -180), ("NDT", -210), ("ADT", -240), ("CLST", -240),
    ("EDT", -300), ("CDT", -360), ("MDT", -420), ("PDT", -480), ("AKDT", -540), ("HADT", -600),
    ("CEST", 60), ("MEST", 60), ("MESZ", 60), ("EEST", 120), ("MSD", 180), ("NZDT", 720)]

/-- What is counted, by name. -/
def units : List (String × Unit_) :=
  [("YEAR", .year), ("MONTH", .month), ("FORTNIGHT", .days 14), ("WEEK", .days 7),
    ("DAY", .days 1), ("HOUR", .hour), ("MINUTE", .minute), ("MIN", .minute), ("SECOND", .second),
    ("SEC", .second)]

/-- Words about distances. -/
def distances : List (String × Token) :=
  [("TOMORROW", .shift 1), ("YESTERDAY", .shift (-1)), ("TODAY", .shift 0), ("NOW", .shift 0),
    ("LAST", .ordinal (-1)), ("THIS", .ordinal 0), ("NEXT", .ordinal 1), ("FIRST", .ordinal 1),
    ("THIRD", .ordinal 3), ("FOURTH", .ordinal 4), ("FIFTH", .ordinal 5), ("SIXTH", .ordinal 6),
    ("SEVENTH", .ordinal 7), ("EIGHTH", .ordinal 8), ("NINTH", .ordinal 9),
    ("TENTH", .ordinal 10), ("ELEVENTH", .ordinal 11), ("TWELFTH", .ordinal 12),
    ("AGO", .direction (-1)), ("HENCE", .direction 1)]

/-- The zone that a letter stands for. -/
def letterZone? (c : Char) : Option Token :=
  if c = 'T' then some .letterT
  else if c = 'Z' then some (.zone 0)
  else
    match "ABCDEFGHIKLM".toList.findIdx? (· = c), "NOPQRSTUVWXY".toList.findIdx? (· = c) with
    | some i, _ => some (.zone (3600 * (i + 1)))
    | none, some i => some (.zone (-3600 * (i + 1)))
    | none, none => none

/-- The zone with a name, which may be that of the zone of the clock. -/
def zone? (own : Zone) (word : String) : Option Token :=
  if universal.contains word then some (.zone 0)
  else if own.name.map Char.toUpper = word.toList then some .ownZone
  else
    match zones.lookup word, summerZones.lookup word with
    | some minutes, _ => some (.zone (60 * minutes))
    | none, some minutes => some (.summerZone (60 * minutes))
    | none, none => none

/-- The token that a word is. -/
def word? (own : Zone) (text : Text) : Option Token :=
  let text := text.map Char.toUpper
  let word := String.ofList text
  let isShort : Bool := text.length = 3 || text.length = 4 && text[3]? = some '.'
  let named (names : List (String × Nat)) : Option Nat :=
    (names.find? fun (name, _) ↦
      if isShort then name.toList.take 3 = text.take 3 else name = word).map Prod.snd
  let unit? : Option Unit_ :=
    (units.lookup word).orElse fun _ ↦
      if text.getLast? = some 'S' then units.lookup (String.ofList text.dropLast) else none
  if word = "AM" ∨ word = "A.M." then some (.half .morning)
  else if word = "PM" ∨ word = "P.M." then some (.half .afternoon)
  else
    ((named months).map Token.month).orElse fun _ ↦
    ((named days).map Token.day).orElse fun _ ↦
    (zone? own word).orElse fun _ ↦
    (if word = "DST" then some Token.summer else none).orElse fun _ ↦
    (unit?.map Token.unit).orElse fun _ ↦
    (distances.lookup word).orElse fun _ ↦
    (match text with
      | [c] => letterZone? c
      | _ => none).orElse fun _ ↦
    if text.contains '.' then zone? own (String.ofList (text.filter (· ≠ '.'))) else none

/-- Whether a character is a blank. -/
def isBlank (c : Char) : Bool := c = ' ' || ('\t' ≤ c && c ≤ '\r')

/-- What follows a remark between brackets, which may hold other ones. -/
def afterRemark : Nat → Text → Text
  | _, [] => []
  | depth, '(' :: rest => afterRemark (depth + 1) rest
  | depth, ')' :: rest => if depth ≤ 1 then rest else afterRemark (depth - 1) rest
  | depth, _ :: rest => afterRemark depth rest

/-- The number at the start of a text, which has digits, and what follows. A fraction goes down for
numbers below zero. -/
def takeNumber (hasSign isNegative : Bool) (text : Text) : Token × Text :=
  let digits := text.takeWhile Char.isDigit
  let rest := text.drop digits.length
  let n : Int := Text.natOfDigits 10 digits
  let value := if isNegative then -n else n
  match rest with
  | mark :: rest' =>
    if (mark = '.' ∨ mark = ',') ∧ rest'.head?.any Char.isDigit then
      let places := rest'.takeWhile Char.isDigit
      let kept := (places ++ List.replicate 9 '0').take 9
      let nanoseconds := Text.natOfDigits 10 kept
      let isCut : Bool := (places.drop 9).any (· ≠ '0')
      let nanoseconds := if isNegative && isCut then nanoseconds + 1 else nanoseconds
      let (seconds, nanoseconds) : Int × Nat :=
        if isNegative ∧ nanoseconds ≠ 0 then (value - 1, 1000000000 - nanoseconds)
        else (value, nanoseconds)
      (.decimal hasSign seconds nanoseconds, rest'.drop places.length)
    else (.number hasSign { value, isNegative, digits := digits.length }, rest)
  | [] => (.number hasSign { value, isNegative, digits := digits.length }, rest)

/-- The tokens of a text, in at most some rounds. -/
def tokens (own : Zone) : Nat → Text → Option (List Token)
  | 0, _ => none
  | _, [] => some []
  | rounds + 1, c :: rest =>
    if isBlank c then tokens own rounds rest
    else if c.isDigit then
      let (token, rest) := takeNumber false false (c :: rest)
      (tokens own rounds rest).map (token :: ·)
    else if c = '-' ∨ c = '+' then
      let after := rest.dropWhile isBlank
      if after.head?.any Char.isDigit then
        let (token, rest) := takeNumber true (c = '-') after
        (tokens own rounds rest).map (token :: ·)
      else tokens own rounds after
    else if c.isAlpha then
      let word := (c :: rest).takeWhile fun c ↦ c.isAlpha || c = '.'
      match word? own word with
      | none => none
      | some token => (tokens own rounds ((c :: rest).drop word.length)).map (token :: ·)
    else if c = '(' then tokens own rounds (afterRemark 1 rest)
    else (tokens own rounds rest).map (Token.char c :: ·)

/-! ### Items -/

/-- A distance. -/
structure Distance where
  /-- Years. -/
  years : Int := 0
  /-- Months. -/
  months : Int := 0
  /-- Days. -/
  days : Int := 0
  /-- Seconds. -/
  seconds : Int := 0
  /-- Nanoseconds. -/
  nanoseconds : Int := 0

namespace Distance

/-- A number of what is counted. -/
def ofUnit (n : Int) : Unit_ → Distance
  | .year => { years := n }
  | .month => { months := n }
  | .days count => { days := n * count }
  | .hour => { seconds := 3600 * n }
  | .minute => { seconds := 60 * n }
  | .second => { seconds := n }

/-- Two distances together, the second one some times. -/
def add (a b : Distance) (factor : Int) : Distance :=
  { years := a.years + factor * b.years, months := a.months + factor * b.months
    days := a.days + factor * b.days, seconds := a.seconds + factor * b.seconds
    nanoseconds := a.nanoseconds + factor * b.nanoseconds }

end Distance

/-- What was said so far. -/
structure Said where
  /-- The year as it was written. -/
  year : Written
  /-- The month. -/
  month : Int
  /-- The day of the month. -/
  day : Int
  /-- The hour. -/
  hour : Int
  /-- The minute. -/
  minute : Int
  /-- The second. -/
  second : Int
  /-- The nanosecond. -/
  nanosecond : Nat
  /-- The half of the day. -/
  half : Option Half := none
  /-- The day of the week, and how many weeks on. -/
  weekday : Nat × Int := (0, 0)
  /-- The seconds that clocks are ahead of UTC. -/
  ahead : Int := 0
  /-- The distance. -/
  distance : Distance := {}
  /-- The number of dates. -/
  dates : Nat := 0
  /-- The number of times of the day. -/
  times : Nat := 0
  /-- The number of days of the week. -/
  weekdays : Nat := 0
  /-- The number of zones. -/
  zones : Nat := 0
  /-- The number of times that the zone of the clock is named. -/
  ownZones : Nat := 0
  /-- Whether there is a distance. -/
  hasDistance : Bool := false

namespace Said

/-- What was said, with a time of the day. -/
def setTime (said : Said) (hour minute second : Int) (nanosecond : Nat) (half : Option Half) :
    Said :=
  { said with hour, minute, second, nanosecond, half, times := said.times + 1 }

/-- What was said, with a date. -/
def setDate (said : Said) (year : Written) (month day : Int) : Said :=
  { said with year, month, day, dates := said.dates + 1 }

/-- What was said, with a zone. -/
def setZone (said : Said) (ahead : Int) : Said :=
  { said with ahead, zones := said.zones + 1 }

/-- What was said, with a distance some times. -/
def move (said : Said) (distance : Distance) (factor : Int) : Said :=
  { said with distance := said.distance.add distance factor, hasDistance := true }

/-- What was said, with a number that stands alone: a year if only that is missing, a date if it has
many digits, and a time of the day otherwise. -/
def setNumber (said : Said) (n : Written) : Said :=
  if said.dates ≠ 0 ∧ said.year.digits = 0 ∧ ¬ said.hasDistance ∧
      (said.times ≠ 0 ∨ 2 < n.digits) then
    { said with year := n }
  else if 4 < n.digits then
    said.setDate { value := n.value / 10000, digits := n.digits - 4 } (n.value / 100 % 100)
      (n.value % 100)
  else if n.digits ≤ 2 then said.setTime n.value 0 0 0 none
  else said.setTime (n.value / 100) (n.value % 100) 0 0 none

/-- How far a zone is ahead of UTC, as hours and minutes after a sign say. -/
def ahead? (n : Written) (minutes : Option Int) : Option Int :=
  let total : Int :=
    match minutes with
    | some m => n.value * 60 + if n.isNegative then -m else m
    | none =>
      let value := if n.digits ≤ 2 then n.value * 100 else n.value
      Int.tdiv value 100 * 60 + Int.tmod value 100
  if total.natAbs ≤ 1440 then some (60 * total) else none

/-- What was said, with a zone that may stand after a time of the day. -/
def takeOffset (said : Said) : List Token → Option (Said × List Token)
  | .number true n :: .char ':' :: .number false m :: rest =>
    (ahead? n (some m.value)).map fun ahead ↦ (said.setZone ahead, rest)
  | .number true n :: rest => (ahead? n none).map fun ahead ↦ (said.setZone ahead, rest)
  | rest => some (said, rest)

/-- The seconds that a token is. -/
def seconds? : Token → Option (Int × Nat)
  | .number false n => some (n.value, 0)
  | .decimal false seconds nanoseconds => some (seconds, nanoseconds)
  | _ => none

/-- Takes a time of the day after its hour. A zone has to follow an hour that stands alone. -/
def takeTime (said : Said) (hour : Int) : List Token → Option (Said × List Token)
  | .half half :: rest => some (said.setTime hour 0 0 0 (some half), rest)
  | .char ':' :: .number false minute :: .char ':' :: token :: rest =>
    match seconds? token, rest with
    | some (second, nanosecond), .half half :: rest =>
      some (said.setTime hour minute.value second nanosecond (some half), rest)
    | some (second, nanosecond), rest =>
      takeOffset (said.setTime hour minute.value second nanosecond none) rest
    | none, _ => none
  | .char ':' :: .number false minute :: .half half :: rest =>
    some (said.setTime hour minute.value 0 0 (some half), rest)
  | .char ':' :: .number false minute :: rest =>
    takeOffset (said.setTime hour minute.value 0 0 none) rest
  | .number true n :: rest => takeOffset (said.setTime hour 0 0 0 none) (.number true n :: rest)
  | _ => none

/-- Takes a distance with its direction, if there is one. -/
def takeDirection (said : Said) (distance : Distance) : List Token → Said × List Token
  | .direction factor :: rest => (said.move distance factor, rest)
  | rest => (said.move distance 1, rest)

/-- Takes what may follow a zone: a distance, or how far the zone is ahead of the named one. -/
def takeZone (said : Said) (ahead : Int) : List Token → Option (Said × List Token)
  | .number true n :: .unit unit :: rest =>
    some ((said.setZone ahead).move (.ofUnit n.value unit) 1, rest)
  | .number true n :: .char ':' :: .number false m :: rest =>
    (ahead? n (some m.value)).map fun more ↦ (said.setZone (ahead + more), rest)
  | .number true n :: rest =>
    (ahead? n none).map fun more ↦ (said.setZone (ahead + more), rest)
  | .summer :: rest => some (said.setZone (ahead + 3600), rest)
  | rest => some (said.setZone ahead, rest)

/-- A number as a year. Its sign is the dash before it. -/
def yearOf (n : Written) : Written := { value := -n.value, digits := n.digits }

/-- Takes an item that begins with a number without a sign. -/
def takeAfterNumber (said : Said) (n : Written) : List Token → Option (Said × List Token)
  | .char '/' :: .number false m :: .char '/' :: .number false k :: rest =>
    some (if 4 ≤ n.digits then said.setDate n m.value k.value
      else said.setDate k n.value m.value, rest)
  | .char '/' :: .number false m :: rest =>
    some (said.setDate said.year n.value m.value, rest)
  | .month month :: .number true k :: rest =>
    some (said.setDate (yearOf k) month n.value, rest)
  | .month month :: .number false k :: rest => some (said.setDate k month n.value, rest)
  | .month month :: rest => some (said.setDate said.year month n.value, rest)
  | .number true m :: .unit unit :: rest =>
    some ((said.setNumber n).move (.ofUnit m.value unit) 1, rest)
  | .number true m :: .number true k :: rest =>
    let said := said.setDate n (-m.value) (-k.value)
    match rest with
    | .letterT :: .number false hour :: rest => takeTime said hour.value rest
    | .letterT :: _ => none
    | rest => some (said, rest)
  | .day day :: rest =>
    some ({ said with weekday := (day, n.value), weekdays := said.weekdays + 1 }, rest)
  | .unit unit :: rest => some (takeDirection said (.ofUnit n.value unit) rest)
  | .half half :: rest => takeTime said n.value (.half half :: rest)
  | .char ':' :: rest => takeTime said n.value (.char ':' :: rest)
  | .number true m :: rest => takeTime said n.value (.number true m :: rest)
  | rest => some (said.setNumber n, rest)

/-- Takes an item. -/
def takeItem (said : Said) : List Token → Option (Said × List Token)
  | .number false n :: rest => takeAfterNumber said n rest
  | .number true n :: .unit unit :: rest =>
    some (takeDirection said (.ofUnit n.value unit) rest)
  | .decimal _ seconds nanoseconds :: .unit .second :: rest =>
    some (takeDirection said { seconds, nanoseconds } rest)
  | .month month :: .number true m :: .number true k :: rest =>
    some (said.setDate (yearOf k) month (-m.value), rest)
  | .month month :: .number false m :: .char ',' :: .number false k :: rest =>
    some (said.setDate k month m.value, rest)
  | .month month :: .number false m :: rest => some (said.setDate said.year month m.value, rest)
  | .ordinal n :: .unit unit :: rest => some (takeDirection said (.ofUnit n unit) rest)
  | .ordinal n :: .day day :: rest =>
    some ({ said with weekday := (day, n), weekdays := said.weekdays + 1 }, rest)
  | .unit unit :: rest => some (takeDirection said (.ofUnit 1 unit) rest)
  | .day day :: rest =>
    let rest :=
      match rest with
      | .char ',' :: rest => rest
      | rest => rest
    some ({ said with weekday := (day, 0), weekdays := said.weekdays + 1 }, rest)
  | .shift days :: rest => some (said.move { days } 1, rest)
  | .zone ahead :: rest => takeZone said ahead rest
  | .letterT :: .number true n :: .unit unit :: rest =>
    some ((said.setZone (-25200)).move (.ofUnit n.value unit) 1, rest)
  | .letterT :: rest => some (said.setZone (-25200), rest)
  | .summerZone ahead :: rest => some (said.setZone (ahead + 3600), rest)
  | .ownZone :: .summer :: rest => some ({ said with ownZones := said.ownZones + 1 }, rest)
  | .ownZone :: rest => some ({ said with ownZones := said.ownZones + 1 }, rest)
  | _ => none

/-- Takes all items, in at most some rounds. -/
def takeItems : Nat → Said → List Token → Option Said
  | 0, _, _ => none
  | _, said, [] => some said
  | rounds + 1, said, tokens =>
    match takeItem said tokens with
    | none => none
    | some (said, rest) => takeItems rounds said rest

/-! ### The point in time -/

/-- The hour of the day. -/
def hour? (said : Said) : Option Int :=
  match said.half with
  | some .morning =>
    if 0 < said.hour ∧ said.hour < 12 then some said.hour
    else if said.hour = 12 then some 0 else none
  | some .afternoon =>
    if 0 < said.hour ∧ said.hour < 12 then some (said.hour + 12)
    else if said.hour = 12 then some 12 else none
  | none => if 0 ≤ said.hour ∧ said.hour < 24 then some said.hour else none

/-- The year; one of two digits lies near the year 2000. -/
def fullYear (said : Said) : Int :=
  let year := said.year.value
  if said.year.digits = 2 ∧ 0 ≤ year then year + if year < 69 then 2000 else 1900 else year

/-- The point in time that is meant. -/
def instant? (own : Zone) (said : Said) : Option Instant := do
  if 1 < said.times ∨ 1 < said.dates ∨ 1 < said.weekdays ∨ 1 < said.zones + said.ownZones then
    failure
  let showsTime : Bool :=
    said.times ≠ 0 || said.hasDistance && said.dates = 0 && said.weekdays = 0
  let hour ← if showsTime then said.hour? else some 0
  let minute := if showsTime then said.minute else 0
  let second := if showsTime then said.second else 0
  let nanosecond := if showsTime then said.nanosecond else 0
  let year := said.fullYear
  let days := Date.daysOf year said.month said.day
  let date := Date.ofDays days
  if date.year ≠ year ∨ (date.month : Int) ≠ said.month ∨ (date.day : Int) ≠ said.day then failure
  if minute < 0 ∨ 59 < minute ∨ second < 0 ∨ 59 < second then failure
  let days : Int :=
    if said.weekdays ≠ 0 ∧ said.dates = 0 then
      let (weekday, weeks) := said.weekday
      let isToday : Bool := date.weekday = weekday
      days + ((weekday : Int) - date.weekday + 7) % 7 +
        7 * (weeks - if 0 < weeks && !isToday then 1 else 0)
    else days
  let moved := Date.ofDays days
  let distance := said.distance
  let days := Date.daysOf (moved.year + distance.years) (moved.month + distance.months)
    (moved.day + distance.days)
  let ahead := if said.zones ≠ 0 then said.ahead else own.ahead
  let nanoseconds := nanosecond + distance.nanoseconds
  let seconds := days * 86400 + hour * 3600 + minute * 60 + second - ahead + distance.seconds +
    Int.fdiv nanoseconds 1000000000
  if 67768036191676799 < seconds ∨ seconds < -67768040609740800 then failure
  return { seconds, nanoseconds := (Int.fmod nanoseconds 1000000000).toNat }

end Said

/-- The zone that a text names at its start, and what follows. -/
def takeOwnZone (own : Zone) (text : Text) : Option (Zone × Text) :=
  if Text.beginsWith text "TZ=\"" then
    let name := (text.drop 4).takeWhile (· ≠ '"')
    match text.drop (4 + name.length) with
    | [] => none
    | _ :: rest => some (Zone.ofText name, rest)
  else some (own, text)

/-- The point in time that a text says, at a present and in a zone. -/
def read? (own : Zone) (now : Instant) (text : Text) : Option Instant := do
  let (own, text) ← takeOwnZone own (text.dropWhile isBlank)
  let tokens ← tokens own (text.length + 1) text
  match tokens with
  | [.char '@', .number _ n] =>
    if n.value.natAbs < 67768036191676800 then return { seconds := n.value } else failure
  | [.char '@', .decimal _ seconds nanoseconds] => return { seconds, nanoseconds }
  | tokens =>
    let present := Civil.ofInstant own now
    let said : Said :=
      { year := { value := present.date.year, digits := 0 }, month := present.date.month
        day := present.date.day, hour := present.hour, minute := present.minute
        second := present.second, nanosecond := present.nanosecond }
    let said ← Said.takeItems (tokens.length + 1) said tokens
    said.instant? own

end Clock

end AlignmentTally
