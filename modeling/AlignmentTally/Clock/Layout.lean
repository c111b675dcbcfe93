import AlignmentTally.Clock.Civil

/-!
# Layouts of dates and times

A layout is a text with directives: a percent sign, flags, a width and a letter that says which part
of a date or time is written. Each letter has its own usual width and filling; the flags change the
filling or the case, and whatever is no directive stands for itself.
-/

namespace AlignmentTally

open Machine

namespace Civil

/-- The names of the days. -/
def dayNames : List String :=
  ["Sunday", "Monday", "Tuesday", "Wednesday", "Thursday", "Friday", "Saturday"]

/-- The names of the months. -/
def monthNames : List String :=
  ["January", "February", "March", "April", "May", "June", "July", "August", "September",
    "October", "November", "December"]

/-- The name of the day. -/
def dayName (time : Civil) : Text := ((dayNames[time.date.weekday]?).getD "").toList

/-- The name of the month. -/
def monthName (time : Civil) : Text := ((monthNames[time.date.month - 1]?).getD "").toList

/-- A directive without its letter. -/
structure Directive where
  /-- The flag that says how to fill: `_`, `-`, `+` or `0`. -/
  fill : Option Char := none
  /-- The width. -/
  width : Option Nat := none
  /-- Whether letters are to be capital ones. -/
  raises : Bool := false
  /-- Whether the case is to be changed. -/
  swaps : Bool := false
  /-- The mark before the letter, `E` or `O`. -/
  mark : Option Char := none

namespace Directive

/-- A text in the width of a directive. -/
def pad (directive : Directive) (text : Text) : Text :=
  match directive.fill, directive.width with
  | some '-', _ | _, none => text
  | some '0', some width | some '+', some width => Text.padLeft '0' width text
  | _, some width => Text.padLeft ' ' width text

/-- Words in the width of a directive. -/
def words (directive : Directive) (text : Text) : Text :=
  directive.pad (if directive.raises then text.map Char.toUpper else text)

/-- Words whose capital letters are made small. -/
def small (directive : Directive) (text : Text) : Text := directive.pad (text.map Char.toLower)

/-- Digits in the width of a directive, which by default are some, after a sign if there is one. -/
def digits (directive : Directive) (usual : Char) (width : Nat) (sign : Option Char)
    (text : Text) : Text :=
  let fill := directive.fill.getD usual
  let width := directive.width.getD width
  let missing := if fill = '-' then 0 else width - sign.toList.length - text.length
  if fill = '_' then List.replicate missing ' ' ++ sign.toList ++ text
  else sign.toList ++ List.replicate missing '0' ++ text

/-- A number. -/
def number (directive : Directive) (width n : Nat) : Text :=
  directive.digits '0' width none (Text.ofNat n)

/-- A number that is filled with blanks. -/
def spaced (directive : Directive) (width n : Nat) : Text :=
  directive.digits '_' width none (Text.ofNat n)

/-- A number that may be negative. -/
def signed (directive : Directive) (width : Nat) (n : Int) : Text :=
  directive.digits '0' width (if n < 0 then some '-' else none) (Text.ofNat n.natAbs)

/-- A number of years. If it is filled with the flag for that, a sign shows that it has more digits
than usual. -/
def years (directive : Directive) (width : Nat) (isNegative : Bool) (n : Nat) : Text :=
  let isLong : Bool :=
    (if width = 2 then 99 else 9999) < n || directive.width.any (width < ·)
  let sign : Option Char :=
    if isNegative then some '-'
    else if directive.fill = some '+' && isLong then some '+'
    else none
  directive.digits '0' width sign (Text.ofNat n)

/-- How far clocks are ahead of UTC, with a number of colons between hours, minutes and seconds;
three of them stand for as few parts as possible. -/
def ahead (directive : Directive) (colons : Nat) (ahead : Int) : Text :=
  let sign := if ahead < 0 then '-' else '+'
  let n := ahead.natAbs
  let (hours, minutes, seconds) := (n / 3600, n / 60 % 60, n % 60)
  let two (n : Nat) : Text := Text.padLeft '0' 2 (Text.ofNat n)
  let write (width : Nat) (text : Text) : Text := directive.digits '0' width (some sign) text
  let colons :=
    if colons < 3 then colons else if seconds ≠ 0 then 2 else if minutes ≠ 0 then 1 else 3
  match colons with
  | 0 => write 5 (Text.ofNat (hours * 100 + minutes))
  | 1 => write 6 (Text.ofNat hours ++ ':' :: two minutes)
  | 2 => write 9 (Text.ofNat hours ++ ':' :: two minutes ++ ':' :: two seconds)
  | _ => write 3 (Text.ofNat hours)

/-- The fraction of a second. Its first digits are written as many as the width says; zeros are
added, or blanks after the last digit that is not zero. -/
def fraction (directive : Directive) (nanosecond : Nat) : Text :=
  let width := match directive.width with
    | none | some 0 => 9
    | some width => width
  let digits := (Text.padLeft '0' 9 (Text.ofNat nanosecond)).take width
  let kept := Text.trimEnd (· = '0') digits
  let kept := if kept.isEmpty then ['0'] else kept
  match directive.fill.getD '0' with
  | '-' => kept
  | '_' => kept ++ List.replicate (width - kept.length) ' '
  | _ => kept ++ List.replicate (width - kept.length) '0'

end Directive

/-- Whether a mark may stand before a letter. -/
def allowsMark (mark : Option Char) (letter : Char) : Bool :=
  match mark with
  | none => true
  | some 'E' => "cCxXyY".toList.contains letter
  | some _ => "bBhdeHIjklmMqSUVwWgGuCy".toList.contains letter

/-- The layout that a letter stands for. -/
def layout? (letter : Char) : Option String :=
  [('c', "%a %b %e %H:%M:%S %Y"), ('D', "%m/%d/%y"), ('x', "%m/%d/%y"), ('r', "%I:%M:%S %p"),
    ('R', "%H:%M"), ('T', "%H:%M:%S"), ('X', "%H:%M:%S")].lookup letter

/-- What a directive with a letter that stands for no other layout writes. -/
def writePart (time : Civil) (directive : Directive) (letter : Char) : Option Text :=
  let date := time.date
  let raised : Directive := { directive with raises := directive.raises || directive.swaps }
  let noon : Text := if 12 ≤ time.hour then "PM".toList else "AM".toList
  let (isoYear, isoWeek) := date.isoWeek
  let week (first : Nat) : Nat := (date.yearDay + 7 - (date.weekday + 7 - first) % 7) / 7
  let shortYear (year : Int) : Nat := if year < 0 then (-year).toNat % 100 else year.toNat % 100
  match letter with
  | 'a' => some (raised.words (time.dayName.take 3))
  | 'A' => some (raised.words time.dayName)
  | 'b' | 'h' => some (raised.words (time.monthName.take 3))
  | 'B' => some (raised.words time.monthName)
  | 'C' =>
    let century := if date.year < 0 then (-date.year).toNat / 100 else date.year.toNat / 100
    some (directive.years 2 (date.year < 0) century)
  | 'd' => some (directive.number 2 date.day)
  | 'e' => some (directive.spaced 2 date.day)
  | 'g' => some (directive.years 2 false (shortYear isoYear))
  | 'G' => some (directive.years 4 (isoYear < 0) isoYear.natAbs)
  | 'H' => some (directive.number 2 time.hour)
  | 'I' => some (directive.number 2 time.hourOfTwelve)
  | 'j' => some (directive.number 3 (date.yearDay + 1))
  | 'k' => some (directive.spaced 2 time.hour)
  | 'l' => some (directive.spaced 2 time.hourOfTwelve)
  | 'm' => some (directive.number 2 date.month)
  | 'M' => some (directive.number 2 time.minute)
  | 'n' => some (directive.words ['\n'])
  | 'N' => some (directive.fraction time.nanosecond)
  | 'p' => some (if directive.swaps then directive.small noon else directive.words noon)
  | 'P' => some (directive.small noon)
  | 'q' => some (directive.number 1 ((date.month - 1) / 3 + 1))
  | 's' => some (directive.signed 1 time.seconds)
  | 'S' => some (directive.number 2 time.second)
  | 't' => some (directive.words ['\t'])
  | 'u' => some (directive.number 1 (if date.weekday = 0 then 7 else date.weekday))
  | 'U' => some (directive.number 2 (week 0))
  | 'V' => some (directive.number 2 isoWeek)
  | 'w' => some (directive.number 1 date.weekday)
  | 'W' => some (directive.number 2 (week 1))
  | 'y' => some (directive.years 2 false (shortYear date.year))
  | 'Y' => some (directive.years 4 (date.year < 0) date.year.natAbs)
  | 'z' => some (directive.ahead 0 time.zone.ahead)
  | 'Z' =>
    some (if directive.swaps then directive.small time.zone.name
      else directive.words time.zone.name)
  | '%' => some (directive.words ['%'])
  | _ => none

/-- Takes the flags of a directive. -/
def takeFlags : Text → Directive → Directive × Text
  | [], directive => (directive, [])
  | c :: rest, directive =>
    match c with
    | '_' | '-' | '+' | '0' => takeFlags rest { directive with fill := some c }
    | '^' => takeFlags rest { directive with raises := true }
    | '#' => takeFlags rest { directive with swaps := true }
    | _ => (directive, c :: rest)

/-- Takes a directive without its letter. -/
def takeDirective (text : Text) : Directive × Text :=
  let (directive, text) := takeFlags text {}
  let digits := text.takeWhile Char.isDigit
  let text := text.drop digits.length
  let directive :=
    if digits.isEmpty then directive
    else { directive with width := some (Text.natOfDigits 10 digits) }
  match text with
  | 'E' :: rest => ({ directive with mark := some 'E' }, rest)
  | 'O' :: rest => ({ directive with mark := some 'O' }, rest)
  | text => (directive, text)

/-- The text of a layout, in at most some rounds. `year` is a directive whose filling and width the
numbers of years have by default; only the first number has the width. -/
def write (time : Civil) (raises : Bool) (year : Directive) : Nat → Text → Text
  | 0, _ => []
  | _, [] => []
  | rounds + 1, '%' :: text =>
    let (directive, rest) := takeDirective text
    let plain := directive
    let directive := { directive with raises := directive.raises || raises }
    let later : Directive := { year with width := none }
    let wrong (size : Nat) : Text :=
      let size := text.length - rest.length + size
      directive.words ('%' :: text.take size) ++
        write time raises later rounds (text.drop size)
    match rest with
    | [] => wrong 0
    | ':' :: _ =>
      let colons := (rest.takeWhile (· = ':')).length
      match rest.drop colons with
      | 'z' :: rest =>
        if colons ≤ 3 then
          directive.ahead colons time.zone.ahead ++ write time raises later rounds rest
        else wrong (colons + 1)
      | _ => wrong 1
    | 'F' :: rest =>
      if plain.mark.isSome then wrong 1
      else
        let inner : Directive :=
          match directive.fill, directive.width with
          | none, none => { fill := some '+', width := some 4 }
          | fill, width => { fill, width := some (width.getD 0 - 6) }
        directive.pad (write time directive.raises inner rounds "%Y-%m-%d".toList) ++
          write time raises later rounds rest
    | letter :: rest =>
      if ¬ allowsMark plain.mark letter then wrong 1
      else
        match layout? letter with
        | some layout =>
          directive.pad
              (write time directive.raises { fill := directive.fill } rounds layout.toList) ++
            write time raises later rounds rest
        | none =>
          let isYear : Bool := "CgGyY".toList.contains letter
          let directive : Directive :=
            if isYear then
              { directive with
                fill := directive.fill.orElse fun _ ↦ year.fill
                width := directive.width.orElse fun _ ↦ year.width }
            else directive
          match writePart time directive letter with
          | some written => written ++ write time raises later rounds rest
          | none => wrong 1
  | rounds + 1, c :: text => c :: write time raises { year with width := none } rounds text

/-- What a layout writes. -/
def inLayout (time : Civil) (layout : Text) : Text :=
  time.write false {} (layout.length + 40) layout

end Civil

end AlignmentTally
