import AlignmentTally.Number.Binary64
import AlignmentTally.Toml.Basic

/-!
# TOML numbers, truth values and dates

A value that is written without quotes, brackets or braces is one word of letters, digits and the
signs `+ - _ . :`. What such a word means depends on nothing else, except that a date and a time
may be separated by a space.
-/

namespace AlignmentTally.Toml

/-- Whether a character can stand in a word. -/
def isWordChar (c : Char) : Bool :=
  c.isAlphanum || c = '+' || c = '-' || c = '_' || c = '.' || c = ':'

/-- Digits with single underscores between them, without the underscores. -/
def digitsOf? (isDigit : Char → Bool) : List Char → Option (List Char)
  | [] => none
  | [c] => if isDigit c then some [c] else none
  | c :: '_' :: rest => if isDigit c then (digitsOf? isDigit rest).map (c :: ·) else none
  | c :: rest => if isDigit c then (digitsOf? isDigit rest).map (c :: ·) else none

/-- Whether a character is a hexadecimal digit, in either case. -/
def isHexDigit (c : Char) : Bool := c.isDigit || ('a' ≤ c && c ≤ 'f') || ('A' ≤ c && c ≤ 'F')

/-- The value of a digit in any base up to sixteen. -/
def digitValue (c : Char) : Nat :=
  if c.isDigit then c.toNat - '0'.toNat
  else if 'a' ≤ c then c.toNat - 'a'.toNat + 10
  else c.toNat - 'A'.toNat + 10

/-- The number that digits write in a base. -/
def numberOf (base : Nat) (digits : List Char) : Nat :=
  digits.foldl (fun n c ↦ base * n + digitValue c) 0

/-- A word without its sign, and whether the sign was a minus. -/
def splitSign : List Char → Bool × List Char
  | '-' :: rest => (true, rest)
  | '+' :: rest => (false, rest)
  | word => (false, word)

/-- The digits of a decimal integer: no zero in front of others. -/
def wholeDigits? (word : List Char) : Option (List Char) := do
  let digits ← digitsOf? Char.isDigit word
  if 1 < word.length ∧ word.head? = some '0' then none else return digits

/-- The least integer: 64 bits with sign. -/
def minInteger : Int := -9223372036854775808

/-- The greatest integer: 64 bits with sign. -/
def maxInteger : Int := 9223372036854775807

/-- The integer that a word writes, within 64 bits: decimal with a sign, or in base 16, 8 or 2
without one. -/
def integer? (word : List Char) : Option Int := do
  let value ←
    match word with
    | '0' :: 'x' :: digits => do some (numberOf 16 (← digitsOf? isHexDigit digits) : Int)
    | '0' :: 'o' :: digits => do
      some (numberOf 8 (← digitsOf? (fun c ↦ '0' ≤ c && c ≤ '7') digits) : Int)
    | '0' :: 'b' :: digits => do
      some (numberOf 2 (← digitsOf? (fun c ↦ c = '0' || c = '1') digits) : Int)
    | word =>
      let (negative, digits) := splitSign word
      do
        let n : Int := numberOf 10 (← wholeDigits? digits)
        some (if negative then -n else n)
  if minInteger ≤ value ∧ value ≤ maxInteger then some value else none

/-! ### Floats -/

/-- Whether `digits · 10 ^ exponent` rounds to a finite binary64 number. -/
def isFinite (digits : List Char) (exponent : Int) : Bool :=
  let significand := numberOf 10 digits
  -- the number lies between `10 ^ (top - 1)` and `10 ^ top`
  let top := exponent + (digits.dropWhile (· = '0')).length
  if significand = 0 ∨ top < -400 then true
  else if 400 < top then false
  else
    (Binary64.nearest? (significand * tenTo exponent.toNat) (tenTo (-exponent).toNat)).isSome

/-- The digits of an exponent with their sign. -/
def exponent? (word : List Char) : Option Int := do
  let (negative, digits) := splitSign word
  let n : Int := numberOf 10 (← digitsOf? Char.isDigit digits)
  return if negative then -n else n

/-- Whether a word is a float: a decimal integer with a fraction, an exponent or both, or an
infinity or no number. A positive one must not be too large. -/
def isFloat (word : List Char) : Bool :=
  let (negative, unsigned) := splitSign word
  if unsigned = "inf".toList ∨ unsigned = "nan".toList then true
  else
    let isMark := fun c ↦ c = 'e' || c = 'E'
    let mantissa := unsigned.takeWhile (!isMark ·)
    let power := (unsigned.dropWhile (!isMark ·)).tail?
    let whole := mantissa.takeWhile (· ≠ '.')
    let fraction := (mantissa.dropWhile (· ≠ '.')).tail?
    let digits := do
      let whole ← wholeDigits? whole
      let fraction ← fraction.elim (some []) (digitsOf? Char.isDigit)
      let exponent ← power.elim (some 0) exponent?
      return (whole ++ fraction, exponent - fraction.length)
    match digits with
    | some (digits, exponent) =>
      (fraction.isSome || power.isSome) && (negative || isFinite digits exponent)
    | none => false

/-! ### Dates and times -/

/-- The number of a fixed count of digits, and the rest. -/
def fixedDigits? (count : Nat) (word : List Char) : Option (Nat × List Char) :=
  let digits := word.take count
  if digits.length = count ∧ digits.all Char.isDigit then
    some (numberOf 10 digits, word.drop count)
  else none

/-- The number of two digits from `low` to `high`, and the rest. -/
def field? (low high : Nat) (word : List Char) : Option (Nat × List Char) := do
  let (n, rest) ← fixedDigits? 2 word
  if low ≤ n ∧ n ≤ high then return (n, rest) else none

/-- The rest of a word after a character. -/
def after? (c : Char) : List Char → Option (List Char)
  | d :: rest => if d = c then some rest else none
  | [] => none

/-- The number of days of a month. -/
def daysIn (year month : Nat) : Nat :=
  if month = 2 then
    if year % 4 = 0 ∧ (year % 100 ≠ 0 ∨ year % 400 = 0) then 29 else 28
  else if month = 4 ∨ month = 6 ∨ month = 9 ∨ month = 11 then 30
  else 31

/-- The rest of a word after a date of the calendar. -/
def afterDate? (word : List Char) : Option (List Char) := do
  let (year, rest) ← fixedDigits? 4 word
  let (month, rest) ← field? 1 12 (← after? '-' rest)
  let (day, rest) ← field? 1 31 (← after? '-' rest)
  if day ≤ daysIn year month then return rest else none

/-- The rest of a word after a time of day. -/
def afterTime? (word : List Char) : Option (List Char) := do
  let (_, rest) ← field? 0 23 word
  let (_, rest) ← field? 0 59 (← after? ':' rest)
  let (_, rest) ← field? 0 60 (← after? ':' rest)
  match rest with
  | '.' :: fraction =>
    if (fraction.head?.map Char.isDigit).getD false then return fraction.dropWhile Char.isDigit
    else none
  | rest => return rest

/-- Whether a word is a distance from universal time, or empty. -/
def isOffset : List Char → Bool
  | [] => true
  | ['Z'] => true
  | ['z'] => true
  | c :: rest =>
    let fields := do
      let (_, rest) ← field? 0 23 rest
      let (_, rest) ← field? 0 59 (← after? ':' rest)
      return rest
    (c = '+' || c = '-') && fields = some []

/-- Whether a word is a time of day with a distance from universal time. -/
def isTimeWithOffset (word : List Char) : Bool := ((afterTime? word).map isOffset).getD false

/-- Whether a word is a date, a time, or both with a `T` between them. -/
def isDateTime (word : List Char) : Bool :=
  match afterDate? word with
  | some [] => true
  | some (c :: rest) => (c = 'T' || c = 't') && isTimeWithOffset rest
  | none => afterTime? word = some []

/-- The value that a word writes. -/
def ofWord? (word : List Char) : Option Toml :=
  if word = "true".toList then some (.boolean true)
  else if word = "false".toList then some (.boolean false)
  else if isDateTime word then some (.dateTime (String.ofList word))
  else
    match integer? word with
    | some n => some (.integer n)
    | none => if isFloat word then some (.float (String.ofList word)) else none

/-- Reads a value that is written as a word, or as a date and a time with a space between. -/
def readWord (text : List Char) : Option (Toml × List Char) :=
  let word := text.takeWhile isWordChar
  let rest := text.dropWhile isWordChar
  match afterDate? word, rest with
  | some [], ' ' :: more =>
    let time := more.takeWhile isWordChar
    if (time.head?.map Char.isDigit).getD false then
      if isTimeWithOffset time then
        some (.dateTime (String.ofList (word ++ ' ' :: time)), more.dropWhile isWordChar)
      else none
    else some (.dateTime (String.ofList word), rest)
  | _, _ => (ofWord? word).map (·, rest)

end AlignmentTally.Toml
