import AlignmentTally.Number.Binary64

/-!
# Numbers as they are written

The number at the start of a text, exactly: a fraction with a sign, or one of the values beyond all
numbers. Decimal and hexadecimal spellings are read, each with a fraction and an exponent.
-/

namespace AlignmentTally

/-- A number with a sign, as an exact fraction, or a value that is no number. -/
inductive Scanned where
  /-- The number `num / den`. -/
  | finite (negative : Bool) (num den : Nat)
  /-- More than every number, or less. -/
  | infinite (negative : Bool)
  /-- Not a number. -/
  | undefined
  deriving DecidableEq, Repr, Inhabited

namespace Scanned

/-- Zero. -/
def zero : Scanned := finite false 0 1

/-- Whether a character is a digit of a base. -/
def isDigit (base : Nat) (c : Char) : Bool :=
  if base = 10 then c.isDigit else c.isDigit || 'a' ≤ c.toLower && c.toLower ≤ 'f'

/-- The value of a digit. -/
def digit (c : Char) : Nat :=
  if c.isDigit then c.toNat - '0'.toNat else c.toLower.toNat - 'a'.toNat + 10

/-- The number that digits of a base write. -/
def digits (base : Nat) (text : List Char) : Nat := text.foldl (fun n c ↦ base * n + digit c) 0

/-- Whether a text begins with a word, in small or capital letters. -/
def begins (word : String) (text : List Char) : Bool :=
  (text.take word.length).map Char.toLower = word.toList

/-- The largest power that is looked at in an exponent. -/
def maxPower : Int := 5000

/-- The exponent at the start of a text, after its letter, and what follows it. -/
def readExponent (small : Char) (text : List Char) : Int × List Char :=
  match text with
  | c :: rest =>
    if c.toLower ≠ small then (0, text)
    else
      let (negative, after) :=
        match rest with
        | '-' :: after => (true, after)
        | '+' :: after => (false, after)
        | after => (false, after)
      let written := after.takeWhile Char.isDigit
      if written.isEmpty then (0, text)
      else
        let n : Int := min (digits 10 (written.take 9)) maxPower
        (if negative then -n else n, after.drop written.length)
  | [] => (0, text)

/-- The digits of a base at the start of a text with their fraction: the digits as one number, the
number of places after the point, and what follows; `none` without any digit. -/
def readDigits? (base : Nat) (text : List Char) : Option (Nat × Nat × List Char) :=
  let whole := text.takeWhile (isDigit base)
  let rest := text.drop whole.length
  let (places, rest) :=
    match rest with
    | '.' :: after =>
      let places := after.takeWhile (isDigit base)
      if whole.isEmpty ∧ places.isEmpty then ([], rest) else (places, after.drop places.length)
    | rest => ([], rest)
  if whole.isEmpty ∧ places.isEmpty then none
  else some (digits base (whole ++ places), places.length, rest)

/-- A fraction times a power of a base. -/
def scale (base num : Nat) (power : Int) : Nat × Nat :=
  if 0 ≤ power then (num * Nat.pow base power.toNat, 1) else (num, Nat.pow base (-power).toNat)

/-- The number at the start of a text without a sign, and what follows it. -/
def readUnsigned? (negative : Bool) (text : List Char) : Option (Scanned × List Char) :=
  let hexadecimal? : Option (Scanned × List Char) :=
    match text with
    | '0' :: x :: after =>
      if x.toLower ≠ 'x' then none
      else do
        let (n, places, rest) ← readDigits? 16 after
        let (power, rest) := readExponent 'p' rest
        let (num, den) := scale 2 n (power - 4 * places)
        return (finite negative num den, rest)
    | _ => none
  if begins "infinity" text then some (infinite negative, text.drop 8)
  else if begins "inf" text then some (infinite negative, text.drop 3)
  else if begins "nan" text then some (undefined, text.drop 3)
  else
    hexadecimal?.or do
      let (n, places, rest) ← readDigits? 10 text
      let (power, rest) := readExponent 'e' rest
      let (num, den) := scale 10 n (power - places)
      return (finite negative num den, rest)

/-- The number at the start of a text, and what follows it. Blanks may come first. -/
def read? (text : List Char) : Option (Scanned × List Char) :=
  match text.dropWhile fun c ↦ " \t\n\r\x0b\x0c".toList.contains c with
  | '-' :: rest => readUnsigned? true rest
  | '+' :: rest => readUnsigned? false rest
  | rest => readUnsigned? false rest

/-- The number nearest to a number that has a significand of some bits, a tie to the even one. -/
def rounded (bits : Nat) : Scanned → Scanned
  | finite negative num den =>
    if num = 0 then finite negative 0 1
    else
      let exponent := Binary64.floorLog2 num den - (bits - 1 : Nat)
      let significand := roundQuotient (num <<< (-exponent).toNat) (den <<< exponent.toNat)
      finite negative (significand <<< exponent.toNat) (1 <<< (-exponent).toNat)
  | other => other

/-- The number nearest to a number among the multiples of a power of a half. -/
def onGrid (places : Nat) : Scanned → Scanned
  | finite negative num den =>
    finite negative (roundQuotient (num <<< places) den) (1 <<< places)
  | other => other

/-- The binary64 number nearest to a number, and whether the number lies within the format. -/
def toBinary64 : Scanned → Scanned × Bool
  | finite negative num den =>
    match Binary64.nearest? num den with
    | some x => (finite negative x.num x.den, num = 0 || x.significand ≠ 0)
    | none => (infinite negative, false)
  | other => (other, true)

/-- The number that a floating-point value is. -/
def ofFloat (x : Float) : Scanned :=
  let bits := x.toBits.toNat
  let negative := bits >>> 63 = 1
  let exponent := (bits >>> 52) % 2048
  let fraction := bits % (1 <<< 52)
  if exponent = 2047 then if fraction = 0 then infinite negative else undefined
  else
    let significand := if exponent = 0 then fraction else fraction + (1 <<< 52)
    let power : Int := (max exponent 1 : Nat) - 1075
    finite negative (significand <<< power.toNat) (1 <<< (-power).toNat)

/-- The floating-point value nearest to a number. -/
def toFloat : Scanned → Float
  | finite negative num den =>
    let magnitude :=
      match Binary64.nearest? num den with
      | some x =>
        -- the significand has at most 53 bits, so both factors are exact
        Float.scaleB (Float.ofNat x.significand) x.exponent
      | none => 1.0 / 0.0
    if negative then -magnitude else magnitude
  | infinite negative => if negative then -1.0 / 0.0 else 1.0 / 0.0
  | undefined => 0.0 / 0.0

end Scanned

end AlignmentTally
