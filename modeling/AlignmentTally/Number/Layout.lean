import AlignmentTally.Number.Scanned
import AlignmentTally.Number.Shortest

/-!
# Numbers in fields

How a number is laid out in a field of a format: with a sign, a width, a number of places, and the
digits of the number rounded to those places, a tie to the even digit.
-/

namespace AlignmentTally

/-- The layout of one value. -/
structure Layout where
  /-- Whether the value stands at the left of its field. -/
  left : Bool := false
  /-- Whether the field is filled with zeros. -/
  zeros : Bool := false
  /-- Whether a number that is not negative gets a plus. -/
  plus : Bool := false
  /-- Whether a number that is not negative gets a blank. -/
  blank : Bool := false
  /-- Whether the base or the point is always shown. -/
  alternate : Bool := false
  /-- The least width of the field. -/
  width : Nat := 0
  /-- The most characters of a text, or the number of digits or places. -/
  precision : Option Nat := none
  deriving Repr, Inhabited

namespace Layout

/-- Fills a field. -/
def fill (layout : Layout) (text : List Char) : List Char :=
  let missing := List.replicate (layout.width - text.length) ' '
  if layout.left then text ++ missing else missing ++ text

/-- The sign of a number. -/
def sign (layout : Layout) (negative : Bool) : List Char :=
  if negative then ['-'] else if layout.plus then ['+'] else if layout.blank then [' '] else []

/-- A number in its field, with what stands in front of its digits. -/
def place (layout : Layout) (front digits : List Char) (mayFill : Bool) : List Char :=
  if layout.zeros ∧ ¬ layout.left ∧ mayFill then
    front ++ List.replicate (layout.width - front.length - digits.length) '0' ++ digits
  else layout.fill (front ++ digits)

/-- At least as many digits as are asked for. -/
def atLeast (layout : Layout) (digits : List Char) : List Char :=
  match layout.precision with
  | some 0 => if digits = ['0'] then [] else digits
  | some n => List.replicate (n - digits.length) '0' ++ digits
  | none => digits

/-- An integer with its sign. -/
def integer (layout : Layout) (n : Int) : List Char :=
  let digits := layout.atLeast (Nat.toDigits 10 n.natAbs)
  layout.place (layout.sign (n < 0)) digits layout.precision.isNone

/-- A number without sign in a base: 8, 10 or 16. -/
def natural (layout : Layout) (base : Nat) (capital : Bool) (n : Nat) : List Char :=
  let digits := Nat.toDigits base n
  let digits := layout.atLeast (if capital then digits.map Char.toUpper else digits)
  let front :=
    if layout.alternate ∧ base = 16 ∧ n ≠ 0 then if capital then ['0', 'X'] else ['0', 'x'] else []
  let digits :=
    if layout.alternate ∧ base = 8 ∧ digits.head? ≠ some '0' then '0' :: digits else digits
  layout.place front digits layout.precision.isNone

/-- A text, cut to its precision. -/
def text (layout : Layout) (text : List Char) : List Char :=
  layout.fill (layout.precision.elim text text.take)

/-- Digits with a point before the last of them. -/
def withPoint (digits : List Char) (places : Nat) (showsPoint : Bool) : List Char :=
  let digits := List.replicate (places + 1 - digits.length) '0' ++ digits
  let whole := digits.take (digits.length - places)
  if places = 0 ∧ ¬ showsPoint then whole
  else whole ++ '.' :: digits.drop (digits.length - places)

/-- A number with a fixed number of places. -/
def fixedDigits (num den places : Nat) (showsPoint : Bool) : List Char :=
  withPoint (Nat.toDigits 10 (roundQuotient (num * tenTo places) den)) places showsPoint

/-- A number as one digit, places and a power of ten: the digits as one number and the power. -/
def scientific (num den places : Nat) : Nat × Int :=
  if num = 0 then (0, 0)
  else
    let power := Binary64.floorLog10 num den
    let up := (places : Int) - power
    let digits := roundQuotient (num * tenTo up.toNat) (den * tenTo (-up).toNat)
    if digits = tenTo (places + 1) then (tenTo places, power + 1) else (digits, power)

/-- A power of ten with its sign and at least two digits. -/
def exponent (mark : Char) (power : Int) : List Char :=
  let digits := Nat.toDigits 10 power.natAbs
  mark :: (if power < 0 then '-' else '+') :: (if digits.length < 2 then '0' :: digits else digits)

/-- A text without zeros at the end of its fraction, and without a point that ends it. -/
def withoutZeros (text : List Char) : List Char :=
  if text.contains '.' then
    let kept := text.reverse.dropWhile (· = '0')
    (if kept.head? = some '.' then kept.drop 1 else kept).reverse
  else text

/-- The digits of a number in the shorter of the two notations. -/
def generalDigits (layout : Layout) (mark : Char) (num den : Nat) : List Char :=
  let places := max (layout.precision.getD 6) 1
  let (digits, power) := scientific num den (places - 1)
  let trim := if layout.alternate then id else withoutZeros
  if power < -4 ∨ (places : Int) ≤ power then
    trim (withPoint (Nat.toDigits 10 digits) (places - 1) layout.alternate) ++ exponent mark power
  else trim (fixedDigits num den ((places : Int) - 1 - power).toNat layout.alternate)

/-- The hexadecimal digits of a number: one, a point and as many as are needed. -/
def hexadecimalDigits (capital : Bool) (num den : Nat) : List Char :=
  let power := if num = 0 then 0 else Binary64.floorLog2 num den
  let significand :=
    (num <<< ((52 : Int) - power).toNat) / (den <<< (power - 52).toNat)
  let digits := Nat.toDigits 16 significand
  let digits := if num = 0 then ['0'] else digits
  let text := withoutZeros (digits.take 1 ++ '.' :: digits.drop 1)
  let powerText := (if power < 0 then '-' else '+') :: Nat.toDigits 10 power.natAbs
  let all := ['0', 'x'] ++ text ++ 'p' :: powerText
  if capital then all.map Char.toUpper else all

/-- A real number under one of the conversions `e`, `f`, `g` and `a`. -/
def real (layout : Layout) (conversion : Char) (x : Scanned) : List Char :=
  let capital := conversion.isUpper
  let recase := fun text : List Char ↦ if capital then text.map Char.toUpper else text
  match x with
  | .undefined => layout.fill (recase (layout.sign false ++ "nan".toList))
  | .infinite negative => layout.fill (recase (layout.sign negative ++ "inf".toList))
  | .finite negative num den =>
    let places := layout.precision.getD 6
    let digits :=
      match conversion.toLower with
      | 'f' => fixedDigits num den places layout.alternate
      | 'e' =>
        let (digits, power) := scientific num den places
        withPoint (Nat.toDigits 10 digits) places layout.alternate ++ exponent 'e' power
      | 'a' => hexadecimalDigits false num den
      | _ => generalDigits layout 'e' num den
    layout.place (layout.sign negative) (recase digits) true

end Layout

end AlignmentTally
