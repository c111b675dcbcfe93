import AlignmentTally.Number.Directive
import AlignmentTally.Machine.Text

/-!
# Values of rules

A value is a number or a text. A text of the input that looks like a number counts as one when it
is compared; a value that was never set counts as the empty text and as zero.
-/

namespace AlignmentTally.Command.Rules

open Machine

/-- A value. -/
inductive Value where
  /-- Never set. -/
  | unset
  /-- A number. -/
  | number (x : Float)
  /-- A text. -/
  | text (text : Text)
  /-- A text of the input that looks like a number. -/
  | either (text : Text) (x : Float)
  deriving Inhabited

namespace Value

/-- Whether a character is a blank around a number. -/
def isBlank (c : Char) : Bool := " \t\n\r\x0b\x0c".toList.contains c

/-- The number that a text begins with, or zero. -/
def numberOf (text : Text) : Float :=
  match Scanned.read? text with
  | some (x, _) => x.toFloat
  | none => 0

/-- The value of a text of the input. -/
def ofInput (input : Text) : Value :=
  match Scanned.read? input with
  | some (x, rest) => if rest.all isBlank then either input x.toFloat else .text input
  | none => .text input

/-- The greatest integer that is written in full. -/
def greatest : Float := 2147483647.0

/-- The integer that a number is, if it is one that is written in full. -/
def toInt? (x : Float) : Option Int :=
  if x.floor == x ∧ -greatest ≤ x ∧ x ≤ greatest then some x.toInt64.toInt else none

/-- A number under a format. -/
def write (format : Text) (x : Float) : Text :=
  match toInt? x with
  | some n => Text.ofInt n
  | none =>
    if x.isNaN then "-nan"
    else
      let front := format.takeWhile (· ≠ '%')
      let (directive, back) := Directive.read "hlL".toList (format.drop (front.length + 1))
      let number : Option Amount → Option Int
        | some (.fixed n) => some n
        | _ => none
      let layout := directive.layout (number directive.width) (number directive.precision)
      let body :=
        match directive.conversion with
        | some 'd' | some 'i' => layout.integer (Float.toInt64 x).toInt
        | some conversion => layout.real conversion (.ofFloat x)
        | none => []
      front ++ body ++ back

/-- A value as a number. -/
def toNumber : Value → Float
  | unset => 0
  | number x => x
  | .text written => numberOf written
  | either _ x => x

/-- A value as a text, numbers under a format. -/
def toText (format : Text) : Value → Text
  | unset => []
  | number x => write format x
  | .text written => written
  | either written _ => written

/-- Whether a value is true. -/
def isTrue : Value → Bool
  | unset => false
  | number x => x != 0
  | .text written => !written.isEmpty
  | either _ x => x != 0

/-- The value of a condition. -/
def ofBool (holds : Bool) : Value := number (if holds then 1 else 0)

/-- The value of a natural number. -/
def ofNat (n : Nat) : Value := number (Float.ofNat n)

/-- Whether a value is compared as a number. -/
def isNumeric : Value → Bool
  | .text _ => false
  | _ => true

/-- Compares two values: as numbers if both are such, otherwise as texts. -/
def compare (format : Text) (numbers : Float → Float → Bool) (texts : Ordering → Bool)
    (a b : Value) : Value :=
  if a.isNumeric ∧ b.isNumeric then ofBool (numbers a.toNumber b.toNumber)
  else
    let (a, b) := (a.toText format, b.toText format)
    ofBool (texts (if a = b then .eq else if Text.before a b then .lt else .gt))

/-- A number without its fraction. -/
def truncate (x : Float) : Float := if x < 0 then x.ceil else x.floor

/-- What is left of a number after it was divided by another one, with the sign of the first. -/
def remainder (x y : Float) : Float :=
  match Scanned.ofFloat x, Scanned.ofFloat y with
  | .finite negative num den, .finite _ num' den' =>
    if num' = 0 then 0.0 / 0.0
    else (Scanned.finite negative ((num * den') % (num' * den)) (den * den')).toFloat
  | .finite .., .infinite _ => x
  | _, _ => 0.0 / 0.0

/-- A number as an integer of 64 bits. -/
def toInteger (x : Float) : Int :=
  if x.isNaN then -9223372036854775808
  else if 9223372036854775808.0 ≤ x then 9223372036854775807
  else if x ≤ -9223372036854775808.0 then -9223372036854775808
  else x.toInt64.toInt

end Value

end AlignmentTally.Command.Rules
