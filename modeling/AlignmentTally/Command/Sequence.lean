import AlignmentTally.Command.Options
import AlignmentTally.Number.Directive

/-!
# Sequences of numbers

The numbers from a first one to a last one by a step. Whole numbers are exact; others are added up
with significands of `significandBits` bits, and a number that comes out beyond the last one is
written all the same if it reads like the last one.
-/

namespace AlignmentTally.Command

open Machine

namespace Sequence

/-- The significand of the numbers that are added up. -/
def significandBits : Nat := 64

/-- A number that was given. -/
structure Given where
  /-- The number. -/
  value : Scanned
  /-- The characters that it takes. -/
  width : Int := 0
  /-- The places after its point, unless they cannot be told. -/
  places : Option Int := none
  deriving Inhabited

/-- The width and the places of a decimal number that is written with an exponent or without. -/
def measure (text : Text) (places : Option Int) : Int × Option Int :=
  let whole := text.takeWhile (· ≠ '.')
  let hasPoint := whole.length < text.length
  let fraction := (text.drop (whole.length + 1)).takeWhile fun c ↦ c ≠ 'e' && c ≠ 'E'
  let places := if hasPoint then some (fraction.length : Int) else places
  let pointWidth : Int :=
    if ¬ hasPoint then 0
    else if fraction.isEmpty then -1
    else if whole.getLast?.any Char.isDigit then 0
    else 1
  let width : Int := text.length + pointWidth
  let mark := text.takeWhile fun c ↦ c ≠ 'e' && c ≠ 'E'
  if mark.length = text.length then (width, places)
  else
    let power := (Scanned.readExponent 'e' (text.drop mark.length)).1
    let known := places.getD (1 <<< 31)
    let places := if power < 0 then known - power else known - min known power
    let width := width - (text.length - mark.length : Nat)
    let width :=
      if power < 0 then
        width + (if ¬ hasPoint ∨ fraction.isEmpty ∧ mark.getLast? = some '.' then 1 else 0) - power
      else
        width - (if hasPoint ∧ places = 0 ∧ ¬ fraction.isEmpty then 1 else 0) +
          (power - min (fraction.length : Int) power)
    (width, some places)

/-- Reads a number that is given, rounded to some bits. -/
def given (bits : Nat) (text : Text) : Work Given := do
  match Scanned.read? text with
  | some (.undefined, []) =>
    Work.misuse ("invalid 'not-a-number' argument: " ++ Quoted.word text) 1
  | some (value, []) =>
    let text := text.dropWhile fun c ↦ c = '+' || " \t\n\r\x0b\x0c".toList.contains c
    let places : Option Int := if text.any fun c ↦ c = '.' || c = 'p' then none else some 0
    let isDecimal := !text.any fun c ↦ c = 'x' || c = 'X'
    match value, isDecimal with
    | .finite .., true =>
      let (width, places) := measure text places
      return ⟨value.rounded bits, width, places⟩
    | value, _ => return ⟨value.rounded bits, 0, places⟩
  | _ => Work.misuse ("invalid floating point argument: " ++ Quoted.word text) 1

/-- Whether a number is less than another one. -/
def less : Scanned → Scanned → Bool
  | .infinite true, b => b ≠ .infinite true
  | a, .infinite false => a ≠ .infinite false
  | .finite negative num den, .finite negative' num' den' =>
    let signed (negative : Bool) (n : Nat) : Int := if negative then -n else n
    signed negative (num * den') < signed negative' (num' * den)
  | _, _ => false

/-- A number and some steps from it, rounded to some bits. -/
def term (bits : Nat) (first step : Scanned) (count : Nat) : Scanned :=
  match first, step with
  | .finite negative num den, .finite negative' num' den' =>
    let signed (negative : Bool) (n : Nat) : Int := if negative then -n else n
    match (Scanned.finite negative' (num' * count) den').rounded bits with
    | .finite _ num' den' =>
      let total := signed negative (num * den') + signed negative' (num' * den)
      (Scanned.finite (total < 0) total.natAbs (den * den')).rounded bits
    | other => other
  | .finite .., step => step
  | first, _ => first

/-- How numbers are written. -/
structure Shape where
  /-- The significand of the numbers. -/
  bits : Nat
  /-- What stands in front of each number. -/
  front : Text := []
  /-- The number. -/
  write : Scanned → Text
  /-- What stands behind it. -/
  back : Text := []

/-- Whether a number beyond the last one reads like the last one, and unlike the one before. -/
def readsLikeLast (shape : Shape) (previous x last : Scanned) : Bool :=
  match Scanned.read? (shape.write x) with
  | some (value, []) =>
    let value := value.rounded shape.bits
    !less value last && !less last value && shape.write previous ≠ shape.write x
  | _ => false

/-- Writes the numbers after some of them. -/
def putRest (shape : Shape) (separator : Text) (first step last : Scanned) :
    Nat → Nat → Scanned → Work Unit
  | 0, _, _ => return ()
  | rounds + 1, count, previous => do
    if (← get).broken.isSome then return
    let x := term shape.bits first step count
    let isBeyond := if less step .zero then less x last else less last x
    if isBeyond ∧ ¬ readsLikeLast shape previous x last then return
    Work.put (separator ++ shape.front ++ shape.write x ++ shape.back)
    if ¬ isBeyond then putRest shape separator first step last rounds (count + 1) x

/-- A text of a format, in which two percent signs stand for one, up to a directive. -/
def plainText : Text → Text × Text
  | '%' :: '%' :: rest =>
    let (text, rest) := plainText rest
    ('%' :: text, rest)
  | '%' :: rest => ([], '%' :: rest)
  | c :: rest =>
    let (text, rest) := plainText rest
    (c :: text, rest)
  | [] => ([], [])

/-- The shape that a format asks for. -/
def shapeOf (bits : Nat) (format : Text) : Work Shape := do
  let quoted : Text := "format " ++ Quoted.word format
  let (front, rest) := plainText format
  if rest.isEmpty then Work.fail (quoted ++ " has no % directive") 1
  let (directive, rest) := Directive.read ['L'] (rest.drop 1)
  match directive.conversion with
  | none => Work.fail (quoted ++ " ends in %") 1
  | some conversion =>
    if ¬ "efgaEFGA".toList.contains conversion then
      Work.fail (quoted ++ " has unknown %" ++ conversion :: " directive".toList) 1
    let (back, rest) := plainText rest
    if ¬ rest.isEmpty then Work.fail (quoted ++ " has too many % directives") 1
    let number : Option Amount → Option Int
      | some (.fixed n) => some n
      | _ => none
    let layout := directive.layout (number directive.width) (number directive.precision)
    return { bits, front, write := layout.real conversion, back }

/-- The shape of numbers that are not given a format. -/
def defaultShape (bits : Nat) (equalWidth : Bool) (first step last : Given) : Shape :=
  match first.places, step.places, last.places with
  | some a, some b, some c =>
    let places := max a b
    let layout : Layout := { precision := some places.toNat }
    if equalWidth then
      let point (own : Int) : Int :=
        if own = 0 ∧ places ≠ 0 then 1 else if own ≠ 0 ∧ places = 0 then -1 else 0
      let width := max (first.width + (places - a) + max 0 (point a))
        (last.width + (places - c) + point c)
      { bits, write := { layout with zeros := true, width := width.toNat }.real 'f' }
    else { bits, write := layout.real 'f' }
  | _, _, _ => { bits, write := ({} : Layout).real 'g' }

/-- Arguments with two dashes before the first one that is a negative number. The first argument may
be the text of an option. -/
def guarded (isText : Bool) : List Text → List Text
  | [] => []
  | argument :: rest =>
    if isText then argument :: guarded false rest
    else
      match argument with
      | '-' :: c :: _ =>
        if c = '.' ∨ c.isDigit then ['-', '-'] :: argument :: rest
        else if argument = ['-', '-'] then argument :: rest
        else argument :: guarded (argument = "-s".toList || argument = "-f".toList) rest
      | _ => argument :: rest

/-- Writes the numbers from a first one to a last one. -/
def seq (arguments : List Text) : Work Unit := do
  let (chosen, numbers) ← Choices.take
    { letters := "f:s:w"
      words := [("equal-width", 'w'), ("format=", 'f'), ("separator=", 's')]
      anywhere := false } (guarded false arguments)
  if numbers.isEmpty then Work.misuse "missing operand" 1
  if let extra :: _ := numbers.drop 3 then
    Work.misuse ("extra operand " ++ Quoted.word extra) 1
  let isWhole := numbers.all (·.all Char.isDigit)
  let bits := if isWhole then (numbers.map fun n ↦ 4 * n.length + 64).foldl max 0
    else significandBits
  let format? ← (last? chosen 'f').mapM (shapeOf bits)
  let equalWidth := has chosen 'w'
  if format?.isSome ∧ equalWidth then
    Work.misuse "format string may not be specified when printing equal width strings" 1
  let all ← numbers.mapM (given bits)
  let one : Given := ⟨.finite false 1 1, 1, some 0⟩
  let (first, step, last) : Given × Given × Given :=
    match all with
    | [first, step, last] => (first, step, last)
    | [first, last] => (first, one, last)
    | last => (one, one, last.headD one)
  if let .finite _ 0 _ := step.value then
    Work.misuse ("invalid Zero increment value: " ++ Quoted.word ((numbers.drop 1).headD [])) 1
  let shape := format?.getD (defaultShape bits equalWidth first step last)
  let isEmpty :=
    if less step.value .zero then less first.value last.value else less last.value first.value
  if isEmpty then return
  Work.put (shape.front ++ shape.write first.value ++ shape.back)
  putRest shape ((last? chosen 's').getD ['\n']) first.value step.value last.value endless 1
    first.value
  Work.put ['\n']

end Sequence

end AlignmentTally.Command
