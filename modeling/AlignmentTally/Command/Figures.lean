import AlignmentTally.Command.Fields
import AlignmentTally.Number.Layout

/-!
# Numbers with units

The command that reads numbers with units and writes them with other ones, field by field. A unit is a
power of 1000 or of 1024. Numbers are held with significands of `significandBits` bits, and every step
of the calculation is rounded to them.
-/

namespace AlignmentTally.Command

open Machine

namespace Figures

/-! ### Calculating -/

/-- The bits of the significand of a number. -/
def significandBits : Nat := 64

/-- A number as a quotient. -/
structure Quotient where
  /-- The number that is divided. -/
  num : Int
  /-- The number by which it is divided. -/
  den : Nat
  deriving Repr, Inhabited

namespace Quotient

/-- A quotient with a significand that is held. -/
def held (q : Quotient) : Quotient :=
  match (Scanned.finite (q.num < 0) q.num.natAbs q.den).rounded significandBits with
  | .finite negative num den => ⟨if negative then -num else num, den⟩
  | _ => q

/-- The product of two numbers. -/
def mul (a b : Quotient) : Quotient := held ⟨a.num * b.num, a.den * b.den⟩

/-- A whole number. -/
def ofInt (n : Int) : Quotient := held ⟨n, 1⟩

/-- One number divided by another one, which is positive. -/
def div (a b : Quotient) : Quotient := held ⟨a.num * b.den, a.den * b.num.natAbs⟩

/-- The sum of two numbers. -/
def add (a b : Quotient) : Quotient := held ⟨a.num * b.den + b.num * a.den, a.den * b.den⟩

/-- The whole part. -/
def whole (q : Quotient) : Int := Int.tdiv q.num q.den

/-- The least whole number that is not below. -/
def ceiling (q : Quotient) : Int := -((-q.num) / (q.den : Int))

/-- The greatest whole number that is not above. -/
def floor (q : Quotient) : Int := q.num / (q.den : Int)

/-- Whether a whole number is not above the magnitude. -/
def reaches (q : Quotient) (n : Nat) : Bool := n * q.den ≤ q.num.natAbs

/-- The magnitude divided by a base until it is less than the base, and how often it was, at most some
times. -/
def reduce (base : Nat) : Nat → Quotient → Quotient × Nat
  | 0, q => (q, 0)
  | rounds + 1, q =>
    if q.reaches base then
      let (q, power) := reduce base rounds (q.div (ofInt base))
      (q, power + 1)
    else (q, 0)

/-- A text with some places. -/
def fixed (q : Quotient) (places width : Nat) : Text :=
  let layout : Layout := { zeros := width ≠ 0, width }
  layout.place (layout.sign (q.num < 0)) (Layout.fixedDigits q.num.natAbs q.den places false) true

/-- The shorter of the usual texts. -/
def general (q : Quotient) : Text :=
  Layout.real {} 'g' (.finite (q.num < 0) q.num.natAbs q.den)

end Quotient

/-- How a number becomes whole. -/
inductive Rounding where
  /-- The next one that is not below. -/
  | up
  /-- The next one that is not above. -/
  | down
  /-- The next one that is not nearer to zero. -/
  | fromZero
  /-- The next one that is not farther from zero. -/
  | towardsZero
  /-- The nearest one. -/
  | nearest
  deriving DecidableEq, Repr

/-- The greatest whole number that is made at once. -/
def greatestWhole : Nat := 9223372036854775807

/-- A number that has become whole. -/
def Rounding.apply (rounding : Rounding) (q : Quotient) : Quotient :=
  let great := Quotient.ofInt greatestWhole
  let times := Quotient.ofInt (q.div great).whole
  let rest := q.add ((great.mul times).mul (.ofInt (-1)))
  let whole :=
    match rounding with
    | .up => rest.ceiling
    | .down => rest.floor
    | .fromZero => if rest.num < 0 then rest.floor else rest.ceiling
    | .towardsZero => rest.whole
    | .nearest => (rest.add ⟨if rest.num < 0 then -1 else 1, 2⟩).whole
  (great.mul times).add (.ofInt whole)

/-! ### Units -/

/-- Which units there are. -/
inductive Units where
  /-- None. -/
  | none
  /-- Those that the letters say. -/
  | auto
  /-- Powers of 1000. -/
  | thousands
  /-- Powers of 1024. -/
  | binary
  /-- Powers of 1024, whose letters have an `i` behind them. -/
  | marked
  deriving DecidableEq, Repr

/-- The base of the units. -/
def Units.base : Units → Nat
  | .binary | .marked => 1024
  | _ => 1000

/-- The letters of the units, from the first power on. -/
def letters : Text := "KMGTPEZY"

/-- A power of a base. -/
def powerOf (base power : Nat) : Quotient := .ofInt (Nat.pow base power)

/-- Why a number cannot be read. -/
inductive Fault where
  /-- It is too large. -/
  | overflow
  /-- It is none. -/
  | noNumber
  /-- It has a unit, but there are none. -/
  | forbidden
  /-- It has no unit that there is. -/
  | noUnit
  /-- Its unit lacks an `i`. -/
  | noMark
  deriving DecidableEq, Repr

/-- The words for a fault. -/
def Fault.words (fault : Fault) (text : Text) : Text :=
  let text := Quoted.word text
  match fault with
  | .overflow => "value too large to be converted: " ++ text
  | .noNumber => "invalid number: " ++ text
  | .forbidden => "rejecting suffix in input: " ++ text ++ " (consider using --from)"
  | .noUnit => "invalid suffix in input: " ++ text
  | .noMark => "missing 'i' suffix in input: " ++ text ++ " (e.g Ki/Mi/Gi)"

/-- The digits that can be told apart. -/
def exactDigits : Nat := 18

/-- The digits that a number may have. -/
def mostDigits : Nat := 27

/-- A number as it was read. -/
structure Reading where
  /-- The number. -/
  value : Quotient
  /-- The places after its point. -/
  places : Nat := 0
  /-- Whether it may have been changed by reading. -/
  isVague : Bool := false

/-- The digits at the start of a text, as a number. -/
def readDigits (text : Text) : Except Fault (Quotient × Nat × Bool × Text) := do
  let digits := text.takeWhile Char.isDigit
  let rest := text.drop digits.length
  let counted := (digits.dropWhile (· = '0')).length
  if mostDigits < counted then throw .overflow
  if digits.isEmpty ∧ rest.head? ≠ some '.' then throw .noNumber
  let value := digits.foldl
    (fun value c ↦ (value.mul (.ofInt 10)).add (.ofInt (c.toNat - '0'.toNat : Nat))) ⟨0, 1⟩
  return (value, digits.length, exactDigits < counted, rest)

/-- The number without a unit at the start of a text, and what follows. -/
def readPlain (text : Text) : Except Fault (Reading × Text) := do
  let negative : Bool := text.head? = some '-'
  let (whole, _, isVague, rest) ← readDigits (if negative then text.drop 1 else text)
  let signed (q : Quotient) : Quotient := if negative then ⟨-q.num, q.den⟩ else q
  match rest with
  | '.' :: rest =>
    if rest.head? = some '-' then
      let _ ← readDigits (rest.drop 1)
      throw .noNumber
    let (fraction, places, isVague', rest) ← readDigits rest
    let value := whole.add (fraction.div (powerOf 10 places))
    return (⟨signed value, places, isVague || isVague'⟩, rest)
  | rest => return (⟨signed whole, 0, isVague⟩, rest)

/-- The number at the start of a text with its unit, and what follows. -/
def readNumber (units : Units) (text : Text) : Except Fault (Reading × Text) := do
  let (reading, rest) ← readPlain text
  let (power, base, rest, reading) ←
    if rest.isEmpty then pure (0, units.base, rest, reading)
    else do
      let rest := rest.dropWhile fun c ↦ c = ' ' || c = '\t'
      match rest with
      | [] => throw .noUnit
      | c :: rest =>
        if ¬ letters.contains c then throw .noUnit
        if units = .none then throw .forbidden
        let power := letters.idxOf c + 1
        let reading := { reading with places := 0 }
        if units = .auto ∧ rest.head? = some 'i' then pure (power, 1024, rest.drop 1, reading)
        else pure (power, units.base, rest, reading)
  let rest ←
    if units = .marked then
      if rest.head? = some 'i' then pure (rest.drop 1) else throw .noMark
    else pure rest
  return ({ reading with value := reading.value.mul (powerOf base power) }, rest)

/-! ### What is asked for -/

/-- What is done about a number that cannot be read. -/
inductive Reaction where
  /-- It is complained about, and nothing more is done. -/
  | abort
  /-- It is complained about, and remembered. -/
  | fail
  /-- It is complained about. -/
  | warn
  /-- Nothing. -/
  | ignore
  deriving DecidableEq, Repr

/-- What is asked for. -/
structure Plan where
  /-- The units of numbers that are read. -/
  source : Units := .none
  /-- The units of numbers that are written. -/
  target : Units := .none
  /-- What one of the numbers that are read is worth. -/
  sourceUnit : Nat := 1
  /-- What one of the numbers that are written is worth. -/
  targetUnit : Nat := 1
  /-- How numbers become whole. -/
  rounding : Rounding := .fromZero
  /-- The width of a field, if it was asked for. -/
  width : Nat := 0
  /-- Whether a number stands at the left of its field. -/
  isLeft : Bool := false
  /-- The width up to which zeros are written. -/
  zeros : Nat := 0
  /-- The places that are written, if it was said. -/
  places : Option Nat := none
  /-- The text before a number. -/
  front : Text := []
  /-- The text after a number. -/
  back : Text := []
  /-- What is behind numbers. -/
  suffix : Text := []
  /-- The fields that are changed, if it was said. -/
  fields : Option (List Fields.Range) := none
  /-- What separates fields, if not blanks. -/
  delimiter : Option Char := none
  /-- What ends a line. -/
  lineEnd : Char := '\n'
  /-- What is done about numbers that cannot be read. -/
  reaction : Reaction := .abort
  /-- Whether groups of digits were asked for. -/
  groups : Bool := false
  /-- Whether more is told. -/
  explains : Bool := false
  /-- The lines that stay as they are. -/
  header : Nat := 0

/-! ### One number -/

/-- A number with its unit. -/
def Plan.written (plan : Plan) (value : Quotient) (places : Nat) : Text :=
  if plan.target = .none then
    let power := powerOf 10 places
    ((plan.rounding.apply (value.mul power)).div power).fixed places plan.zeros
  else
    let base := plan.target.base
    let (value, power) := value.reduce base 64
    let adjust :=
      match plan.places with
      | some places => min (power * 3) places
      | none => if value.reaches 10 then 0 else 1
    let factor := powerOf 10 adjust
    let value := (plan.rounding.apply (value.mul factor)).div factor
    let (value, power) :=
      if value.reaches base then (value.div (.ofInt base), power + 1) else (value, power)
    let showsPoint : Bool := value.num ≠ 0 && !value.reaches 10 && 0 < power
    let unit : Text := if power = 0 then [] else (letters[power - 1]?).elim "(error)" fun c ↦ [c]
    let mark : Text := if plan.target = .marked ∧ 0 < power then ['i'] else []
    value.fixed (plan.places.getD (if showsPoint then 1 else 0)) plan.zeros ++ unit ++ mark

/-- Complains about a number, and perhaps ends. -/
def Plan.complain (plan : Plan) (words : Text) : Work Unit := do
  if plan.reaction ≠ .ignore then Work.warn words
  if plan.reaction = .abort then Work.leave 2

/-- A number in its field with what is around it, or nothing if it cannot be read or written. -/
def Plan.convert? (plan : Plan) (text : Text) (width : Nat) : Work (Option Text) := do
  let trimmed :=
    let kept := text.length - plan.suffix.length
    if plan.suffix.length < text.length ∧ text.drop kept = plan.suffix then text.take kept
    else text
  let number := trimmed.dropWhile fun c ↦ c = ' ' || c = '\t'
  match readNumber plan.source number with
  | .error fault =>
    plan.complain (fault.words number)
    return none
  | .ok (reading, rest) =>
    if ¬ rest.isEmpty then
      plan.complain ("invalid suffix in input " ++ Quoted.word number ++ ": " ++ Quoted.word rest)
      return none
    if reading.isVague ∧ plan.explains then
      Work.warn ("large input value " ++ Quoted.word number ++ ": possible precision loss")
    let value :=
      if plan.sourceUnit ≠ 1 ∨ plan.targetUnit ≠ 1 then
        (reading.value.mul (.ofInt plan.sourceUnit)).div (.ofInt plan.targetUnit)
      else reading.value
    let places := plan.places.getD reading.places
    let digits := (value.reduce 10 400).2
    if plan.target = .none ∧ exactDigits < digits + places then
      let start : Text :=
        if places = 0 then "value too large to be printed: '" ++ value.general
        else "value/precision too large to be printed: '" ++ value.general ++ '/' ::
          Text.ofNat places
      plan.complain (start ++ "' (consider using --to)")
      return none
    if mostDigits - 1 < digits then
      plan.complain ("value too large to be printed: '" ++ value.general ++
        "' (cannot handle values > 999Y)")
      return none
    let shown := plan.written value places ++ plan.suffix
    let field := if plan.isLeft then Text.padRight width shown else Text.padLeft ' ' width shown
    return some (plan.front ++ field ++ plan.back)

/-! ### Lines -/

/-- The fields of a line, each with what stands before it if blanks separate fields. -/
def Plan.split (plan : Plan) (line : Text) : List Text :=
  match plan.delimiter with
  | some c => Text.splitOn c line
  | none =>
    let isBlank (c : Char) : Bool := c = ' ' || c = '\t' || c = '\n'
    let rec go : Nat → Text → List Text
      | 0, _ => []
      | rounds + 1, text =>
        let blanks := text.takeWhile isBlank
        let word := (text.drop blanks.length).takeWhile (!isBlank ·)
        match text.drop (blanks.length + word.length) with
        | [] => [blanks ++ word]
        | _ :: rest => (blanks ++ word) :: go rounds rest
    go (line.length + 1) line

/-- Whether a field is changed. -/
def Plan.takes (plan : Plan) (place : Nat) : Bool :=
  match plan.fields with
  | none => place = 1
  | some ranges => ranges.any (·.contains place)

/-- Writes a line with numbers in other units. The result is whether all of them could be read. -/
def Plan.putLine (plan : Plan) (line : Text) (hasEnd : Bool) : Work Bool := do
  let mut isFine := true
  let fields := plan.split line
  for (field, i) in fields.zipIdx do
    if i ≠ 0 then Work.put [plan.delimiter.getD ' ']
    if plan.takes (i + 1) then
      let isIndented := field.head?.any fun c ↦ c = ' ' || c = '\t'
      let width :=
        if plan.width ≠ 0 ∨ plan.delimiter.isSome then plan.width
        else if isIndented ∨ i ≠ 0 then field.length
        else 0
      match ← plan.convert? field width with
      | some text => Work.put text
      | none =>
        isFine := false
        Work.put field
    else Work.put field
  if hasEnd then Work.put [plan.lineEnd]
  return isFine

/-! ### Options -/

/-- What a unit that is named is worth. -/
def unitOf (text : Text) : Work Nat := do
  let refuse : Work Nat := Work.fail ("invalid unit size: " ++ Quoted.word text) 1
  let (digits, rest) := Amount.digits text
  let n := if digits.isEmpty then 1 else Text.natOfDigits 10 digits
  let worth? : Option Nat :=
    match rest with
    | [] => if digits.isEmpty then none else some n
    | [c] => if letters.contains c then some (n * Nat.pow 1000 (letters.idxOf c + 1)) else none
    | [c, 'i'] => if letters.contains c then some (n * Nat.pow 1024 (letters.idxOf c + 1)) else none
    | _ => none
  match worth? with
  | some worth => if worth = 0 ∨ Amount.greatest < worth then refuse else return worth
  | none => refuse

/-- A format up to its directive: what stands before it, and what follows its percent sign. -/
def frontOf : Text → Option (Text × Text)
  | '%' :: '%' :: rest => (frontOf rest).map fun (front, rest) ↦ ('%' :: front, rest)
  | '%' :: rest => some ([], rest)
  | c :: rest => (frontOf rest).map fun (front, rest) ↦ (c :: front, rest)
  | [] => none

/-- The number at the start of a text, with its sign, and what follows. -/
def readWidth (text : Text) : Option Int × Text :=
  let blanks := text.takeWhile (" \t\n\x0b\x0c\r".toList.contains ·)
  let rest := text.drop blanks.length
  let (sign, rest) : Int × Text :=
    match rest with
    | '-' :: rest => (-1, rest)
    | '+' :: rest => (1, rest)
    | rest => (1, rest)
  let digits := rest.takeWhile Char.isDigit
  if digits.isEmpty then (none, text)
  else (some (sign * Text.natOfDigits 10 digits), rest.drop digits.length)

/-- A plan with a format. -/
def withFormat (plan : Plan) (format : Text) : Work Plan := do
  let shown := Quoted.word format
  let refuse {α : Type} (words : Text) : Work α := Work.fail words 1
  match frontOf format with
  | none => refuse ("format " ++ shown ++ " has no % directive")
  | some (front, rest) =>
    let flags := rest.takeWhile fun c ↦ c = ' ' || c = '\'' || c = '0'
    let rest := rest.drop flags.length
    let (width?, rest) := readWidth rest
    if width?.any fun width ↦ greatestWhole < width.natAbs then
      refuse ("invalid format " ++ shown ++ " (width overflow)")
    let width := width?.getD 0
    let hasZeros := flags.contains '0'
    if plan.explains ∧ plan.width ≠ 0 ∧ width ≠ 0 ∧ ¬ (hasZeros ∧ 0 < width) then
      Work.warn "--format padding overriding --padding"
    let plan :=
      if width < 0 then { plan with isLeft := true, width := width.natAbs }
      else if width = 0 then plan
      else if hasZeros then { plan with zeros := width.natAbs }
      else { plan with width := width.natAbs }
    if rest.isEmpty then refuse ("format " ++ shown ++ " ends in %")
    let (places, rest) ←
      match rest with
      | '.' :: rest => do
        let (places, after) := readWidth rest
        let isOdd := rest.head?.any fun c ↦ c = ' ' || c = '\t' || c = '+'
        if isOdd ∨ places.any (· < 0) then
          refuse ("invalid precision in format " ++ shown)
        pure (some ((places.getD 0).natAbs), after)
      | rest => pure (none, rest)
    match rest with
    | 'f' :: back =>
      if (frontOf back).isSome then refuse ("format " ++ shown ++ " has too many % directives")
      return { plan with
        places, back, front := format.take front.length
        groups := plan.groups || flags.contains '\'' }
    | _ =>
      refuse ("invalid format " ++ shown ++ ", directive must be %[0]['][-][N][.][N]f")

/-- The units under their names. -/
def unitNames : List (String × Units) :=
  [("none", .none), ("auto", .auto), ("si", .thousands), ("iec", .binary), ("iec-i", .marked)]

/-- A plan with one more option. -/
def withOption (plan : Plan) (letter : Char) (text : Text) : Work Plan := do
  match letter with
  | 'F' => return { plan with source := ← meaningOf "--from" unitNames text }
  | 'T' =>
    return { plan with
      target := ← meaningOf "--to" (unitNames.filter (·.2 ≠ .auto)) text }
  | 'f' => return { plan with sourceUnit := ← unitOf text }
  | 't' => return { plan with targetUnit := ← unitOf text }
  | 'r' =>
    let rounding ← meaningOf "--round"
      [("up", Rounding.up), ("down", .down), ("from-zero", .fromZero),
        ("towards-zero", .towardsZero), ("nearest", .nearest)] text
    return { plan with rounding }
  | 'p' =>
    match readWidth text with
    | (some n, []) =>
      if n = 0 then Work.fail ("invalid padding value " ++ Quoted.word text) 1
      return { plan with width := n.natAbs, isLeft := plan.isLeft || n < 0 }
    | _ => Work.fail ("invalid padding value " ++ Quoted.word text) 1
  | 's' => return { plan with suffix := text }
  | 'g' => return { plan with groups := true }
  | 'd' =>
    if 1 < text.length then Work.fail "the delimiter must be a single character" 1
    return { plan with delimiter := some (text.headD '\x00') }
  | 'i' =>
    if plan.fields.isSome then Work.fail "multiple field specifications" 1
    if text = ['-'] then return { plan with fields := some [⟨1, none⟩] }
    match Fields.ranges text with
    | .ok ranges => return { plan with fields := some ranges }
    | .error fault => Work.misuse (fault.words true) 1
  | 'D' => return { plan with explains := true }
  | 'h' =>
    if text.isEmpty then return { plan with header := 1 }
    match Amount.plain? text with
    | some n =>
      if n = 0 then Work.fail ("invalid header value " ++ Quoted.word text) 1
      return { plan with header := n }
    | none => Work.fail ("invalid header value " ++ Quoted.word text) 1
  | 'v' =>
    let reaction ← meaningOf "--invalid"
      [("abort", Reaction.abort), ("fail", .fail), ("warn", .warn), ("ignore", .ignore)] text
    return { plan with reaction }
  | 'z' => return { plan with lineEnd := '\x00' }
  | _ => return plan

/-- The options of the command. -/
def choices : Choices where
  letters := "d:z"
  words := [("from=", 'F'), ("from-unit=", 'f'), ("to=", 'T'), ("to-unit=", 't'),
    ("round=", 'r'), ("padding=", 'p'), ("suffix=", 's'), ("grouping", 'g'),
    ("delimiter=", 'd'), ("field=", 'i'), ("debug", 'D'), ("header?", 'h'), ("format=", 'o'),
    ("invalid=", 'v'), ("zero-terminated", 'z')]

end Figures

open Figures in
/-- Writes numbers in other units. -/
def numfmt (arguments : List Text) : Work Unit := do
  let (chosen, operands) ← choices.take arguments
  let mut plan : Plan := {}
  for (letter, text) in chosen do plan ← withOption plan letter text
  let format? := last? chosen 'o'
  if format?.isSome ∧ plan.groups then
    Work.fail "--grouping cannot be combined with --format" 1
  if plan.explains ∧ plan.source = .none ∧ plan.target = .none ∧ ¬ plan.groups ∧ plan.width = 0 ∧
      format?.isNone then
    Work.warn "no conversion option specified"
  if let some format := format? then plan ← withFormat plan format
  if plan.groups then
    if plan.target ≠ .none then Work.fail "grouping cannot be combined with --to" 1
    if plan.explains then Work.warn "grouping has no effect in this locale"
  let mut isFine := true
  if operands.isEmpty then
    let act (state : Nat × Bool) (text : Text) : Work (Nat × Bool) := do
      let mut (header, isFine) := state
      for whole in Text.wholes plan.lineEnd text do
        if header ≠ 0 then
          Work.put whole
          header := header - 1
        else
          let hasEnd : Bool := whole.getLast? = some plan.lineEnd
          let line := if hasEnd then whole.dropLast else whole
          let isGood ← plan.putLine line hasEnd
          isFine := isFine && isGood
      return (header, isFine)
    let ((_, isGood), error) ←
      Work.foldLines plan.lineEnd 0 (fun _ ↦ false) act (plan.header, true)
    isFine := isGood
    if let some error := error then
      Work.fail ("error reading input: " ++ error.words) 1
  else
    if plan.explains ∧ plan.header ≠ 0 then Work.warn "--header ignored with command-line input"
    for operand in operands do
      let isGood ← plan.putLine operand true
      isFine := isFine && isGood
  if plan.explains ∧ ¬ isFine then Work.warn "failed to convert some of the input numbers"
  if ¬ isFine ∧ plan.reaction ≠ .warn ∧ plan.reaction ≠ .ignore then Work.setStatus 2

end AlignmentTally.Command
