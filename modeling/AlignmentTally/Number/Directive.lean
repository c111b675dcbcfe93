import AlignmentTally.Number.Layout

/-!
# Directives

In a format, a directive stands for a value. It begins with a percent sign and ends with a letter
that says what kind of value it stands for; between them are flags, a width and a precision. A star
in the place of a number takes the number from the values.
-/

namespace AlignmentTally

/-- A width or a precision. -/
inductive Amount where
  /-- A number that is written out. -/
  | fixed (n : Nat)
  /-- The next value. -/
  | next
  deriving DecidableEq, Repr, Inhabited

/-- A directive. -/
structure Directive where
  /-- The flags. -/
  flags : Layout
  /-- The least width of the field. -/
  width : Option Amount
  /-- The precision. -/
  precision : Option Amount
  /-- What kind of value is laid out, `none` if the format ends before it. -/
  conversion : Option Char
  /-- The directive as it is written. -/
  spelling : List Char
  deriving Repr, Inhabited

namespace Directive

/-- The layout that flags ask for. -/
def layoutOf (flags : List Char) : Layout where
  left := flags.contains '-'
  zeros := flags.contains '0'
  plus := flags.contains '+'
  blank := flags.contains ' '
  alternate := flags.contains '#'

/-- The amount at the start of a text, if there is one, and what follows it. -/
def readAmount (text : List Char) : Option Amount × List Char :=
  match text with
  | '*' :: rest => (some .next, rest)
  | text =>
    let digits := text.takeWhile Char.isDigit
    if digits.isEmpty then (none, text)
    else (some (.fixed (Scanned.digits 10 digits)), text.drop digits.length)

/-- The directive at the start of a text, after its percent sign, and what follows it. Between the
precision and the kind of value, the letters that say how a value is stored mean nothing. -/
def read (sizes : List Char) (text : List Char) : Directive × List Char :=
  let flags := text.takeWhile fun c ↦ "#-+ 0'".toList.contains c
  let (width, rest) := readAmount (text.drop flags.length)
  let (precision, rest) :=
    match rest with
    | '.' :: rest =>
      let (amount, rest) := readAmount rest
      (some (amount.getD (.fixed 0)), rest)
    | rest => (none, rest)
  let rest := rest.dropWhile sizes.contains
  let directive (conversion : Option Char) (rest : List Char) : Directive :=
    ⟨layoutOf flags, width, precision, conversion,
      '%' :: text.take (text.length - rest.length)⟩
  match rest with
  | [] => (directive none [], [])
  | c :: rest => (directive (some c) rest, rest)

/-- The layout of a directive, given the values for its amounts. A negative width asks for the left
side of the field, and a negative precision is none. -/
def layout (directive : Directive) (width precision : Option Int) : Layout :=
  { directive.flags with
    left := directive.flags.left || width.any (· < 0)
    width := (width.getD 0).natAbs
    precision := (precision.filter (0 ≤ ·)).map Int.toNat }

end Directive

end AlignmentTally
