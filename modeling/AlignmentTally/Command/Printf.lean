import AlignmentTally.Command.Options
import AlignmentTally.Machine.Escape
import AlignmentTally.Shell.Output

/-!
# Writing by a format

Values are laid out by a format, which is used again until no value is left. Complaints come where
they arise, after what was laid out before.
-/

namespace AlignmentTally.Command

open Machine

namespace Printf

/-- The bits of the significand of a real number. -/
def significandBits : Nat := 64

/-- The escapes of a format. -/
def escapes : Escape.Style := ⟨true, ['"'], true⟩

/-- A text as a script writes it, with quotes only if it needs them. -/
def quote (text : Text) : Text :=
  Quoted.inStyle [] .shellEscape text

/-- Complains about a value that is no number. -/
def check (value rest : Text) (fits : Bool) : Work Unit := do
  let quoted := Quoted.word value
  if ¬ fits then Work.complain (quoted ++ ": Numerical result out of range")
  else if ¬ rest.isEmpty then
    if rest.length = value.length then Work.complain (quoted ++ ": expected a numeric value")
    else Work.complain (quoted ++ ": value not completely converted")

/-- The character after a quote, as a number. -/
def quoted? (value : Text) : Work (Option Nat) := do
  match value with
  | quote :: c :: rest =>
    if quote = '"' ∨ quote = '\'' then
      if ¬ rest.isEmpty then
        Work.warn ("warning: " ++ rest ++
          ": character(s) following character constant have been ignored")
      return some c.toNat
    else return none
  | _ => return none

/-- A value as an integer between two others. -/
def integer (low high : Int) (value : Text) : Work Int := do
  match ← quoted? value with
  | some n => return n
  | none =>
    let (n, rest) := Shell.Output.readInteger value
    check value rest (low ≤ n ∧ n ≤ high)
    return max low (min high n)

/-- A value as an integer with a sign. -/
def signed (value : Text) : Work Int :=
  integer (-Shell.Arithmetic.bound) (Shell.Arithmetic.bound - 1) value

/-- A value as an integer without a sign. -/
def unsigned (value : Text) : Work Nat := do
  let limit := 2 * Shell.Arithmetic.bound
  let n ← integer (1 - limit) (limit - 1) value
  return (Int.emod n limit).toNat

/-- A value as a real number. -/
def real (value : Text) : Work Scanned := do
  match ← quoted? value with
  | some n => return .finite false n 1
  | none =>
    match Scanned.read? value with
    | some (x, rest) =>
      check value rest true
      return x.rounded significandBits
    | none =>
      check value value true
      return .zero

/-- The value of an amount, the values that are left, and how many were used. -/
def amount? (amount : Option Amount) (values : List Text) :
    Work (Option Int × List Text) := do
  match amount, values with
  | none, values => return (none, values)
  | some (.fixed n), values => return (some n, values)
  | some .next, [] => return (some 0, [])
  | some .next, value :: rest => return (some (← signed value), rest)

/-- Whether a directive makes sense. -/
def isValid (directive : Directive) (conversion : Char) : Bool :=
  let flags := directive.flags
  if conversion = 's' then !flags.alternate && !flags.zeros
  else if conversion = 'c' then
    !flags.alternate && !flags.zeros && directive.precision.isNone
  else if conversion = 'd' ∨ conversion = 'i' ∨ conversion = 'u' then !flags.alternate
  else "aAeEfFgGoxX".toList.contains conversion

/-- Lays out the value of a directive. The result is the values that are left. -/
def lay (directive : Directive) (values : List Text) : Work (List Text) := do
  match directive.conversion, directive.spelling with
  | some 'b', ['%', 'b'] =>
    let (text, ends) := Escape.expand escapes (values.headD [])
    Work.put text
    if ends then Work.leave (← get).status
    return values.drop 1
  | some 'q', ['%', 'q'] =>
    if ¬ values.isEmpty then Work.put (quote (values.headD []))
    return values.drop 1
  | conversion?, _ =>
    let (width, values) ← amount? directive.width values
    let (precision, values) ← amount? directive.precision values
    match conversion?.filter (isValid directive) with
    | none => Work.fail (directive.spelling ++ ": invalid conversion specification") 1
    | some conversion =>
      let layout := directive.layout width precision
      let value := values.headD []
      let text ←
        if conversion = 's' then pure (layout.text value)
        else if conversion = 'c' then pure (layout.fill (value.headD '\x00' :: []))
        else if conversion = 'd' ∨ conversion = 'i' then do pure (layout.integer (← signed value))
        else if "uoxX".toList.contains conversion then do
          let base := if conversion = 'u' then 10 else if conversion = 'o' then 8 else 16
          pure (layout.natural base (conversion = 'X') (← unsigned value))
        else do pure (layout.real conversion (← real value))
      Work.put text
      return values.drop 1

/-- Goes through a format once. The result is the values that are left. -/
def layAll : Nat → Text → List Text → Work (List Text)
  | 0, _, values => return values
  | rounds + 1, format, values => do
    match format with
    | [] => return values
    | '\\' :: 'c' :: _ => Work.leave (← get).status
    | '\\' :: 'x' :: rest =>
      if ¬ rest.head?.any Escape.isHexadecimal then
        Work.fail "missing hexadecimal number in escape" 1
      let (text, rest) := Escape.read escapes ('x' :: rest)
      Work.put text
      layAll rounds rest values
    | '\\' :: rest =>
      let (text, rest) := Escape.read escapes rest
      Work.put text
      layAll rounds rest values
    | '%' :: '%' :: rest =>
      Work.put ['%']
      layAll rounds rest values
    | '%' :: rest =>
      let (directive, rest) := Directive.read "hlLjzt".toList rest
      layAll rounds rest (← lay directive values)
    | c :: rest =>
      let plain := rest.takeWhile fun c ↦ c ≠ '%' && c ≠ '\\'
      Work.put (c :: plain)
      layAll rounds (rest.drop plain.length) values

/-- Goes through a format until no value is left or none is used. -/
def layRounds (format : Text) : Nat → List Text → Work Unit
  | 0, _ => return ()
  | rounds + 1, values => do
    let left ← layAll (format.length + 1) format values
    if left.isEmpty then return
    else if left.length = values.length then
      Work.warn ("warning: ignoring excess arguments, starting with " ++ Quoted.word (left.headD []))
    else layRounds format rounds left

/-- Writes values laid out by a format. -/
def printf (arguments : List Text) : Work Unit := do
  let arguments := if arguments.head? = some ['-', '-'] then arguments.drop 1 else arguments
  match arguments with
  | [] => Work.misuse "missing operand" 1
  | format :: values => layRounds format (values.length + 1) values

end Printf

end AlignmentTally.Command
