import AlignmentTally.Clock.Layout
import AlignmentTally.Machine.Escape
import AlignmentTally.Number.Directive
import AlignmentTally.Shell.Arithmetic
import AlignmentTally.Shell.State

/-!
# Writing texts

The commands of a shell that write their arguments: one after another, or laid out by a format that
is used again until no argument is left. A backslash in a text begins an escape.
-/

namespace AlignmentTally.Shell

open Machine

namespace Output

/-- Writes what a command has to say. The result is its exit status, which tells of a failure. -/
def finish (status : Nat) (text : Text) : Action Nat := do
  match ← Routine.write 1 text with
  | .ok () => return status
  | .error error =>
    let state ← get
    if state.isExtended then Action.warn ("write error: " ++ error.words.toList)
    else
      let name : Text := state.command.getD []
      Action.warn (name ++ ": I/O error")
    return status ||| 1

/-! ### One after another -/

/-- The arguments with blanks between them, their escapes replaced. -/
def joined (style : Escape.Style) : List Text → Text × Bool
  | [] => ([], false)
  | [last] => Escape.expand style last
  | first :: rest =>
    let (text, ends) := Escape.expand style first
    if ends then (text, true)
    else
      let (others, endsLater) := joined style rest
      (text ++ ' ' :: others, ends || endsLater)

/-- Whether an argument is a group of options, in the extended dialect. -/
def isOptions (argument : Text) : Bool :=
  match argument with
  | '-' :: letters => !letters.isEmpty && letters.all "neE".toList.contains
  | _ => false

/-- Writes the arguments with blanks between them and a line end. -/
def echo (arguments : List Text) : Action Nat := do
  if (← get).isExtended then
    let options := (arguments.takeWhile isOptions).flatten
    let arguments := arguments.dropWhile isOptions
    let escapes := (options.filter fun c ↦ c = 'e' || c = 'E').getLast? = some 'e'
    let (text, ends) :=
      if escapes then joined { Escape.Style.all with quotes := [] } arguments else (Text.join [' '] arguments, false)
    finish 0 (if ends ∨ options.contains 'n' then text else text ++ ['\n'])
  else
    let (lacksEnd, arguments) :=
      match arguments with
      | ['-', 'n'] :: rest => (true, rest)
      | arguments => (false, arguments)
    let (text, ends) := joined .common arguments
    finish 0 (if ends ∨ lacksEnd then text else text ++ ['\n'])

/-! ### By a format -/

/-- A format that is being used. -/
structure Printing where
  /-- The values that are left. -/
  values : List Text
  /-- What was laid out, the last piece first. -/
  pieces : List Text := []
  /-- The exit status. -/
  status : Nat := 0
  /-- Why the format cannot be used, if it cannot. -/
  refused : Option Text := none

/-- A part of using a format. -/
abbrev Printer := StateT Printing Action

/-- Takes the next value, if there is one. -/
def next? : Printer (Option Text) := do
  match (← get).values with
  | [] => return none
  | value :: values =>
    modify fun printing ↦ { printing with values }
    return some value

/-- Lays out a piece. -/
def put (text : Text) : Printer Unit :=
  modify fun printing ↦ { printing with pieces := text :: printing.pieces }

/-- Complains about a value. -/
def complain (words : Text) : Printer Unit := do
  Action.warn words
  modify fun printing ↦ { printing with status := 1 }

/-- Finds that the format cannot be used any further. -/
def refuse (words : Text) : Printer Bool := do
  modify fun printing ↦ { printing with refused := some words }
  return true

/-- Complains unless all of a value was read as a number and the number can be held. -/
def check (value rest : Text) (fits : Bool) : Printer Unit := do
  let extended := (← getThe State).isExtended
  if ¬ rest.isEmpty then
    complain (value ++
      if extended then ": invalid number"
      else if rest.length = value.length then ": expected numeric value"
      else ": not completely converted")
  else if ¬ fits then
    complain ((if extended then "warning: " else "") ++ value ++ ": Numerical result out of range")

/-- The character after a quote, as a number. -/
def quoted? (value : Text) : Option Nat :=
  match value with
  | c :: rest => if c = '"' ∨ c = '\'' then some ((rest.head?.map Char.toNat).getD 0) else none
  | [] => none

/-- The integer at the start of a text, and what follows it. -/
def readInteger (text : Text) : Int × Text :=
  let (negative, digits) :=
    match text.dropWhile Arithmetic.isBlank with
    | '-' :: rest => (true, rest)
    | '+' :: rest => (false, rest)
    | rest => (false, rest)
  match Arithmetic.readNumber digits with
  | some (n, rest) => (if negative then -(n : Int) else n, rest)
  | none => (0, text)

/-- The next value as an integer between two others. -/
def nextInteger (low high : Int) : Printer Int := do
  match ← next? with
  | none => return 0
  | some value =>
    match quoted? value with
    | some n => return n
    | none =>
      let (n, rest) := readInteger value
      check value rest (low ≤ n ∧ n ≤ high)
      return max low (min high n)

/-- The next value as an integer with a sign. -/
def nextSigned : Printer Int := nextInteger (-Arithmetic.bound) (Arithmetic.bound - 1)

/-- The next value as an integer without a sign. What is negative counts from the upper end. -/
def nextUnsigned : Printer Nat := do
  let limit := 2 * Arithmetic.bound
  match ← next? with
  | none => return 0
  | some value =>
    match quoted? value with
    | some n => return n
    | none =>
      let (n, rest) := readInteger value
      check value rest (n.natAbs < limit.toNat)
      if limit ≤ n.natAbs then return (limit - 1).toNat
      return (Int.emod n limit).toNat

/-- The next value as a real number. -/
def nextReal : Printer Scanned := do
  match ← next? with
  | none => return .zero
  | some value =>
    match quoted? value with
    | some n => return .finite false n 1
    | none =>
      match Scanned.read? value with
      | some (x, rest) =>
        let (x, fits) := x.toBinary64
        check value rest fits
        return x
      | none =>
        check value value true
        return .zero

/-- A text between single quotes after a dollar, with escapes for what cannot be shown. -/
def quoteEscaped (text : Text) : Text :=
  let shown (c : Char) : Text :=
    match c with
    | '\x07' => "\\a".toList
    | '\x08' => "\\b".toList
    | '\x1b' => "\\E".toList
    | '\x0c' => "\\f".toList
    | '\n' => "\\n".toList
    | '\r' => "\\r".toList
    | '\t' => "\\t".toList
    | '\x0b' => "\\v".toList
    | '\'' => "\\'".toList
    | '\\' => "\\\\".toList
    | c =>
      if c.toNat < 32 ∨ 126 < c.toNat then '\\' :: Text.padLeft '0' 3 (Nat.toDigits 8 c.toNat)
      else [c]
  "$'".toList ++ text.flatMap shown ++ ['\'']

/-- A text in quotes, if it needs them, so that a script may hold it. -/
def quote (text : Text) : Text :=
  let isSafe := fun c : Char ↦ c.isAlphanum || "_-./:=+,%@".toList.contains c
  if text.isEmpty then ['\'', '\'']
  else if text.any fun c ↦ c.toNat < 32 || 126 < c.toNat then quoteEscaped text
  else text.flatMap fun c ↦ if isSafe c then [c] else ['\\', c]

/-- A text between single quotes, if it needs them. -/
def quoteShown (text : Text) : Text :=
  let isSafe := fun c : Char ↦ c.isAlphanum || "_-./:=+,%@".toList.contains c
  if ¬ text.isEmpty ∧ text.all isSafe then text
  else
    '\'' :: (text.flatMap fun c ↦ if c = '\'' then "'\\''".toList else [c]) ++ ['\'']

/-- The value of an amount. -/
def amount? : Option Amount → Printer (Option Int)
  | none => return none
  | some (.fixed n) => return some n
  | some .next => return some (← nextSigned)

/-- Lays out the value of a directive. The result is whether an escape ends all. -/
def lay (directive : Directive) : Printer Bool := do
  let width ← amount? directive.width
  let precision ← amount? directive.precision
  let layout := directive.layout width precision
  let extended := (← getThe State).isExtended
  let invalid : Printer Bool := do
    if extended then
      complain ((directive.spelling.getLast?.toList.map fun c ↦ '\x60' :: c :: ['\'']).flatten ++
        ": invalid format character")
      return true
    else refuse (directive.spelling ++ ": invalid directive")
  match directive.conversion with
  | none =>
    if extended then
      complain ('\x60' :: directive.spelling ++ "': missing format character")
      return true
    else refuse "missing format character"
  | some c =>
    if c = 'd' ∨ c = 'i' then
      put (layout.integer (← nextSigned))
      return false
    else if c = 'u' ∨ c = 'o' ∨ c = 'x' ∨ c = 'X' then
      let base := if c = 'u' then 10 else if c = 'o' then 8 else 16
      put (layout.natural base (c = 'X') (← nextUnsigned))
      return false
    else if "aAeEfFgG".toList.contains c then
      put (layout.real c (← nextReal))
      return false
    else if c = 's' then
      put (layout.text ((← next?).getD []))
      return false
    else if c = 'c' then
      put (layout.fill (((← next?).bind List.head?).getD '\x00' :: []))
      return false
    else if c = 'b' then
      let style : Escape.Style := if extended then .all else .common
      let (text, ends) := Escape.expand style ((← next?).getD [])
      put (layout.text text)
      return ends
    else if extended ∧ c = 'q' then
      put (layout.text (quote ((← next?).getD [])))
      return false
    else if extended ∧ c = 'Q' then
      let value := (← next?).getD []
      put (layout.fill (quote (value.take (layout.precision.getD value.length))))
      return false
    else invalid

/-- The layout of a time up to the bracket that closes it, within a number of open brackets, and
what follows. -/
def timeLayout : Nat → Text → Text → Text × Text
  | _, done, [] => (done.reverse, [])
  | depth, done, c :: rest =>
    if c = '(' then timeLayout (depth + 1) (c :: done) rest
    else if c = ')' then
      match depth with
      | 0 => (done.reverse, rest)
      | depth + 1 => timeLayout depth (c :: done) rest
    else timeLayout depth (c :: done) rest

/-- The microseconds in a second. -/
def tick : Nat := 1000000

/-- Lays out the next value as a time: in seconds, or -1 for the time that it is, or -2 for that at
which the shell began. -/
def layTime (directive : Directive) (timeLayout : Text) : Printer Unit := do
  let width ← amount? directive.width
  let precision ← amount? directive.precision
  let now : Int := (← liftM (Routine.self : Action Self)).now / tick
  let seconds ←
    match (← get).values with
    | [] => pure (-1)
    | _ => nextSigned
  let seconds := if seconds = -1 ∨ seconds = -2 then now else seconds
  let entry := ((← getThe State).lookup? "TZ").getD {}
  let zone := Zone.ofValue (if entry.exported then entry.value.text? else none)
  let timeLayout : Text := if timeLayout.isEmpty then "%X" else timeLayout
  let time := Civil.ofInstant zone ⟨seconds, 0⟩
  put ((directive.layout width precision).text (time.inLayout timeLayout))

/-- Goes through a format once. The result is whether an escape ends all. -/
def layAll (extended : Bool) : Nat → Text → Text → Printer Bool
  | 0, _, _ => return true
  | rounds + 1, format, plain => do
    let flush : Printer Unit := if plain.isEmpty then pure () else put plain.reverse
    match format with
    | [] =>
      flush
      return false
    | '\\' :: rest =>
      if extended ∧ rest.head? = some 'c' then
        flush
        return true
      let style : Escape.Style := if extended then .all else .common
      let (value, rest) := Escape.read style rest
      layAll extended rounds rest (value.reverse ++ plain)
    | '%' :: '%' :: rest => layAll extended rounds rest ('%' :: plain)
    | '%' :: rest =>
      flush
      let sizes : Text := if extended then "hlLjzt" else []
      let (directive, after) := Directive.read sizes rest
      if extended ∧ directive.conversion = some '(' then
        match timeLayout 0 [] after with
        | (timeLayout, 'T' :: after) =>
          layTime directive timeLayout
          layAll extended rounds after []
        | (_, after) =>
          let words : Text := "': invalid time format specification"
          liftM (Action.warn ("warning: \x60" ++ after.take 1 ++ words) : Action Unit)
          layAll extended rounds rest ['%']
      else
        if ← lay directive then return true
        layAll extended rounds after []
    | c :: rest => layAll extended rounds rest (c :: plain)

/-- Goes through a format until no value is left, at least once. -/
def layRounds (extended : Bool) (format : Text) : Nat → Printer Unit
  | 0 => return ()
  | rounds + 1 => do
    let before := (← get).values.length
    if ← layAll extended (format.length + 1) format [] then return
    let after := (← get).values.length
    if after ≠ 0 ∧ after ≠ before then layRounds extended format rounds

/-- What was laid out. -/
def Printing.text (printing : Printing) : Text := printing.pieces.reverse.flatten

/-- Lays out values by a format and does something with the text, by default writes it. -/
def writeFormatted (use : Option (Text → Action Unit)) (format : Text) (values : List Text) :
    Action Nat := do
  let ((), printing) ← (layRounds (← get).isExtended format (values.length + 1)).run { values }
  match printing.refused, use with
  | none, none => finish printing.status printing.text
  | none, some use =>
    use printing.text
    return printing.status
  | some words, _ =>
    Action.warn words
    -- what was laid out before is written all the same
    let _ ← finish 0 printing.text
    Action.giveUp

/-- Writes values laid out by a format. -/
def printf (arguments : List Text) : Action Nat := do
  match arguments with
  | [] => Action.fail "usage: printf format [arg ...]"
  | format :: values => writeFormatted none format values

end Output

end AlignmentTally.Shell
