import AlignmentTally.Shell.Arguments
import AlignmentTally.Shell.Expand
import AlignmentTally.Shell.Field
import AlignmentTally.Shell.Output

/-!
# Reading lines

The commands of a shell that read lines into parameters. A line is cut at separators, the last
parameter getting all that is left; a backslash takes the meaning of the next character away.
-/

namespace AlignmentTally.Shell

open Machine

namespace Lines

/-- Reads up to a line end, in at most some rounds. -/
def readPhysical (stream : Nat) : Nat → List Text → Action Text
  | 0, pieces => return pieces.reverse.flatten
  | rounds + 1, pieces => do
    match ← Routine.readLine stream with
    | .error _ | .ok [] => return pieces.reverse.flatten
    | .ok piece =>
      if piece.getLast? = some '\n' then return (piece :: pieces).reverse.flatten
      else readPhysical stream rounds (piece :: pieces)

/-- The characters of a line, those after a backslash being quoted, and whether a backslash takes
the line end away. -/
def glyphsOf : Text → List Glyph → List Glyph × Bool
  | [], glyphs => (glyphs, false)
  | ['\\', '\n'], glyphs => (glyphs, true)
  | '\\' :: c :: rest, glyphs => glyphsOf rest (⟨c, true⟩ :: glyphs)
  | ['\\'], glyphs => (glyphs, false)
  | c :: rest, glyphs => glyphsOf rest (⟨c, false⟩ :: glyphs)

/-- Reads a line with the lines that it goes on in. The result says whether it has an end. -/
def readGlyphs (stream : Nat) (raw : Bool) : Nat → List Glyph → Action (List Glyph × Bool)
  | 0, glyphs => return (glyphs.reverse, false)
  | rounds + 1, glyphs => do
    let line ← readPhysical stream endless []
    let text := line.filter (· ≠ '\x00')
    let (glyphs, goesOn) :=
      if raw then (text.reverse.map (fun c ↦ (⟨c, false⟩ : Glyph)) ++ glyphs, false)
      else glyphsOf text glyphs
    if goesOn then readGlyphs stream raw rounds glyphs
    else
      match glyphs with
      | ⟨'\n', false⟩ :: glyphs => return (glyphs.reverse, true)
      | glyphs => return (glyphs.reverse, false)

/-- The text of characters. -/
def textOf (glyphs : List Glyph) : Text := glyphs.map (·.char)

/-- The texts for some number of parameters, the last one getting all that is left. -/
def split (separators : Text) : Nat → List Glyph → List Text
  | 0, _ => []
  | n + 1, glyphs =>
    let isSeparator (glyph : Glyph) : Bool := !glyph.quoted && separators.contains glyph.char
    let isBlank (glyph : Glyph) : Bool :=
      isSeparator glyph && (glyph.char = ' ' || glyph.char = '\t' || glyph.char = '\n')
    let glyphs := glyphs.dropWhile isBlank
    let field := glyphs.takeWhile (!isSeparator ·)
    let after := (glyphs.drop field.length).dropWhile isBlank
    let after :=
      match after with
      | glyph :: more => if isSeparator glyph then more.dropWhile isBlank else after
      | [] => []
    if n = 0 then
      if after.isEmpty then [textOf field]
      else [textOf (glyphs.reverse.dropWhile isBlank).reverse]
    else textOf field :: split separators n after

/-- Reads a line into parameters, in the plain dialect. -/
def readPlain (arguments : List Text) : Action Nat := do
  let (options, names) ← Arguments.options "p:r" arguments
  if names.isEmpty then Action.fail "arg count"
  let raw := options.any (·.1 = 'r')
  let (glyphs, ended) ← readGlyphs 0 raw endless []
  let texts := split (← get).separators names.length glyphs
  for (name, text) in names.zip texts do
    Action.assign name text false
  return if ended then 0 else 1

/-! ### The extended dialect -/

/-- What ends the text that is read. -/
structure Extent where
  /-- The character that ends it. -/
  delimiter : Char := '\n'
  /-- The greatest number of characters. -/
  limit : Option Nat := none
  /-- Whether only the number of characters counts. -/
  exact : Bool := false

/-- Reads characters one by one, in at most some rounds. The result says whether the text has the
end that it should have. -/
def readCharacters (stream : Nat) (raw : Bool) (extent : Extent) :
    Nat → List Glyph → Action (List Glyph × Bool)
  | 0, glyphs => return (glyphs.reverse, false)
  | rounds + 1, glyphs => do
    if extent.limit = some glyphs.length then return (glyphs.reverse, true)
    let next : Action (Option Char) := do
      return ((← Routine.read stream 1).toOption.getD []).head?
    match ← next with
    | none => return (glyphs.reverse, false)
    | some c =>
      if c = extent.delimiter ∧ ¬ extent.exact then return (glyphs.reverse, true)
      else if c = '\\' ∧ ¬ raw then
        match ← next with
        | none => return (glyphs.reverse, false)
        | some '\n' => readCharacters stream raw extent rounds glyphs
        | some c => readCharacters stream raw extent rounds (⟨c, true⟩ :: glyphs)
      else if c = '\x00' then readCharacters stream raw extent rounds glyphs
      else readCharacters stream raw extent rounds (⟨c, false⟩ :: glyphs)

/-- The pieces of characters, those without quotes being cut at separators. -/
def piecesOf (glyphs : List Glyph) : List Piece :=
  let (pieces, quoted, text) := glyphs.foldl
    (fun (pieces, quoted, text) glyph ↦
      if glyph.quoted = quoted then (pieces, quoted, glyph.char :: text)
      else (Piece.text quoted (!quoted) text.reverse :: pieces, glyph.quoted, [glyph.char]))
    (([] : List Piece), false, ([] : Text))
  (Piece.text quoted (!quoted) text.reverse :: pieces).reverse

/-- The number of an option, or a complaint about it. -/
def numberFor (text what : Text) : Action Nat := do
  match Text.toNat? text with
  | some n => return n
  | none => Action.fail (text ++ ": " ++ what)

/-- Reads a text into parameters, in the extended dialect. -/
def readExtended (arguments : List Text) : Action Nat := do
  let (options, names) ← Arguments.options "ersa:d:i:n:N:p:t:u:" arguments
  let has (letter : Char) : Bool := options.any (·.1 = letter)
  let array? := options.lookup 'a'
  if array?.any (!isName ·) then Action.refuseName (array?.getD [])
  if (names.head?.map Expand.reference?).any (·.isNone) then Action.refuseName (names.headD [])
  let count? ← ((options.lookup 'N').or (options.lookup 'n')).mapM (numberFor · "invalid number")
  match options.lookup 't' with
  | some text =>
    if ¬ text.all fun c ↦ c.isDigit || c = '.' then
      Action.fail (text ++ ": invalid timeout specification")
  | none => pure ()
  let stream ←
    match options.lookup 'u' with
    | some text => numberFor text "invalid file descriptor specification"
    | none => pure 0
  let extent : Extent :=
    { delimiter := ((options.lookup 'd').map fun text ↦ text.headD '\x00').getD '\n'
      limit := count?
      exact := has 'N' }
  let isUsual := count?.isNone ∧ extent.delimiter = '\n'
  let (glyphs, ended) ←
    if isUsual then readGlyphs stream (has 'r') endless []
    else readCharacters stream (has 'r') extent endless []
  let status := if ended then 0 else 1
  let separators := (← get).separators
  match array?, names with
  | some array, _ =>
    let texts := (fieldsOf separators (piecesOf glyphs)).map Field.text
    modify fun state ↦
      state.setVariable array
        { ((state.lookup? array).getD {}) with value := State.itemsOf texts }
  | none, [] => Action.assign "REPLY" (textOf glyphs) false
  | none, names =>
    let texts :=
      if has 'N' then textOf glyphs :: names.tail.map fun _ ↦ []
      else split separators names.length glyphs
    for (name, text) in names.zip texts do
      Expand.assignTo name text
  return status

/-- Reads a line into parameters. -/
def read (arguments : List Text) : Action Nat := do
  if (← get).isExtended then readExtended arguments else readPlain arguments

/-- Reads lines, at most some number of them. Each keeps its end. -/
def readSome (stream : Nat) (delimiter : Char) : Nat → List Text → Action (List Text)
  | 0, lines => return lines.reverse
  | rounds + 1, lines => do
    let line ←
      if delimiter = '\n' then readPhysical stream endless []
      else do
        let (glyphs, ended) ← readCharacters stream true { delimiter } endless []
        pure (textOf glyphs ++ if ended then [delimiter] else [])
    if line.isEmpty then return lines.reverse
    else readSome stream delimiter rounds (line :: lines)

/-- Reads all lines into the items of a parameter. -/
def readAll (arguments : List Text) : Action Nat := do
  let (options, names) ← Arguments.options "d:n:O:s:tu:C:c:" arguments
  let number (letter : Char) : Action Nat := do
    match options.lookup letter with
    | some text => numberFor text "invalid line count"
    | none => return 0
  let stream ← number 'u'
  let limit ← number 'n'
  let origin ← number 'O'
  let skipped ← number 's'
  let name := names.headD "MAPFILE"
  if ¬ isName name then Action.refuseName name
  let delimiter := ((options.lookup 'd').map fun text ↦ text.headD '\x00').getD '\n'
  let lines ← readSome stream delimiter (if limit = 0 then endless else limit + skipped) []
  let trim (line : Text) : Text :=
    if options.any (·.1 = 't') ∧ line.getLast? = some delimiter then line.dropLast else line
  let texts := (lines.drop skipped).map trim
  let entry := ((← get).lookup? name).getD {}
  if entry.readOnly then Action.refuseChange name
  let before : Value :=
    if options.any (·.1 = 'O') then .items entry.value.toItems else .items []
  let value := (texts.mapIdx fun i text ↦ (Text.ofNat (origin + i), text)).foldl
    (fun value (key, text) ↦ value.setItem key text) before
  modify (·.setVariable name { entry with value })
  return 0

end Lines

end AlignmentTally.Shell
