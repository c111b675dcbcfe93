import AlignmentTally.Command.Lines

/-!
# Columns of lines

Commands that look at the columns in which characters stand: they break lines that are too wide, and
exchange tabs for blanks or blanks for tabs.
-/

namespace AlignmentTally.Command

open Machine

namespace Columns

/-! ### Breaking lines -/

/-- The column after a character. -/
def columnAfter (octets : Bool) (column : Nat) (c : Char) : Nat :=
  if octets then column + 1
  else if c = '\x08' then column - 1
  else if c = '\r' then 0
  else if c = '\t' then (column / 8 + 1) * 8
  else column + 1

/-- A line broken into pieces that are at most so wide, at blanks if that is asked for. `piece` is
the text of the open piece in reverse. -/
def foldLine (width : Nat) (blanks octets : Bool) : Nat → Text → Text → Nat → List Text → List Text
  | 0, _, piece, _, done => (piece.reverse :: done).reverse
  | rounds + 1, text, piece, column, done =>
    match text with
    | [] => (if piece.isEmpty then done else piece.reverse :: done).reverse
    | c :: rest =>
      let next := columnAfter octets column c
      let word := piece.takeWhile fun c ↦ c ≠ ' ' && c ≠ '\t'
      if next ≤ width then foldLine width blanks octets rounds rest (c :: piece) next done
      else if blanks ∧ word.length < piece.length then
        let kept := (piece.drop word.length).reverse
        let column := word.reverse.foldl (columnAfter octets) 0
        foldLine width blanks octets rounds text word column (kept :: done)
      else if piece.isEmpty then foldLine width blanks octets rounds rest [c] next done
      else foldLine width blanks octets rounds text [] 0 (piece.reverse :: done)

/-- The letters of options that are digits, with the digits that follow. -/
def digitLetters : String := "0::1::2::3::4::5::6::7::8::9::"

/-- The text of an option that is given by a letter, or by digits alone. -/
def numbered (chosen : List Chosen) (letter : Char) : List Text :=
  chosen.filterMap fun (c, text) ↦
    if c = letter then some text else if c.isDigit then some (c :: text) else none

/-- Writes lines broken into pieces. -/
def fold (arguments : List Text) : Work Unit := do
  let (chosen, paths) ← Choices.take
    { letters := "bsw:" ++ digitLetters
      words := [("bytes", 'b'), ("spaces", 's'), ("width=", 'w')] } arguments
  let mut width := 80
  for text in numbered chosen 'w' do
    width ← numberWithin "invalid number of columns".toList "" 1 (Amount.greatest - 9) text
  Work.mapFiles '\n' paths fun text ↦ (Text.wholes '\n' text).flatMap fun line ↦
    let body := withoutEnd line
    let pieces :=
      foldLine width (has chosen 's') (has chosen 'b') (2 * body.length + 2) body [] 0 []
    Text.join ['\n'] pieces ++ line.drop body.length

/-! ### Tab stops -/

/-- The columns to which tabs lead. -/
structure Stops where
  /-- The columns that are listed. -/
  listed : List Nat := []
  /-- The distance between the columns after those, counted from the start of the line. -/
  every : Nat := 0
  /-- The distance between the columns after those, counted from the last of them. -/
  onward : Nat := 0

/-- The column to which a tab leads, if there is one. -/
def Stops.next? (stops : Stops) (column : Nat) : Option Nat :=
  let multiple (size : Nat) : Nat := column + (size - column % size)
  match stops.listed with
  | [] =>
    some (multiple (if stops.every ≠ 0 then stops.every
      else if stops.onward ≠ 0 then stops.onward else 8))
  | listed =>
    match listed.find? (column < ·) with
    | some stop => some stop
    | none =>
      if stops.every ≠ 0 then some (multiple stops.every)
      else if stops.onward ≠ 0 then
        let last := listed.getLast?.getD 0
        some (column + (stops.onward - (column - last) % stops.onward))
      else if listed.length = 1 then some (multiple (listed.headD 8))
      else none

/-- What a number in a list of tab stops is. -/
inductive Mark where
  /-- A column. -/
  | column
  /-- A distance that is counted from the start of the line. -/
  | every
  /-- A distance that is counted from the last column. -/
  | onward

/-- Tab stops with one more number, or why there can be none. -/
def Stops.add (stops : Stops) (mark : Mark) (n : Nat) : Except Text Stops :=
  match mark with
  | .column => .ok { stops with listed := stops.listed ++ [n] }
  | .every =>
    if stops.every ≠ 0 then .error "'/' specifier only allowed with the last value"
    else .ok { stops with every := n }
  | .onward =>
    if stops.onward ≠ 0 then .error "'+' specifier only allowed with the last value"
    else .ok { stops with onward := n }

/-- The greatest number of a column. -/
def columnLimit : Nat := 18446744073709551615

/-- Tab stops with those that a text lists, or why there can be none. `number` is the number that is
being read. -/
def readStops (marks : Bool) : Text → Mark → Option Nat → Stops → Except Text Stops
  | [], mark, number, stops =>
    match number with
    | some n => stops.add mark n
    | none => .ok stops
  | c :: rest, mark, number, stops =>
    if c = ',' ∨ c = ' ' ∨ c = '\t' then
      match number with
      | some n => do readStops marks rest mark none (← stops.add mark n)
      | none => readStops marks rest mark none stops
    else if (c = '/' ∨ c = '+') ∧ marks then
      if number.isSome then
        .error ('\'' :: c :: "' specifier not at start of number: ".toList ++
          Quoted.word (c :: rest))
      else readStops marks rest (if c = '/' then .every else .onward) none stops
    else if c.isDigit then
      let n := number.getD 0 * 10 + (c.toNat - '0'.toNat)
      if columnLimit < n then
        .error ("tab stop is too large " ++ Quoted.word (Text.ofNat n ++ rest.takeWhile Char.isDigit))
      else readStops marks rest mark (some n) stops
    else .error ("tab size contains invalid character(s): " ++ Quoted.word (c :: rest))

/-- Whether numbers become greater and greater. -/
def areAscending : Nat → List Nat → Bool
  | _, [] => true
  | before, n :: rest => before < n && areAscending n rest

/-- The tab stops that texts list. Complaints end the command. -/
def stopsOf (texts : List Text) : Work Stops := do
  let mut stops : Stops := {}
  for text in texts do
    match readStops true text .column none stops with
    | .ok found => stops := found
    | .error words => Work.fail words 1
  if stops.listed.contains 0 then Work.fail "tab size cannot be 0" 1
  if ¬ areAscending 0 stops.listed then Work.fail "tab sizes must be ascending" 1
  if stops.every ≠ 0 ∧ stops.onward ≠ 0 then
    Work.fail "'/' specifier is mutually exclusive with '+'" 1
  return stops

/-- Writes what is made of the lines of files put together, so that a line may go on in the next
file. -/
def putJoined (paths : List Text) (change : Text → Text) : Work Unit := do
  let act (_ : Unit) (text : Text) : Work Unit :=
    Work.put ((Text.wholes '\n' text).flatMap change)
  let mut rest : Text := []
  for path in if paths.isEmpty then [['-']] else paths do
    match ← Work.open_ path with
    | .error error => Work.complainOf path error
    | .ok stream =>
      let (_, left, error) ← Work.foldWholes '\n' stream (fun _ ↦ false) act endless () rest
      rest := left
      if let some error := error then Work.complainOf path error
      Work.close stream
  Work.put (change rest)

/-! ### Blanks for tabs -/

/-- A line with its tabs replaced by blanks up to the next stop, all of them or only those in front
of everything else. -/
def expandLine (stops : Stops) (everywhere : Bool) : Text → Nat → Text
  | [], _ => []
  | c :: rest, column =>
    if c = '\t' then
      let next := (stops.next? column).getD (column + 1)
      List.replicate (next - column) ' ' ++ expandLine stops everywhere rest next
    else if c = '\x08' then
      c :: (if everywhere then expandLine stops everywhere rest (column - 1) else rest)
    else if everywhere ∨ c = ' ' then c :: expandLine stops everywhere rest (column + 1)
    else c :: rest

/-- Writes lines with their tabs replaced by blanks. -/
def expand (arguments : List Text) : Work Unit := do
  let (chosen, paths) ← Choices.take
    { letters := "it:" ++ digitLetters, words := [("initial", 'i'), ("tabs=", 't')] } arguments
  let stops ← stopsOf (numbered chosen 't')
  putJoined paths fun line ↦ expandLine stops (!has chosen 'i') line 0

/-! ### Tabs for blanks -/

/-- Blanks that are not written yet, because a tab may take their place. -/
structure Pending where
  /-- The column of the next character. -/
  column : Nat := 0
  /-- The blanks. -/
  blanks : Text := []
  /-- Whether the first of them came just before a stop. -/
  atStop : Bool := false
  /-- Whether the character before was a blank. -/
  afterBlank : Bool := true

/-- The blanks as they are written after all. -/
def Pending.written (pending : Pending) : Text :=
  match pending.blanks with
  | _ :: second :: rest => if pending.atStop then '\t' :: second :: rest else pending.blanks
  | blanks => blanks

/-- A line with blanks replaced by tabs where they lead to a stop, all of them or only those in front
of everything else. -/
def unexpandLine (stops : Stops) (everywhere : Bool) : Text → Pending → Text
  | [], pending => pending.written
  | c :: rest, pending =>
    let isBlank : Bool := c = ' ' || c = '\t'
    if isBlank then
      match stops.next? pending.column with
      | none => pending.written ++ c :: rest
      | some next =>
        let isReached : Bool := pending.column + 1 = next
        if c = ' ' ∧ ¬ (pending.afterBlank ∧ isReached) then
          unexpandLine stops everywhere rest
            { column := pending.column + 1
              blanks := pending.blanks ++ [c]
              atStop := pending.atStop || isReached
              afterBlank := true }
        else
          -- a tab takes the place of the blanks, except for a single one just before a stop
          let kept : Text := if pending.atStop then ['\t'] else []
          kept ++ '\t' :: unexpandLine stops everywhere rest { column := next }
    else if c = '\x08' then
      pending.written ++ c ::
        (if everywhere then
          unexpandLine stops everywhere rest { column := pending.column - 1, afterBlank := false }
        else rest)
    else if everywhere then
      pending.written ++ c ::
        unexpandLine stops everywhere rest { column := pending.column + 1, afterBlank := false }
    else pending.written ++ c :: rest

/-- Writes lines with blanks replaced by tabs. -/
def unexpand (arguments : List Text) : Work Unit := do
  let (chosen, paths) ← Choices.take
    { letters := "at:,0123456789"
      words := [("all", 'a'), ("first-only", 'f'), ("tabs=", 't')] } arguments
  let digits := (chosen.map Prod.fst).filter fun c ↦ c.isDigit || c = ','
  let lists := (chosen.filter (·.1 = 't')).map Prod.snd
  let stops ← stopsOf (lists ++ [digits])
  let everywhere := (has chosen 'a' || !lists.isEmpty || !digits.isEmpty) && !has chosen 'f'
  putJoined paths fun line ↦ unexpandLine stops everywhere line {}

end Columns

end AlignmentTally.Command
