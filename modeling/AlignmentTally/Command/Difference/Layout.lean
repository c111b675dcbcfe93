import AlignmentTally.Command.Difference.Script
import AlignmentTally.Command.Difference.Template
import AlignmentTally.Regex.Reader

/-!
# How differences are told

Differences between two files of lines come in several formats: change by change, with lines around
them in one block or two, as commands of an editor, or side by side. Changes that are close to each
other stand in one block. A change all of whose lines may be ignored is not told.
-/

namespace AlignmentTally.Command.Difference

open Machine

/-- A file that is compared. -/
structure Side where
  /-- Its name. -/
  name : Text
  /-- When it was changed last, or nothing if the name is not its own. -/
  stamp : Option Text := none
  /-- Its lines, without their ends. -/
  lines : Array Text := #[]
  /-- Whether the last line has an end. -/
  isComplete : Bool := true

/-- A format. -/
inductive Format where
  /-- Change by change. -/
  | plain
  /-- With lines around, the two files one after the other. -/
  | context
  /-- With lines around, the two files in one. -/
  | unified
  /-- As commands of an editor, from the last one on. -/
  | editing
  /-- As commands of an editor in the order of the lines. -/
  | forward
  /-- As commands with counts. -/
  | counted
  /-- Side by side. -/
  | beside
  /-- As templates say. -/
  | templated
  deriving DecidableEq, Repr

/-- What a piece of text says, which decides its colour. -/
inductive Role where
  /-- Which file is meant. -/
  | title
  /-- Which lines are meant. -/
  | place
  /-- What is in the first file only. -/
  | old
  /-- What is in the second file only. -/
  | new
  deriving DecidableEq, Repr

/-- What blanks count for when lines are compared. -/
inductive Blanks where
  /-- For what they are. -/
  | all
  /-- At the end for nothing. -/
  | notAtEnd
  /-- At the end for nothing, and otherwise several of them for one. -/
  | asOne
  /-- For nothing. -/
  | nothing
  deriving DecidableEq, Repr

/-- How files are compared and differences are told. -/
structure Manner where
  /-- The format. -/
  format : Format := .plain
  /-- The number of lines around a change. -/
  around : Nat := 3
  /-- Whether the case of letters counts for nothing. -/
  foldsCase : Bool := false
  /-- What blanks count for. -/
  blanks : Blanks := .all
  /-- Whether a tab counts for the blanks that it stands for. -/
  spreads : Bool := false
  /-- Whether lines without characters may be ignored. -/
  ignoresEmpty : Bool := false
  /-- Expressions for lines that may be ignored. -/
  ignored : List Regex := []
  /-- The expression for lines that head what follows. -/
  heading : Option Regex := none
  /-- Whether a tab stands in front of each line. -/
  tabFirst : Bool := false
  /-- Whether tabs are shown as blanks. -/
  expands : Bool := false
  /-- The width of tabs. -/
  tabSize : Nat := 8
  /-- Whether a blank in front of an empty line is left out. -/
  trimsEmpty : Bool := false
  /-- The width of what is shown side by side. -/
  width : Nat := 130
  /-- Whether lines that both files have are shown once. -/
  onlyLeft : Bool := false
  /-- Whether lines that both files have are not shown. -/
  onlyChanges : Bool := false
  /-- Whether all elements are searched for. -/
  searchesAll : Bool := false
  /-- The number of equal lines at the start and the end that take part in the search. -/
  horizon : Nat := 0
  /-- The templates. -/
  templates : Templates := {}
  /-- Whether colours are shown. -/
  isColored : Bool := false

/-- A text in the colour of a role. -/
def Manner.painted (manner : Manner) (role : Option Role) (text : Text) : Text :=
  match role with
  | none => text
  | some role =>
    let code :=
      match role with
      | .title => "1"
      | .place => "36"
      | .old => "31"
      | .new => "32"
    if manner.isColored then "\x1b[" ++ code.toList ++ 'm' :: text ++ "\x1b[0m" else text

/-- Whether a format can tell that a last line has no end. -/
def Format.tellsEnd : Format → Bool
  | .editing | .forward => false
  | _ => true

/-- Whether a character is a blank. -/
def isSpace (c : Char) : Bool := " \t\n\x0b\x0c\r".toList.contains c

/-- A line with its tabs as blanks, from a column on. -/
def spread (size : Nat) : Nat → Text → Text
  | _, [] => []
  | column, '\t' :: rest =>
    let count := size - column % size
    List.replicate count ' ' ++ spread size (column + count) rest
  | _, '\r' :: rest => '\r' :: spread size 0 rest
  | column, '\x08' :: rest => '\x08' :: spread size (column - 1) rest
  | column, c :: rest => c :: spread size (column + 1) rest

/-- What counts of a line when it is compared. -/
def Manner.reduced (manner : Manner) (line : Text) : Text :=
  let line := if manner.foldsCase then line.map Char.toLower else line
  let line := if manner.spreads then spread manner.tabSize 0 line else line
  match manner.blanks with
  | .all => line
  | .notAtEnd => Text.trimEnd isSpace line
  | .asOne =>
    let words := Text.words isSpace line
    let start : Text := if line.head?.any isSpace ∧ ¬ words.isEmpty then [' '] else []
    start ++ Text.join [' '] words
  | .nothing => line.filter (!isSpace ·)

namespace Side

/-- A line with its end. -/
def whole (side : Side) (place : Nat) : Text :=
  let line := (side.lines[place]?).getD []
  if side.isComplete ∨ place + 1 < side.lines.size then line ++ ['\n'] else line

/-- Whether a line has an end. -/
def hasEnd (side : Side) (place : Nat) : Bool := side.isComplete || place + 1 < side.lines.size

end Side

/-- Two files that are compared. -/
structure Sides where
  /-- The first file. -/
  first : Side
  /-- The second file. -/
  second : Side

/-- The number of lines that two lists have in common at their start. -/
def commonStart : List Text → List Text → Nat
  | a :: first, b :: second => if a = b then commonStart first second + 1 else 0
  | _, _ => 0

/-- Numbers for texts: the place of the first equal one. -/
def numbered (texts : List Text) : Array Nat :=
  let sorted := texts.zipIdx.mergeSort fun a b ↦ !Text.before b.1 a.1
  let step (state : Array Nat × Option (Text × Nat)) (entry : Text × Nat) :
      Array Nat × Option (Text × Nat) :=
    match state.2 with
    | some (text, number) =>
      if text = entry.1 then (state.1.setIfInBounds entry.2 number, state.2)
      else (state.1.setIfInBounds entry.2 entry.2, some entry)
    | none => (state.1.setIfInBounds entry.2 entry.2, some entry)
  (sorted.foldl step (Array.replicate texts.length 0, none)).1

/-- The differences between two files. -/
def Sides.changes (manner : Manner) (sides : Sides) : List Change :=
  let wholes (side : Side) : List Text := (List.range side.lines.size).map side.whole
  let first := wholes sides.first
  let second := wholes sides.second
  let start := commonStart first second - manner.horizon
  let start := if first = second then first.length else start
  let (first, second) := (first.drop start, second.drop start)
  let sameEnds := sides.first.isComplete = sides.second.isComplete
  let common :=
    if sameEnds ∨ ¬ manner.format.tellsEnd then commonStart first.reverse second.reverse else 0
  let common := common - manner.horizon
  let keys (side : Side) (count : Nat) : List Text :=
    (List.range (count - common)).map fun i ↦
      let place := start + i
      let key := manner.reduced ((side.lines[place]?).getD [])
      let isApart := !side.hasEnd place && manner.format.tellsEnd && manner.blanks = .all
      if isApart then key else key ++ ['\n']
  let (firstKeys, secondKeys) := (keys sides.first first.length, keys sides.second second.length)
  let numbers := numbered (firstKeys ++ secondKeys)
  let pair : Pair :=
    ⟨numbers.extract 0 firstKeys.length, numbers.extract firstKeys.length numbers.size⟩
  (script (!manner.searchesAll) pair).map fun change ↦
    { change with first := change.first + start, second := change.second + start }

/-! ### Which changes count -/

/-- Whether a line may be ignored. -/
def Manner.ignores (manner : Manner) (line : Text) : Bool :=
  let rest :=
    match manner.blanks with
    | .all => line
    | .notAtEnd => if line.all isSpace then [] else line
    | _ => line.dropWhile isSpace
  (manner.ignoresEmpty && rest.isEmpty) ||
    manner.ignored.any fun regex ↦ (Regex.find? {} regex line).isSome

/-- Whether all lines of a change may be ignored. -/
def Manner.isMinor (manner : Manner) (sides : Sides) (change : Change) : Bool :=
  (manner.ignoresEmpty || !manner.ignored.isEmpty) &&
    ((sides.first.lines.extract change.first (change.first + change.deleted)).all manner.ignores &&
      (sides.second.lines.extract change.second (change.second + change.inserted)).all
        manner.ignores)

/-! ### Lines -/

/-- What is said of a last line without an end. -/
def unended : Text := "\n\\ No newline at end of file\n"

/-- A line as it is shown after a sign, if there is one. -/
def shownLine (manner : Manner) (role : Option Role) (sign : Text) (side : Side) (place : Nat) :
    Text :=
  let line := (side.lines[place]?).getD []
  let isEmpty := manner.trimsEmpty && line.isEmpty
  let front : Text :=
    if sign.isEmpty then []
    else if isEmpty then if sign = [' '] then [] else sign
    else sign ++ [if manner.tabFirst then '\t' else ' ']
  let line := if manner.expands then spread manner.tabSize 0 line else line
  manner.painted role (front ++ line) ++ if side.hasEnd place then ['\n'] else unended

/-- Lines from a place on as they are shown after a sign. -/
def shownLines (manner : Manner) (role : Role) (sign : Text) (side : Side) (start count : Nat) :
    Text :=
  (List.range count).flatMap fun i ↦ shownLine manner (some role) sign side (start + i)

/-- The numbers of the first and the last of some lines; if there are none, the last is the line
before them. -/
def range (separator : Char) (start count : Nat) : Text :=
  if 1 < count then Text.ofNat (start + 1) ++ separator :: Text.ofNat (start + count)
  else Text.ofNat (start + count)

/-- The letter for a change. -/
def letter (change : Change) : Char :=
  if change.deleted = 0 then 'a' else if change.inserted = 0 then 'd' else 'c'

/-- A change in the plain format. -/
def plain (manner : Manner) (sides : Sides) (change : Change) : Text :=
  manner.painted (some .place) (range ',' change.first change.deleted ++ letter change ::
    range ',' change.second change.inserted) ++ '\n' ::
    shownLines manner .old ['<'] sides.first change.first change.deleted ++
    (if change.deleted ≠ 0 ∧ change.inserted ≠ 0 then "---\n".toList else []) ++
    shownLines manner .new ['>'] sides.second change.second change.inserted

/-! ### Commands of an editor -/

/-- The lines that an editor is given, and whether it still takes lines. -/
def typed (sides : Sides) (place : Nat) : Nat → Bool → Text
  | 0, takesLines => if takesLines then ".\n" else []
  | count + 1, takesLines =>
    let line := (sides.second.lines[place]?).getD []
    let start : Text := if takesLines then [] else "a\n"
    if line = ['.'] then start ++ "..\n.\ns/.//\n".toList ++ typed sides (place + 1) count false
    else start ++ line ++ '\n' :: typed sides (place + 1) count true

/-- A change as a command of an editor. -/
def editing (sides : Sides) (change : Change) : Text :=
  range ',' change.first change.deleted ++ letter change :: '\n' ::
    if change.inserted = 0 then [] else typed sides change.second change.inserted true

/-- A change as a command of an editor, with the letter in front. -/
def forward (sides : Sides) (change : Change) : Text :=
  let lines := (List.range change.inserted).flatMap fun i ↦
    ((sides.second.lines[change.second + i]?).getD []) ++ ['\n']
  letter change :: range ' ' change.first change.deleted ++ '\n' ::
    if change.inserted = 0 then [] else lines ++ ".\n".toList

/-- A change as commands with counts. -/
def counted (sides : Sides) (change : Change) : Text :=
  let (first, second) := (change.first, change.second)
  let deletion : Text :=
    if change.deleted = 0 then []
    else 'd' :: Text.ofNat (first + 1) ++ ' ' :: Text.ofNat change.deleted ++ ['\n']
  let lines := (List.range change.inserted).flatMap fun i ↦ sides.second.whole (second + i)
  let insertion : Text :=
    if change.inserted = 0 then []
    else 'a' :: Text.ofNat (first + change.deleted) ++ ' ' :: Text.ofNat change.inserted ++ '\n' ::
      lines
  deletion ++ insertion

/-! ### Blocks with lines around -/

/-- Changes in blocks: those that are not far from each other together. -/
def blocks (around : Nat) : List Change → List (List Change)
  | [] => []
  | change :: rest =>
    match blocks around rest with
    | (next :: block) :: others =>
      let most := if change.isMinor ∨ next.isMinor then around else 2 * around + 1
      if next.first - (change.first + change.deleted) < most then
        (change :: next :: block) :: others
      else [change] :: (next :: block) :: others
    | others => [change] :: others

/-- The lines of both files that a block covers. -/
structure Window where
  /-- The first line of the first file. -/
  first : Nat
  /-- The number of lines of the first file. -/
  firstCount : Nat
  /-- The first line of the second file. -/
  second : Nat
  /-- The number of lines of the second file. -/
  secondCount : Nat

/-- The lines that a block covers, with those around it. -/
def window (manner : Manner) (sides : Sides) (block : List Change) : Window :=
  let start := block.headD default
  let stop := block.getLastD default
  let around := manner.around
  let first := start.first - around
  let second := start.second - around
  let cover (start stop size : Nat) : Nat := min (stop + around) size - start
  { first
    firstCount := cover first (stop.first + stop.deleted) sides.first.lines.size
    second
    secondCount := cover second (stop.second + stop.inserted) sides.second.lines.size }

/-- The line before a block that heads it, as it is shown after the signs of the block. -/
def headingOf (manner : Manner) (side : Side) (place : Nat) : Text :=
  match manner.heading with
  | none => []
  | some regex =>
    let before := (side.lines.extract 0 place).toList.reverse
    match before.find? fun line ↦ (Regex.find? {} regex line).isSome with
    | none => []
    | some line => ' ' :: Text.trimEnd isSpace ((line.dropWhile isSpace).take 40)

/-- The number of the first line and the number of lines. -/
def counts (start count : Nat) : Text :=
  if count = 0 then Text.ofNat start ++ ",0"
  else if count = 1 then Text.ofNat (start + 1)
  else Text.ofNat (start + 1) ++ ',' :: Text.ofNat count

/-- A line of a block after a sign. -/
def marked (manner : Manner) (sign : Char) (side : Side) (place : Nat) : Text :=
  let line := (side.lines[place]?).getD []
  let isEmpty := manner.trimsEmpty && line.isEmpty
  let tab : Text := if manner.tabFirst ∧ ¬ isEmpty then ['\t'] else []
  let front : Text :=
    if sign ≠ ' ' then sign :: tab
    else if isEmpty then []
    else if manner.tabFirst then ['\t'] else [' ']
  let role : Option Role :=
    if sign = '-' then some .old else if sign = '+' then some .new else none
  let line := if manner.expands then spread manner.tabSize 0 line else line
  manner.painted role (front ++ line) ++ if side.hasEnd place then ['\n'] else unended

/-- The lines of a block, from a place on up to another one, in which the two files are in one. -/
def unifiedLines (manner : Manner) (sides : Sides) (stop : Nat) : List Change → Nat → Text
  | [], place => (List.range (stop - place)).flatMap fun i ↦
      marked manner ' ' sides.first (place + i)
  | change :: rest, place =>
    ((List.range (change.first - place)).flatMap fun i ↦
      marked manner ' ' sides.first (place + i)) ++
      ((List.range change.deleted).flatMap fun i ↦
        marked manner '-' sides.first (change.first + i)) ++
      ((List.range change.inserted).flatMap fun i ↦
        marked manner '+' sides.second (change.second + i)) ++
      unifiedLines manner sides stop rest (change.first + change.deleted)

/-- A block in which the two files are in one. -/
def unified (manner : Manner) (sides : Sides) (block : List Change) : Text :=
  let window := window manner sides block
  manner.painted (some .place) ("@@ -" ++ counts window.first window.firstCount ++ " +" ++
    counts window.second window.secondCount ++ " @@") ++
    headingOf manner sides.first window.first ++ '\n' ::
    unifiedLines manner sides (window.first + window.firstCount) block window.first

/-- The lines of one file in a block. -/
def sideLines (manner : Manner) (role : Role) (side : Side) (start count : Nat)
    (mark : Nat → Option Char) : Text :=
  (List.range count).flatMap fun i ↦
    shownLine manner (some role) [(mark (start + i)).getD ' '] side (start + i)

/-- A block in which the two files come one after the other. -/
def context (manner : Manner) (sides : Sides) (block : List Change) : Text :=
  let window := window manner sides block
  let mark (own : Char) (start count others : Change → Nat) (place : Nat) : Option Char :=
    (block.find? fun change ↦
      start change ≤ place && place < start change + count change).map fun change ↦
        if others change = 0 then own else '!'
  let deletes := block.any (·.deleted ≠ 0)
  let inserts := block.any (·.inserted ≠ 0)
  let first : Text :=
    if deletes then
      sideLines manner .old sides.first window.first window.firstCount
        (mark '-' Change.first Change.deleted Change.inserted)
    else []
  let second : Text :=
    if inserts then
      sideLines manner .new sides.second window.second window.secondCount
        (mark '+' Change.second Change.inserted Change.deleted)
    else []
  "***************" ++ headingOf manner sides.first window.first ++ '\n' ::
    manner.painted (some .place)
      ("*** " ++ range ',' window.first window.firstCount ++ " ****") ++ '\n' :: first ++
    manner.painted (some .place)
      ("--- " ++ range ',' window.second window.secondCount ++ " ----") ++ '\n' :: second

/-- The lines that name a file, after a sign. -/
def title (manner : Manner) (sign : Text) (side : Side) : Text :=
  manner.painted (some .title)
    (sign ++ ' ' :: side.name ++ (side.stamp.elim [] fun stamp ↦ '\t' :: stamp)) ++ ['\n']

/-! ### Side by side -/

/-- Where the columns are. -/
structure Columns where
  /-- The width of a column. -/
  half : Nat
  /-- Where the second column begins. -/
  second : Nat

/-- The columns for a width. -/
def Columns.of (manner : Manner) : Columns :=
  let gutter := 3
  let tab := if manner.expands then 1 else manner.tabSize
  let width := manner.width
  let loose := width / 2 + (tab + gutter) / 2 +
    (if width % 2 = 1 ∧ (tab + gutter) % 2 = 1 then 1 else 0)
  let start := loose - loose % tab
  let half := min (start - gutter) (width - start)
  ⟨half, if half = 0 then width else start⟩

/-- The blanks from a column to another one. -/
def gap (manner : Manner) (start stop : Nat) : Text :=
  let size := manner.tabSize
  let tabs := if manner.expands then 0 else stop / size - start / size
  let start := if tabs = 0 then start else stop / size * size
  List.replicate tabs '\t' ++ List.replicate (stop - start) ' '

/-- As much of a line as fits into a column, and the column at which it ends. `place` is the place in
the line, `column` that in what is shown. -/
def halfLine (manner : Manner) (width : Nat) : Text → Nat → Nat → Text × Nat
  | [], _, column => ([], column)
  | '\t' :: rest, place, column =>
    let count := manner.tabSize - place % manner.tabSize
    let stop := column + count
    if place ≠ column then halfLine manner width rest (place + count) column
    else if manner.expands then
      let stop := min stop width
      let (text, last) := halfLine manner width rest (place + count) (max column stop)
      (List.replicate (stop - column) ' ' ++ text, last)
    else if stop < width then
      let (text, last) := halfLine manner width rest (place + count) stop
      ('\t' :: text, last)
    else halfLine manner width rest (place + count) column
  | '\r' :: rest, _, _ =>
    let (text, last) := halfLine manner width rest 0 0
    ('\r' :: text, last)
  | c :: rest, place, column =>
    if c = '\x0b' ∨ c = '\x0c' then
      let (text, last) := halfLine manner width rest place column
      (if place < width then c :: text else text, last)
    else if place < width then
      let (text, last) := halfLine manner width rest (place + 1) (place + 1)
      (c :: text, last)
    else halfLine manner width rest (place + 1) column

/-- Two lines side by side, with a sign between them. -/
def pairLine (manner : Manner) (sides : Sides) (left : Option Nat) (sign : Char)
    (right : Option Nat) : Text :=
  let columns := Columns.of manner
  let leftEnds := left.any sides.first.hasEnd
  let rightEnds := right.any sides.second.hasEnd
  let (text, column) :=
    match left with
    | some place => halfLine manner columns.half ((sides.first.lines[place]?).getD []) 0 0
    | none => ([], 0)
  let middle := (columns.half + columns.second - 1) / 2
  let sign :=
    if sign = '|' ∧ leftEnds ≠ rightEnds then if leftEnds then '/' else '\\' else sign
  let (between, column) : Text × Nat :=
    if sign = ' ' then ([], column) else (gap manner column middle ++ [sign], middle + 1)
  let other : Text :=
    match right with
    | some place =>
      let line := (sides.second.lines[place]?).getD []
      if line.isEmpty ∧ rightEnds then []
      else gap manner column columns.second ++ (halfLine manner columns.half line 0 0).1
    | none => []
  let role : Option Role :=
    if sign = '>' then some .new else if sign = '<' then some .old else none
  manner.painted role
    (text ++ between ++ other ++ if leftEnds ∨ rightEnds then ['\n'] else [])

/-- Lines up to two places that do not differ, side by side. Where changes were ignored, one file may
have more of them. -/
def commonLines (manner : Manner) (sides : Sides) (first second firstStop secondStop : Nat) : Text :=
  let both := min (firstStop - first) (secondStop - second)
  if manner.onlyChanges then []
  else
    ((List.range both).flatMap fun i ↦
      if manner.onlyLeft then pairLine manner sides (some (first + i)) '(' none
      else pairLine manner sides (some (first + i)) ' ' (some (second + i))) ++
    ((List.range (secondStop - second - both)).flatMap fun i ↦
      pairLine manner sides none ')' (some (second + both + i))) ++
    (List.range (firstStop - first - both)).flatMap fun i ↦
      pairLine manner sides (some (first + both + i)) '(' none

/-- All lines side by side, from two places on. -/
def beside (manner : Manner) (sides : Sides) : List Change → Nat → Nat → Text
  | [], first, second =>
    commonLines manner sides first second sides.first.lines.size sides.second.lines.size
  | change :: rest, first, second =>
    let both := min change.deleted change.inserted
    commonLines manner sides first second change.first change.second ++
      ((List.range both).flatMap fun i ↦
        pairLine manner sides (some (change.first + i)) '|' (some (change.second + i))) ++
      ((List.range (change.inserted - both)).flatMap fun i ↦
        pairLine manner sides none '>' (some (change.second + both + i))) ++
      ((List.range (change.deleted - both)).flatMap fun i ↦
        pairLine manner sides (some (change.first + both + i)) '<' none) ++
      beside manner sides rest (change.first + change.deleted) (change.second + change.inserted)

/-! ### By templates -/

/-- Some lines of both files as the template for them writes them. -/
def grouped (manner : Manner) (sides : Sides) (template : Text) (first second : Extent) : Text :=
  let line (side : Side) (place : Nat) (hasEnd : Bool) : Text :=
    let line := (side.lines[place]?).getD []
    let line := if manner.expands then spread manner.tabSize 0 line else line
    if hasEnd ∧ side.hasEnd place then line ++ ['\n'] else line
  let lines (origin : Origin) : Text :=
    let template := manner.templates.line origin
    let pieces := readLinePieces template.length template
    if origin = .new then writeLines pieces (line sides.second) second
    else writeLines pieces (line sides.first) first
  Group.write ⟨first, second, lines⟩ (readGroupPieces (template.length + 1) none template).1

/-- All lines as templates write them, from two places on. -/
def templated (manner : Manner) (sides : Sides) : List Change → Nat → Nat → Text
  | [], first, second =>
    let (firstStop, secondStop) := (sides.first.lines.size, sides.second.lines.size)
    if first < firstStop ∨ second < secondStop then
      grouped manner sides (manner.templates.group .common) ⟨first, firstStop⟩ ⟨second, secondStop⟩
    else []
  | change :: rest, first, second =>
    let template :=
      if change.deleted = 0 then manner.templates.group .new
      else if change.inserted = 0 then manner.templates.group .old
      else manner.templates.changed
    let before :=
      if first < change.first ∨ second < change.second then
        grouped manner sides (manner.templates.group .common)
          ⟨first, change.first⟩ ⟨second, change.second⟩
      else []
    let (firstStop, secondStop) :=
      (change.first + change.deleted, change.second + change.inserted)
    before ++
      grouped manner sides template ⟨change.first, firstStop⟩ ⟨change.second, secondStop⟩ ++
      templated manner sides rest firstStop secondStop

/-! ### All of it -/

/-- Whether something is told even if there are no differences. -/
def Manner.tellsCommon (manner : Manner) : Bool :=
  match manner.format with
  | .beside => !manner.onlyChanges
  | .templated => !manner.templates.hidesCommon
  | _ => false

/-- The differences between two files in a format. -/
def told (manner : Manner) (sides : Sides) (changes : List Change) : Text :=
  let marked := changes.map fun change ↦ { change with isMinor := manner.isMinor sides change }
  let major := marked.filter (!·.isMinor)
  let blocks := (blocks manner.around marked).filter (·.any (!·.isMinor))
  match manner.format with
  | .plain => major.flatMap (plain manner sides)
  | .editing => major.reverse.flatMap (editing sides)
  | .forward => major.flatMap (forward sides)
  | .counted => major.flatMap (counted sides)
  | .unified =>
    if blocks.isEmpty then []
    else title manner "---" sides.first ++ title manner "+++" sides.second ++
      blocks.flatMap (unified manner sides)
  | .context =>
    if blocks.isEmpty then []
    else title manner "***" sides.first ++ title manner "---" sides.second ++
      blocks.flatMap (context manner sides)
  | .beside => beside manner sides major 0 0
  | .templated => templated manner sides major 0 0

end AlignmentTally.Command.Difference
