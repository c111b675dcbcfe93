import AlignmentTally.Regex.Basic

/-!
# Selecting lines

Which lines of a text some expressions fit, and how the selected ones are shown: with the name of
the file, with numbers, with the lines around them, or only the parts that fit. Between lines that
do not follow one another stands a separator, if lines around them are shown.
-/

namespace AlignmentTally.Command.Search

open Machine

/-- What is looked for and how it is shown. -/
structure Task where
  /-- The expressions, one of which has to fit. -/
  regexes : List Regex
  /-- Whether small and capital letters are the same. -/
  foldsCase : Bool := false
  /-- Whether an expression has to fit a whole line. -/
  wholeLines : Bool := false
  /-- Whether an expression has to fit whole words. -/
  wholeWords : Bool := false
  /-- Whether the lines are selected that no expression fits. -/
  inverts : Bool := false
  /-- Whether only the parts that fit are shown. -/
  onlyParts : Bool := false
  /-- Whether the number of a line is shown. -/
  showsNumbers : Bool := false
  /-- Whether the number of octets before a line is shown. -/
  showsOffsets : Bool := false
  /-- Whether lines are shown after a tab, with numbers in a column. -/
  aligns : Bool := false
  /-- The width of the column. -/
  columns : Nat := 0
  /-- Whether a zero octet ends the name of a file. -/
  endsNames : Bool := false
  /-- The number of lines that are shown before a selected one, if that was asked for. -/
  before : Option Nat := none
  /-- The number of lines that are shown after a selected one, if that was asked for. -/
  after : Option Nat := none
  /-- The most lines of a file that are selected. -/
  most : Option Nat := none
  /-- What stands between lines that do not follow one another. -/
  separator : Option Text := some "--".toList
  /-- What ends a line. -/
  lineEnd : Char := '\n'

/-- A line of a text. -/
structure Line where
  /-- Its number, from 1 on. -/
  number : Nat
  /-- The number of octets before it. -/
  offset : Nat
  /-- The line without its end. -/
  text : Text

/-- The lines of a text, with the number of the first one and the number of octets before it. -/
def linesOf (lineEnd : Char) (number offset : Nat) (text : Text) : List Line :=
  let (lines, _) := (Text.pieces lineEnd text).foldl
    (fun (lines, number, offset) piece ↦
      (⟨number, offset, piece⟩ :: lines, number + 1, offset + piece.length + 1))
    (([] : List Line), number, offset)
  lines.reverse

/-! ### What fits -/

/-- The longest end of a fit from a place on, among those that are allowed. -/
def Task.endAt? (task : Task) (place : Regex.Place) : Option Regex.End :=
  let isEdge (c : Option Char) : Bool := !c.any Regex.isWordChar
  let isAllowed (e : Regex.End) : Bool :=
    if task.wholeLines then place.index = 0 && e.place.rest.isEmpty
    else !task.wholeWords || (isEdge place.before && isEdge e.place.rest.head?)
  let ends := task.regexes.flatMap fun regex ↦
    regex.ends { foldsCase := task.foldsCase } ⟨place, []⟩
  Regex.longest? (ends.filter isAllowed)

/-- The first fit from some places on. -/
def Task.searchFrom (task : Task) : Text → Nat → Option Char → Option Regex.Fit
  | rest, index, before =>
    match task.endAt? ⟨index, before, rest⟩ with
    | some e => some ⟨⟨index, before, rest⟩, e.place, e.groups⟩
    | none =>
      match rest with
      | [] => none
      | c :: rest => searchFrom task rest (index + 1) (some c)

/-- The parts of a line that fit and are not empty, each with its place, in at most some rounds. -/
def Task.parts (task : Task) : Nat → Regex.Place → List (Nat × Text)
  | 0, _ => []
  | rounds + 1, place =>
    match task.searchFrom place.rest place.index place.before with
    | none => []
    | some fit =>
      if fit.text.isEmpty then
        if fit.finish.rest.isEmpty then [] else task.parts rounds (fit.finish.forward 1)
      else (fit.start.index, fit.text) :: task.parts rounds fit.finish

/-- Whether a line is selected. -/
def Task.selects (task : Task) (line : Text) : Bool :=
  (task.searchFrom line 0 none).isSome ≠ task.inverts

/-- Whether the task with some patterns can select no line: there are none, or the only one is
empty and lines are wanted that it does not fit. -/
def Task.isIdle (task : Task) (patterns : List Text) : Bool :=
  if task.inverts then patterns = [[]] && !task.wholeLines && !task.wholeWords
  else patterns.isEmpty

/-! ### How lines are shown -/

/-- What stands in front of a line: the name of the file, if it is shown, and numbers, each with a
mark behind it. -/
def Task.front (task : Task) (name? : Option Text) (mark : Char) (number offset : Nat) : Text :=
  let column (n : Nat) : Text :=
    if task.aligns then Text.padLeft ' ' task.columns (Text.ofNat n) else Text.ofNat n
  let name : Text := name?.elim [] fun name ↦ name ++ [if task.endsNames then '\x00' else mark]
  let numbers := if task.showsNumbers then column number ++ [mark] else []
  let offsets := if task.showsOffsets then column offset ++ [mark] else []
  let front := name ++ numbers ++ offsets
  if task.aligns ∧ ¬ front.isEmpty then front ++ ['\t'] else front

/-- How a line is shown that is selected. -/
def Task.showSelected (task : Task) (name? : Option Text) (line : Line) : Text :=
  if task.onlyParts then
    if task.inverts then []
    else
      (task.parts (line.text.length + 1) ⟨0, none, line.text⟩).flatMap fun (index, part) ↦
        task.front name? ':' line.number (line.offset + index) ++ part ++ [task.lineEnd]
  else task.front name? ':' line.number line.offset ++ line.text ++ [task.lineEnd]

/-- How a line is shown that stands near a selected one. -/
def Task.showNear (task : Task) (name? : Option Text) (line : Line) : Text :=
  if task.onlyParts then []
  else task.front name? '-' line.number line.offset ++ line.text ++ [task.lineEnd]

/-- How far a file has been gone through. -/
structure Progress where
  /-- Whether a line was shown, of this file or one before. -/
  hasShown : Bool
  /-- What was shown of this file, the last piece first. -/
  pieces : List Text := []
  /-- The number of selected lines. -/
  count : Nat := 0
  /-- The number of octets up to the end of the last selected line. -/
  reached : Nat := 0
  /-- The number of the last line that was shown. -/
  last : Nat := 0
  /-- How many lines are still shown after a selected one. -/
  pending : Nat := 0
  /-- The last lines that were not shown, the last one first. -/
  held : List Line := []

/-- Shows a selected line with those before it. -/
def Progress.select (task : Task) (name? : Option Text) (line : Line) (progress : Progress) :
    Progress :=
  let near := progress.held.reverse
  let first := (near.head?.map (·.number)).getD line.number
  let isApart := progress.last = 0 || progress.last + 1 < first
  let separates := (task.before.isSome || task.after.isSome) && progress.hasShown && isApart
  let separator : List Text :=
    if separates then (task.separator.map (· ++ ['\n'])).toList else []
  let shown := separator ++ near.map (task.showNear name?) ++ [task.showSelected name? line]
  { hasShown := true
    pieces := shown.reverse ++ progress.pieces
    count := progress.count + 1
    reached := line.offset + line.text.length + 1
    last := line.number
    pending := task.after.getD 0
    held := [] }

/-- Goes on to one more line. -/
def Progress.pass (task : Task) (name? : Option Text) (line : Line) (progress : Progress) :
    Progress :=
  if 0 < progress.pending then
    { progress with
      pieces := task.showNear name? line :: progress.pieces
      last := line.number
      pending := progress.pending - 1 }
  else { progress with held := (line :: progress.held).take (task.before.getD 0) }

/-- Goes through lines, until enough of them were selected and shown. -/
def Task.goThrough (task : Task) (name? : Option Text) : List Line → Progress → Progress
  | [], progress => progress
  | line :: rest, progress =>
    if task.most.any (· ≤ progress.count) then
      if progress.pending = 0 then progress
      else task.goThrough name? rest (progress.pass task name? line)
    else if task.selects line.text then task.goThrough name? rest (progress.select task name? line)
    else task.goThrough name? rest (progress.pass task name? line)

/-- The selected lines, at most some number. -/
def Task.selected (task : Task) : Option Nat → List Line → List Line
  | _, [] => []
  | some 0, _ => []
  | limit, line :: rest =>
    if task.selects line.text then line :: task.selected (limit.map (· - 1)) rest
    else task.selected limit rest

end AlignmentTally.Command.Search
