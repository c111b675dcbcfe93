import AlignmentTally.Command.Lines
import AlignmentTally.Machine.Escape

/-!
# Commands on parts of lines

Commands that choose characters or fields of lines, put lines side by side, break them, or replace
characters.
-/

namespace AlignmentTally.Command

open Machine

namespace Fields

/-! ### Choosing parts -/

/-- A range of places, from 1 on; an open one has no end. -/
structure Range where
  /-- The first place. -/
  first : Nat
  /-- The last place. -/
  last : Option Nat

/-- Whether a place is in a range. -/
def Range.contains (range : Range) (n : Nat) : Bool :=
  range.first ≤ n && range.last.all (n ≤ ·)

/-- Why a list of ranges makes no sense. -/
inductive RangeFault where
  /-- Places are counted from 1. -/
  | zero
  /-- A range ends before it begins. -/
  | decreasing
  /-- A range has no end at all. -/
  | noEndpoint
  /-- A range has several dashes. -/
  | dashes
  /-- A place is too far away. -/
  | tooLarge (digits : Text)
  /-- There is something else than a range. -/
  | invalid (text : Text)

/-- A range as far as it was read. -/
structure RangeSoFar where
  /-- The first place. -/
  first : Option Nat := none
  /-- Whether there was a dash. -/
  hasDash : Bool := false
  /-- The last place. -/
  last : Option Nat := none
  /-- The digits of the number that is being read. -/
  digits : Text := []

/-- The number of places that can be told apart. -/
def placeLimit : Nat := 18446744073709551615

/-- The range that was read. -/
def RangeSoFar.finish (range : RangeSoFar) : Except RangeFault Range := do
  if range.hasDash then
    match range.first, range.last with
    | none, none => throw .noEndpoint
    | first, none => return ⟨first.getD 1, none⟩
    | first, some last =>
      if last < first.getD 1 then throw .decreasing
      return ⟨first.getD 1, some last⟩
  else
    match range.first with
    | none | some 0 => throw .zero
    | some n => return ⟨n, some n⟩

/-- The ranges that a text writes, separated by commas or blanks, after some that were read. -/
def rangesFrom : Text → RangeSoFar → List Range → Except RangeFault (List Range)
  | [], range, done => do return (← range.finish) :: done |>.reverse
  | c :: rest, range, done => do
    if c = '-' then
      if range.hasDash then throw .dashes
      if range.first = some 0 then throw .zero
      rangesFrom rest { range with hasDash := true, digits := [] } done
    else if c = ',' ∨ c = ' ' ∨ c = '\t' then rangesFrom rest {} ((← range.finish) :: done)
    else if c.isDigit then
      let digits := range.digits ++ [c]
      let n := Text.natOfDigits 10 digits
      if placeLimit ≤ n then throw (.tooLarge (digits ++ rest.takeWhile Char.isDigit))
      let range := if range.hasDash then { range with last := some n }
        else { range with first := some n }
      rangesFrom rest { range with digits } done
    else throw (.invalid (c :: rest))

/-- The ranges that a text writes. -/
def ranges (text : Text) : Except RangeFault (List Range) := rangesFrom text {} []

/-- What is wrong with ranges, in words. -/
def RangeFault.words (fields : Bool) : RangeFault → Text
  | zero =>
    if fields then "fields are numbered from 1" else "byte/character positions are numbered from 1"
  | decreasing => "invalid decreasing range"
  | noEndpoint => "invalid range with no endpoint: -"
  | dashes => if fields then "invalid field range" else "invalid byte or character range"
  | tooLarge digits =>
    (if fields then "field number " else "byte/character offset ").toList ++
      Quoted.word digits ++ " is too large"
  | invalid text =>
    if fields then "invalid field value " ++ Quoted.word text
    else "invalid byte/character position " ++ Quoted.word text

/-- How `cut` chooses. -/
structure Cut where
  /-- The ranges of places. -/
  ranges : List Range
  /-- Whether the other places are chosen. -/
  complement : Bool
  /-- Whether places are fields, not characters. -/
  fields : Bool
  /-- What separates fields. -/
  delimiter : Char
  /-- What is written between chosen parts. -/
  joint : Option Text
  /-- Whether lines without a separator are left out. -/
  onlyDelimited : Bool

/-- Whether a place is chosen. -/
def Cut.chooses (cut : Cut) (n : Nat) : Bool :=
  (cut.ranges.any (·.contains n)) != cut.complement

/-- The characters that are chosen, in stretches without a gap. -/
def stretches (cut : Cut) : Text → Nat → Text → List Text → List Text
  | [], _, stretch, done =>
    (if stretch.isEmpty then done else stretch.reverse :: done).reverse
  | c :: rest, n, stretch, done =>
    if cut.chooses n then
      let begins := !stretch.isEmpty && cut.ranges.any (·.first = n) &&
        !cut.ranges.any fun range ↦ range.contains n && range.contains (n - 1)
      if begins then stretches cut rest (n + 1) [c] (stretch.reverse :: done)
      else stretches cut rest (n + 1) (c :: stretch) done
    else if stretch.isEmpty then stretches cut rest (n + 1) [] done
    else stretches cut rest (n + 1) [] (stretch.reverse :: done)

/-- The chosen part of a line, if the line is written at all. -/
def Cut.line? (cut : Cut) (line : Text) : Option Text :=
  if cut.fields then
    match Text.splitOn cut.delimiter line with
    | [_] => if cut.onlyDelimited then none else some line
    | fields =>
      let kept := (fields.zipIdx 1).filterMap fun (field, n) ↦
        if cut.chooses n then some field else none
      some (Text.join (cut.joint.getD [cut.delimiter]) kept)
  else
    match cut.joint with
    | none =>
      some ((line.zipIdx 1).filterMap fun (c, n) ↦ if cut.chooses n then some c else none)
    | some joint => some (Text.join joint (stretches cut line 1 [] []))

/-- Writes the chosen parts of lines. -/
def cut (arguments : List Text) : Work Unit := do
  let (chosen, paths) ← Choices.take
    { letters := "b:c:d:f:nszCO:"
      words := [("bytes=", 'b'), ("characters=", 'c'), ("fields=", 'f'), ("delimiter=", 'd'),
        ("only-delimited", 's'), ("output-delimiter=", 'O'), ("complement", 'C'),
        ("zero-terminated", 'z')] }
    arguments
  let lists := chosen.filter fun option ↦ "bcf".toList.contains option.1
  let delimiter? := last? chosen 'd'
  if delimiter?.any (1 < ·.length) then
    Work.misuse "the delimiter must be a single character" 1
  if 1 < lists.length then Work.misuse "only one list may be specified" 1
  match lists.getLast? with
  | none => Work.misuse "you must specify a list of bytes, characters, or fields" 1
  | some (letter, text) =>
    let fields := letter = 'f'
    if ¬ fields ∧ delimiter?.isSome then
      Work.misuse "an input delimiter may be specified only when operating on fields" 1
    if ¬ fields ∧ has chosen 's' then
      Work.misuse "suppressing non-delimited lines makes sense\n\tonly when operating on fields" 1
    match ranges text with
    | .error fault => Work.misuse (fault.words fields) 1
    | .ok ranges =>
      let cut : Cut :=
        { ranges, fields
          complement := has chosen 'C'
          delimiter := (delimiter?.bind List.head?).getD (if delimiter?.isSome then '\x00' else '\t')
          joint := last? chosen 'O'
          onlyDelimited := has chosen 's' }
      let ending := if has chosen 'z' then '\x00' else '\n'
      Work.mapFiles ending paths fun text ↦ (Text.pieces ending text).flatMap fun line ↦
        match cut.line? line with
        | some part => part ++ [ending]
        | none => []

/-! ### Side by side -/

/-- The character that a letter stands for after a backslash between separators. -/
def separatorOf (c : Char) : Char := if c = 'a' then c else (Escape.letter? c).getD c

/-- The separators that a text writes, escapes replaced, unless it ends in a backslash. -/
def separators? : Text → Option (List Text)
  | [] => some []
  | ['\\'] => none
  | '\\' :: '0' :: rest => (separators? rest).map ([] :: ·)
  | '\\' :: c :: rest => (separators? rest).map ([separatorOf c] :: ·)
  | c :: rest => (separators? rest).map ([c] :: ·)

/-- Texts with separators between them, which are used in turn. -/
def joinWith (all : List Text) : List Text → List Text → Text
  | _, [] => []
  | _, [last] => last
  | [], first :: rest =>
    first ++ all.headD [] ++ joinWith all (all.drop 1) rest
  | separator :: others, first :: rest => first ++ separator ++ joinWith all others rest

/-- The manner in which files are put side by side. -/
structure Joint where
  /-- What separates the columns, in turn. -/
  separators : List Text
  /-- What lines end in. -/
  ending : Char

/-- A file that is put beside others: its name, and its stream until its end was reached. -/
abbrev Column := Text × Option Nat

/-- How far a line has been written. -/
structure Row where
  /-- The separators that come next. -/
  separators : List Text
  /-- The separators after files at their end, which are written before what follows. -/
  saved : Text := []
  /-- Whether a file had a line. -/
  hasAny : Bool := false
  /-- The texts that were read and not used yet. -/
  buffers : Work.Buffers

/-- The separator that comes next. -/
def Row.separator (row : Row) : Text := row.separators.headD []

/-- Goes to the separator after the next one. -/
def Row.nextSeparator (row : Row) (joint : Joint) : Row :=
  match row.separators with
  | _ :: second :: rest => { row with separators := second :: rest }
  | _ => { row with separators := joint.separators }

/-- The next line of a file, and the file as it is after that. -/
def nextLine (joint : Joint) (column : Column) (row : Row) :
    Work (Option Text × Column × Row) := do
  match column.2 with
  | none => return (none, column, row)
  | some stream =>
    let (answer, buffers) ← Work.nextPiece joint.ending stream endless row.buffers
    let row := { row with buffers }
    match answer with
    | .ok (some line) => return (some line, column, row)
    | .ok none => return (none, (column.1, none), row)
    | .error error =>
      Work.complainOf column.1 error
      return (none, (column.1, none), row)

/-- Writes the next lines of files side by side. The result has the files as they are after that. -/
def putRow (joint : Joint) : List Column → Row → Work (List Column × Row)
  | [], row => return ([], row)
  | column :: rest, row => do
    let (line?, column, row) ← nextLine joint column row
    match line? with
    | some line =>
      Work.put (row.saved ++ line ++ if rest.isEmpty then [joint.ending] else row.separator)
      let (columns, row) ←
        putRow joint rest { row.nextSeparator joint with saved := [], hasAny := true }
      return (column :: columns, row)
    | none =>
      if rest.isEmpty then
        if row.hasAny then Work.put (row.saved ++ [joint.ending])
        return ([column], row)
      else
        let (columns, row) ←
          putRow joint rest { row.nextSeparator joint with saved := row.saved ++ row.separator }
        return (column :: columns, row)

/-- Writes the lines of files side by side, in at most some rounds. -/
def putRows (joint : Joint) : Nat → List Column → Work.Buffers → Work Unit
  | 0, _, _ => return ()
  | rounds + 1, columns, buffers => do
    if (← get).broken.isSome then return
    let (columns, row) ← putRow joint columns { separators := joint.separators, buffers }
    if row.hasAny then putRows joint rounds columns row.buffers

/-- Writes files side by side, or each of them in one line. -/
def paste (arguments : List Text) : Work Unit := do
  let (chosen, paths) ← Choices.take
    { letters := "d:sz"
      words := [("delimiters=", 'd'), ("serial", 's'), ("zero-terminated", 'z')] } arguments
  let ending := if has chosen 'z' then '\x00' else '\n'
  let list := (last? chosen 'd').getD "\t"
  let some separators := separators? list |
    Work.fail ("delimiter list ends with an unescaped backslash: " ++ list) 1
  let separators := if separators.isEmpty then [[]] else separators
  let paths := if paths.isEmpty then [['-']] else paths
  if has chosen 's' then
    for path in paths do
      if let some text := ← Work.readFile? path then
        Work.put (joinWith separators separators (Text.pieces ending text) ++ [ending])
  else
    let mut files : List (Text × Option Nat) := []
    for path in paths do
      match ← Work.open_ path with
      | .ok stream => files := (path, some stream) :: files
      | .error error => Work.fail (Quoted.name path ++ ": " ++ error.words.toList) 1
    putRows { separators, ending } endless files.reverse []

end Fields

end AlignmentTally.Command
