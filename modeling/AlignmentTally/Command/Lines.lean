import AlignmentTally.Command.Options
import AlignmentTally.Regex.Reader

/-!
# Commands on lines

Commands that write files as they are, or their lines: with marks, in reverse, or each of them
backwards.
-/

namespace AlignmentTally.Command

open Machine

/-- A line without its line end. -/
def withoutEnd (line : Text) : Text := if line.getLast? = some '\n' then line.dropLast else line

namespace Lines

/-! ### Whole files -/

/-- How `cat` shows lines. -/
structure Shown where
  /-- Whether lines are numbered. -/
  numbers : Bool
  /-- Whether empty lines are left out of the numbers. -/
  skipsEmpty : Bool
  /-- Whether the end of a line is marked. -/
  marksEnds : Bool
  /-- Whether only one of several empty lines is shown. -/
  squeezes : Bool
  /-- Whether tabs are spelled out. -/
  spellsTabs : Bool
  /-- Whether other characters that do not print are spelled out. -/
  spells : Bool

/-- Where `cat` is. -/
structure Place where
  /-- The number of the line before. -/
  number : Nat := 0
  /-- The number of empty lines before. -/
  empty : Nat := 0
  /-- Whether a line begins here. -/
  atStart : Bool := true

/-- A character as it is spelled out. -/
def spell (shown : Shown) (c : Char) : Text :=
  if c = '\t' then if shown.spellsTabs then ['^', 'I'] else [c]
  else if ¬ shown.spells ∨ c = '\n' then [c]
  else
    let (front, code) := if 128 ≤ c.toNat then (['M', '-'], c.toNat - 128) else ([], c.toNat)
    front ++
      if code < 32 then ['^', .ofNat (code + 64)]
      else if code = 127 then ['^', '?']
      else [.ofNat code]

/-- Shows one line. -/
def showLine (shown : Shown) (place : Place) (line : Text) : Text × Place :=
  let ends := line.getLast? = some '\n'
  let body := withoutEnd line
  let isEmpty := place.atStart && body.isEmpty && ends
  let empty := if isEmpty then place.empty + 1 else 0
  if shown.squeezes ∧ 1 < empty then ([], { place with empty })
  else
    let counts := place.atStart && (shown.numbers && !(shown.skipsEmpty && isEmpty))
    let number := if counts then place.number + 1 else place.number
    let front := if counts then Text.padLeft ' ' 6 (Text.ofNat number) ++ ['\t'] else []
    let body :=
      if shown.marksEnds ∧ ¬ shown.spells ∧ ends ∧ body.getLast? = some '\r' then
        body.dropLast.flatMap (spell shown) ++ ['^', 'M']
      else body.flatMap (spell shown)
    let tail := if ends then if shown.marksEnds then ['$', '\n'] else ['\n'] else []
    (front ++ body ++ tail, ⟨number, empty, ends⟩)

/-- Copies a stream to the output, in at most some rounds. -/
def copy (stream : Nat) : Nat → Work (Except SystemError Unit)
  | 0 => return .ok ()
  | rounds + 1 => do
    match ← Routine.read stream 131072 with
    | .error error => return .error error
    | .ok [] => return .ok ()
    | .ok text =>
      Work.put text
      Work.flush
      if (← get).broken.isSome then return .ok ()
      copy stream rounds

/-- Writes files one after another. -/
def cat (arguments : List Text) : Work Unit := do
  let (chosen, paths) ← Choices.take
    { letters := "benstuvAET"
      words := [("number-nonblank", 'b'), ("number", 'n'), ("squeeze-blank", 's'),
        ("show-nonprinting", 'v'), ("show-ends", 'E'), ("show-tabs", 'T'), ("show-all", 'A')] }
    arguments
  let has := has chosen
  let shown : Shown :=
    { numbers := has 'n' || has 'b'
      skipsEmpty := has 'b'
      marksEnds := has 'E' || has 'e' || has 'A'
      squeezes := has 's'
      spellsTabs := has 'T' || has 't' || has 'A'
      spells := has 'v' || has 'e' || has 't' || has 'A' }
  let isPlain := !(shown.numbers || shown.marksEnds || shown.squeezes || shown.spellsTabs ||
    shown.spells)
  let mut place : Place := {}
  for path in if paths.isEmpty then [['-']] else paths do
    match ← Work.open_ path with
    | .error error => Work.complainOf path error
    | .ok stream =>
      if ← Work.isOutput stream then
        Work.complain (Quoted.name path ++ ": input file is output file")
        Work.close stream
        continue
      if isPlain then
        match ← copy stream endless with
        | .ok () => pure ()
        | .error error => Work.complainOf path error
      else
        let act (place : Place) (text : Text) : Work Place := do
          let (lines, place) := (Text.wholes '\n' text).foldl
            (fun (lines, place) line ↦
              let (text, place) := showLine shown place line
              (text :: lines, place))
            (([] : List Text), place)
          Work.put lines.reverse.flatten
          return place
        let (after, error) ← Work.foldLines '\n' stream (fun _ ↦ false) act place
        place := after
        if let some error := error then Work.complainOf path error
      Work.close stream
  let self ← Routine.self
  if (paths.isEmpty ∨ paths.contains ['-']) ∧ ¬ self.streams.any (·.1 = 0) then
    Work.complain ("closing standard input: " ++ SystemError.badStream.words.toList)

/-- The pieces of a text from its end on, each with the separator that ends it, or begins it. `rest`
is the text in reverse up to where a separator is sought next, `piece` what follows up to the
separator after it, and `last` that separator. `length?` gives the length of a separator at the start
of a text. -/
def backwards (length? : Text → Option Nat) (atStart : Bool) :
    Text → Text → Text → List Text → List Text
  | [], piece, last, done => ((piece ++ last) :: done).reverse
  | c :: rest, piece, last, done =>
    let piece := c :: piece
    match length? piece with
    | none => backwards length? atStart rest piece last done
    | some n =>
      if atStart then backwards length? atStart rest [] [] (piece :: done)
      else
        let found := piece.drop n ++ last
        let done := if done.isEmpty ∧ found.isEmpty then done else found :: done
        backwards length? atStart rest [] (piece.take n) done

/-- Writes files with their lines in reverse. -/
def tac (arguments : List Text) : Work Unit := do
  let (chosen, paths) ← Choices.take
    { letters := "brs:", words := [("before", 'b'), ("regex", 'r'), ("separator=", 's')] } arguments
  let separator := (last? chosen 's').getD ['\n']
  let length? : Text → Option Nat ←
    if has chosen 'r' then
      if separator.isEmpty then Work.fail "separator cannot be empty" 1
      match Regex.read { extended := false } separator with
      | .error fault => Work.fail fault.words 1
      | .ok (regex, _) =>
        pure fun text ↦
          ((regex.fitAt? {} ⟨0, none, text⟩).map (·.place.index)).filter (· ≠ 0)
    else
      let separator := if separator.isEmpty then ['\x00'] else separator
      pure fun text ↦ if Text.beginsWith text separator then some separator.length else none
  for path in if paths.isEmpty then [['-']] else paths do
    match ← Work.open_ path with
    | .error error =>
      Work.complain ("failed to open " ++ Quoted.between path ++ " for reading: " ++
        error.words.toList)
    | .ok stream =>
      match ← Routine.readAll stream with
      | .error error => Work.complain (Quoted.name path ++ ": read error: " ++ error.words.toList)
      | .ok text =>
        if separator = ['\n'] ∧ chosen.all (·.1 = 's') then Work.put (Text.wholes '\n' text).reverse.flatten
        else Work.put (backwards length? (has chosen 'b') text.reverse [] [] []).flatten
      Work.close stream

/-- Writes every line backwards. -/
def rev (arguments : List Text) : Work Unit := do
  let (_, paths) ← Choices.take { letters := "" } arguments
  for path? in if paths.isEmpty then [none] else paths.map some do
    let path := path?.getD "stdin"
    let opened ←
      match path? with
      | some path => Routine.openFile path .read
      | none => pure (.ok 0)
    match opened with
    | .error error => Work.complain ("cannot open " ++ path ++ ": " ++ error.words.toList)
    | .ok stream =>
      let act (_ : Unit) (text : Text) : Work Unit :=
        Work.put ((Text.wholes '\n' text).flatMap fun line ↦
          let body := withoutEnd line
          body.reverse ++ line.drop body.length)
      let (_, error) ← Work.foldLines '\n' stream (fun _ ↦ false) act ()
      if let some error := error then Work.complainOf path error
      Work.close stream

/-- What `tee` does when it cannot write. -/
inductive Failing where
  /-- It complains and goes on with the others. -/
  | warn
  /-- It complains and ends. -/
  | exit
  deriving DecidableEq, Repr

/-- The words for what `tee` does when it cannot write. -/
def failings : List (String × Failing × Bool) :=
  [("warn", .warn, true), ("warn-nopipe", .warn, false), ("exit", .exit, true),
    ("exit-nopipe", .exit, false)]

/-- Writes the input to the output and to files. -/
def tee (arguments : List Text) : Work Unit := do
  let (chosen, paths) ← Choices.take
    { letters := "aip"
      words := [("append", 'a'), ("ignore-interrupts", 'i'), ("output-error?", 'E')] } arguments
  let mut failing := Failing.warn
  for (letter, text) in chosen do
    if letter = 'E' ∧ ¬ text.isEmpty then
      failing := (← meaningOf "--output-error" failings text).1
  let access : Access := if has chosen 'a' then .append else .replace
  let mut outputs : List (Nat × Text) := []
  for path in paths do
    match ← Routine.openFile path access with
    | .ok stream => outputs := (stream, path) :: outputs
    | .error error => Work.complainOf path error
  let all := (1, "standard output".toList) :: outputs.reverse
  let act (outputs : List (Nat × Text)) (text : Text) : Work (List (Nat × Text)) := do
    let mut left : List (Nat × Text) := []
    for (stream, name) in outputs do
      match ← Routine.write stream text with
      | .ok () => left := (stream, name) :: left
      | .error error =>
        Work.complainOf name error
        if failing = .exit then Work.leave 1
    return left.reverse
  let (_, error) ← Work.foldReads 0 List.isEmpty act endless all
  if let some error := error then Work.complain ("read error: " ++ error.words.toList)

end Lines

end AlignmentTally.Command
