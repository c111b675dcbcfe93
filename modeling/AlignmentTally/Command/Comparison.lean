import AlignmentTally.Command.Options
import AlignmentTally.Machine.Escape

/-!
# Two files side by side

Commands that compare two files: line by line if both are in order, or octet by octet.
-/

namespace AlignmentTally.Command

open Machine

namespace Comparison

/-! ### Lines -/

/-- When it is checked that a file is in order. -/
inductive OrderCheck where
  /-- From the first line on that only one file has. -/
  | later
  /-- Always, and the first line that is out of order ends everything. -/
  | always
  /-- Never. -/
  | never
  deriving DecidableEq, Repr

/-- A file that is read line by line. -/
structure Source where
  /-- The name of the file. -/
  name : Text
  /-- The stream that leads to it. -/
  stream : Nat
  /-- The last two lines that were read, the last one first. -/
  before : List Text := []
  /-- The line that was reached; `none` at the end. -/
  line : Option Text := none
  /-- Whether it was found out of order. -/
  isDisordered : Bool := false

/-- Two files that are read line by line, perhaps from one stream. -/
structure Pair where
  /-- The first file. -/
  first : Source
  /-- The second file. -/
  second : Source
  /-- The texts that were read and not used yet. -/
  buffers : Work.Buffers := []
  /-- Whether there was a line that only one file has. -/
  sawSingle : Bool := false

/-- One of the two files. -/
def Pair.source (pair : Pair) (isSecond : Bool) : Source :=
  if isSecond then pair.second else pair.first

/-- The pair with another one of its files. -/
def Pair.set (pair : Pair) (isSecond : Bool) (source : Source) : Pair :=
  if isSecond then { pair with second := source } else { pair with first := source }

/-- Goes to the next line of a file. -/
def Pair.step (pair : Pair) (ending : Char) (isSecond : Bool) : Work Pair := do
  let source := pair.source isSecond
  let (answer, buffers) ← Work.nextPiece ending source.stream endless pair.buffers
  match answer with
  | .error error => Work.fail (Quoted.name source.name ++ ": " ++ error.words.toList) 1
  | .ok line =>
    let before := (source.line.toList ++ source.before).take 2
    return { pair with buffers }.set isSecond { source with before, line }

/-- Whether the last two lines of a file are in order. At its end the two before are looked at again,
as the check may have begun since. -/
def Source.isInOrder (source : Source) : Bool :=
  match source.line, source.before with
  | some line, last :: _ => !Text.before line last
  | none, last :: other :: _ => !Text.before last other
  | _, _ => true

/-- What is written for lines. -/
structure Columns where
  /-- Whether lines that only the first file has are shown. -/
  first : Bool
  /-- Whether lines that only the second file has are shown. -/
  second : Bool
  /-- Whether lines that both files have are shown. -/
  both : Bool
  /-- What separates columns. -/
  separator : Text
  /-- What lines end in. -/
  ending : Char

/-- Writes a line in its column. -/
def Columns.put (columns : Columns) (place : Ordering) (line : Text) : Work Unit :=
  let gap (shown : Bool) : Text := if shown then columns.separator else []
  let (shown, front) : Bool × Text :=
    match place with
    | .lt => (columns.first, [])
    | .gt => (columns.second, gap columns.first)
    | .eq => (columns.both, gap columns.first ++ gap columns.second)
  if shown then Work.put (front ++ line ++ [columns.ending]) else return ()

/-- Goes to the next line of a file and checks the order. -/
def advance (check : OrderCheck) (ending : Char) (pair : Pair) (isSecond : Bool) : Work Pair := do
  let pair ← pair.step ending isSecond
  let source := pair.source isSecond
  let checks := check = .always || check = .later && pair.sawSingle
  if ¬ checks ∨ source.isDisordered ∨ source.isInOrder then return pair
  let words : Text :=
    "file ".toList ++ [if isSecond then '2' else '1'] ++ " is not in sorted order".toList
  if check = .always then Work.fail words 1
  Work.warn words
  return pair.set isSecond { source with isDisordered := true }

/-- Goes through two files, in at most some rounds, and counts the lines that only the first one has,
those that only the second one has, and those that both have. -/
def walk (check : OrderCheck) (columns : Columns) :
    Nat → Pair → Nat × Nat × Nat → Work (Pair × Nat × Nat × Nat)
  | 0, pair, counts => return (pair, counts)
  | rounds + 1, pair, (first, second, both) => do
    let place : Option (Ordering × Text) :=
      match pair.first.line, pair.second.line with
      | none, none => none
      | some a, none => some (.lt, a)
      | none, some b => some (.gt, b)
      | some a, some b =>
        some (if a = b then (.eq, b) else if Text.before a b then (.lt, a) else (.gt, b))
    match if (← get).broken.isSome then none else place with
    | none => return (pair, first, second, both)
    | some (place, line) =>
      columns.put place line
      let pair := if place = .eq then pair else { pair with sawSingle := true }
      let pair ← if place ≠ .gt then advance check columns.ending pair false else pure pair
      let pair ← if place ≠ .lt then advance check columns.ending pair true else pure pair
      walk check columns rounds pair
        (match place with
        | .lt => (first + 1, second, both)
        | .gt => (first, second + 1, both)
        | .eq => (first, second, both + 1))

/-- Opens a file. -/
def enter (path : Text) : Work Source := do
  match ← Work.open_ path with
  | .error error => Work.fail (Quoted.name path ++ ": " ++ error.words.toList) 1
  | .ok stream => return { name := path, stream }

/-- Writes the lines of two files that are in order in columns: those that only the first file has,
those that only the second one has, and those that both have. -/
def comm (arguments : List Text) : Work Unit := do
  let (chosen, paths) ← Choices.take
    { letters := "123z"
      words := [("output-delimiter=", 'O'), ("check-order", 'k'), ("nocheck-order", 'K'),
        ("total", 'T'), ("zero-terminated", 'z')] }
    arguments
  let mut separator? : Option Text := none
  for (letter, text) in chosen do
    if letter = 'O' then
      if separator?.any (· ≠ text) then Work.fail "multiple output delimiters specified" 1
      separator? := some text
  let (first, second) ←
    match paths with
    | [] => Work.misuse "missing operand" 1
    | [path] => Work.misuse ("missing operand after " ++ Quoted.word path) 1
    | [first, second] => pure (first, second)
    | _ :: _ :: extra :: _ => Work.misuse ("extra operand " ++ Quoted.word extra) 1
  let ending := if has chosen 'z' then '\x00' else '\n'
  let separator : Text :=
    match separator? with
    | none => ['\t']
    | some [] => ['\x00']
    | some text => text
  let columns : Columns :=
    { first := !has chosen '1', second := !has chosen '2', both := !has chosen '3'
      separator, ending }
  let check : OrderCheck :=
    match lastOf? chosen "kK" with
    | some 'k' => .always
    | some _ => .never
    | none => .later
  let isShared := first = ['-'] ∧ second = ['-']
  let pair : Pair := { first := ← enter first, second := { name := second, stream := 0 } }
  let pair ← pair.step ending false
  let pair ← ({ pair with second := ← enter second }).step ending true
  let (pair, first, second, both) ← walk check columns endless pair (0, 0, 0)
  if isShared then Work.fail "-: Bad file descriptor" 1
  if has chosen 'T' then
    let numbers := [first, second, both].map Text.ofNat
    Work.put (Text.join separator (numbers ++ ["total".toList]) ++ [ending])
  if pair.first.isDisordered ∨ pair.second.isDisordered then
    Work.fail "input is not in sorted order" 1

/-! ### Octets -/

/-- What is told of two files. -/
inductive Telling where
  /-- Where they differ first. -/
  | first
  /-- Where they differ, all the places. -/
  | all
  /-- Only whether they differ. -/
  | status
  deriving DecidableEq, Repr

/-- Complains about the use of the command and ends. -/
def refuse {α : Type} (words : Text) : Work α := do
  Work.warn words
  Work.fail "Try 'cmp --help' for more information." 2

/-- The number of octets that a text writes with a unit. Octal and hexadecimal digits are taken
too. -/
def octets? (text : Text) : Option Nat :=
  let inBase (base : Nat) (isDigit : Char → Bool) (text : Text) : Option Nat :=
    let digits := text.takeWhile isDigit
    (Amount.sizeIn? "kKMGTPEZY" ('1' :: text.drop digits.length)).map
      (Text.natOfDigits base digits * ·)
  match text with
  | '0' :: 'x' :: rest => inBase 16 Escape.isHexadecimal rest
  | '0' :: rest => inBase 8 (fun c ↦ '0' ≤ c && c ≤ '7') rest
  | text => Amount.sizeIn? "kKMGTPEZY" text

/-- The number of octets that are left out at the starts of the two files, as an option writes it. -/
def skips (text : Text) : Work (Nat × Nat) := do
  let count (part : Text) : Work Nat :=
    match octets? part with
    | some n => return n
    | none => refuse ("invalid --ignore-initial value '" ++ part ++ "'")
  match Text.splitOn ':' text with
  | [both] =>
    let n ← count both
    return (n, n)
  | first :: rest => return (← count first, ← count (Text.join [':'] rest))
  | [] => return (0, 0)

/-- An octet as it is shown. -/
def shown (c : Char) : Text :=
  let (front, code) : Text × Nat :=
    if 128 ≤ c.toNat then (['M', '-'], c.toNat - 128) else ([], c.toNat)
  front ++
    if code < 32 then ['^', Char.ofNat (code + 64)]
    else if code = 127 then ['^', '?']
    else [Char.ofNat code]

/-- An octet in octal digits. -/
def octal (c : Char) : Text := Text.padLeft ' ' 3 (Nat.toDigits 8 c.toNat)

/-- Two files whose octets are compared. -/
structure Task where
  /-- The names of the files. -/
  names : Text × Text
  /-- What is told of them. -/
  telling : Telling
  /-- Whether octets that differ are shown. -/
  shows : Bool
  /-- The columns for the number of an octet. -/
  width : Nat

/-- Tells of the first octets that differ, with the number of octets before. -/
def Task.tellFirst (task : Task) (before : Text) (x y : Char) : Work Unit :=
  let place : Text := task.names.1 ++ ' ' :: task.names.2 ++ " differ: ".toList ++
    (if task.shows then "byte " else "char ").toList ++ Text.ofNat (before.length + 1) ++
    ", line ".toList ++ Text.ofNat (before.count '\n' + 1)
  Work.putLine <|
    if task.shows then
      place ++ " is ".toList ++ octal x ++ ' ' :: shown x ++ ' ' :: octal y ++ ' ' :: shown y
    else place

/-- Tells that one file ends before the other. -/
def Task.tellEnd (task : Task) (isSecond : Bool) (shorter : Text) : Work Unit := do
  let name := if isSecond then task.names.2 else task.names.1
  let words : Text :=
    if shorter.isEmpty then "EOF on ".toList ++ name ++ " which is empty".toList
    else
      let lines := shorter.count '\n'
      let place : Text :=
        if task.telling ≠ .first then ([] : Text)
        else if shorter.getLast? = some '\n' then ", line ".toList ++ Text.ofNat lines
        else ", in line ".toList ++ Text.ofNat (lines + 1)
      "EOF on ".toList ++ name ++ " after byte ".toList ++ Text.ofNat shorter.length ++ place
  let _ ← Routine.write 2 ("cmp: ".toList ++ words ++ ['\n'])

/-- Compares the octets of two files. -/
def Task.run (task : Task) (a b : Text) : Work Unit := do
  if a = b then return
  Work.setStatus 1
  if task.telling = .status then return
  let common := ((a.zip b).takeWhile fun (x, y) ↦ x = y).length
  match a[common]?, b[common]? with
  | some x, some y =>
    if task.telling = .first then
      task.tellFirst (a.take common) x y
      return
  | _, _ => pure ()
  if task.telling = .all then
    for ((x, y), n) in (a.zip b).zipIdx 1 do
      if x ≠ y then
        let first := if task.shows then octal x ++ ' ' :: Text.padRight 4 (shown x) else octal x
        let second := if task.shows then octal y ++ ' ' :: shown y else octal y
        Work.putLine (Text.padLeft ' ' task.width (Text.ofNat n) ++ ' ' :: first ++
          ' ' :: second)
  if a.length ≠ b.length then
    task.tellEnd (b.length < a.length) (if a.length < b.length then a else b)

/-- The size of the file that a stream leads to, if it is a regular one or is always empty. -/
def regularSize? (stream : Nat) : Work (Option Nat) := do
  match (← Routine.self).streams.lookup stream with
  | some (.file file) =>
    Routine.look fun _ disk ↦
      match (disk.get file).content with
      | .file octets => some octets.size
      | _ => none
  | some (.device .null) => return some 0
  | _ => return none

/-- Compares two files octet by octet. -/
def cmp (arguments : List Text) : Work Unit := do
  let name := (← get).name
  let (chosen, operands) ← Choices.take
    { letters := "bci:ln:sv"
      words := [("print-bytes", 'b'), ("print-chars", 'b'), ("ignore-initial=", 'i'),
        ("silent", 's'), ("quiet", 's'), ("verbose", 'l'), ("bytes=", 'n')]
      status := 2
      usage := name ++ ": Try '".toList ++ name ++ " --help' for more information.\n".toList }
    arguments
  let mut skipped := (0, 0)
  let mut limit : Option Nat := none
  let mut telling : Telling := .first
  for (letter, text) in chosen do
    match letter with
    | 'i' =>
      let (a, b) ← skips text
      skipped := (max skipped.1 a, max skipped.2 b)
    | 'n' =>
      match octets? text with
      | some n => limit := some (limit.elim n (min n))
      | none => refuse ("invalid --bytes value '" ++ text ++ "'")
    | 's' | 'l' =>
      let asked : Telling := if letter = 's' then .status else .all
      if telling ≠ .first ∧ telling ≠ asked then refuse "options -l and -s are incompatible"
      telling := asked
    | _ => pure ()
  let (first, second, extra) ←
    match operands with
    | [] => refuse ("missing operand after '" ++ arguments.getLast?.getD name ++ "'")
    | [first] => pure (first, ['-'], [])
    | first :: second :: extra => pure (first, second, extra)
  for (text, i) in extra.zipIdx do
    if i < 2 then
      match octets? text with
      | some n =>
        skipped :=
          if i = 0 then (max skipped.1 n, skipped.2) else (skipped.1, max skipped.2 n)
      | none => refuse ("invalid --ignore-initial value '" ++ text ++ "'")
  if let some third := extra[2]? then refuse ("extra operand '" ++ third ++ "'")
  let enter (path : Text) : Work Nat := do
    match ← Work.open_ path with
    | .error error =>
      if telling = .status then Work.leave 2
      Work.fail (path ++ ": " ++ error.words.toList) 2
    | .ok stream => return stream
  let read (path : Text) (stream skipped : Nat) (enough : Option Nat) : Work Text := do
    let most := [limit, enough.map fun n ↦ (n / 4096 + 1) * 4096].reduceOption.min?
    match ← Work.readPart stream endless (most.map (· + skipped)) [] with
    | .error error => Work.fail (path ++ ": " ++ error.words.toList) 2
    | .ok text => return text.drop skipped
  let firstStream ← enter first
  if first = second ∧ skipped.1 = skipped.2 then return
  let secondStream ← enter second
  let placeOf (stream : Nat) (skipped : Nat) : Work (Option (Nat × Nat)) := do
    let file? ← Routine.fileOf? stream
    let place ← Routine.move stream 0
    return file?.bind fun file ↦ place.toOption.map fun place ↦ (file, place + skipped)
  let firstPlace ← placeOf firstStream skipped.1
  if firstPlace.isSome ∧ firstPlace = (← placeOf secondStream skipped.2) then return
  let firstSize := (← regularSize? firstStream).map (· - skipped.1)
  let secondSize := (← regularSize? secondStream).map (· - skipped.2)
  let least := [firstSize, secondSize, limit].reduceOption.foldl min 9223372036854775807
  -- no more is read of a file than is needed to know that the other one is shorter
  let a ← read first firstStream skipped.1 secondSize
  let b ← read second secondStream skipped.2 firstSize
  let task : Task :=
    { names := (first, second), telling, shows := has chosen 'b' || has chosen 'c'
      width := (Text.ofNat least).length }
  task.run a b

end Comparison

end AlignmentTally.Command
