import AlignmentTally.Command.Ends

/-!
# Counting

What is counted of files: lines, words, octets, and the columns of the longest line.
-/

namespace AlignmentTally.Command

open Machine

namespace Count

/-- Whether a character separates words. -/
def isSpace (c : Char) : Bool := " \t\n\r\x0b\x0c".toList.contains c

/-- What is counted of a text. -/
structure Measures where
  /-- The number of line ends. -/
  lines : Nat := 0
  /-- The number of words. -/
  words : Nat := 0
  /-- The number of octets. -/
  octets : Nat := 0
  /-- The columns of the longest line. -/
  longest : Nat := 0

/-- The columns of the widest stretch of a text between characters that go back to the first
column. `column` is the one that was reached, `most` the greatest one before. -/
def widest : Text → Nat → Nat → Nat
  | [], column, most => max column most
  | c :: rest, column, most =>
    if c = '\n' ∨ c = '\r' ∨ c = '\x0c' then widest rest 0 (max column most)
    else if c = '\t' then widest rest ((column / 8 + 1) * 8) most
    else if c < ' ' ∨ '~' < c then widest rest column most
    else widest rest (column + 1) most

/-- The measures of a text. -/
def measure (text : Text) : Measures :=
  let (lines, words, _) := text.foldl
    (fun (lines, words, inside) c ↦
      let lines := if c = '\n' then lines + 1 else lines
      if isSpace c then (lines, words, false)
      else (lines, if inside then words else words + 1, true))
    (0, 0, false)
  ⟨lines, words, text.length, widest text 0 0⟩

/-- The measures of two texts together. -/
def Measures.add (a b : Measures) : Measures :=
  ⟨a.lines + b.lines, a.words + b.words, a.octets + b.octets, max a.longest b.longest⟩

/-- The numbers that are shown of measures. -/
def Measures.shown (measures : Measures) (has : Char → Bool) : List Nat :=
  let all := !(has 'l' || has 'w' || has 'c' || has 'm' || has 'L')
  (if has 'l' || all then [measures.lines] else []) ++
    (if has 'w' || all then [measures.words] else []) ++
    (if has 'm' then [measures.octets] else []) ++
    (if has 'c' || all then [measures.octets] else []) ++
    (if has 'L' then [measures.longest] else [])

/-- The size of a file if it is a regular one; `none` for any other. -/
def regularSize (file : DiskFile) : Option Nat :=
  match file.content with
  | .file octets => some octets.size
  | _ => none

/-- The size of the file that a path leads to, if it is a regular one; `none` for any other. -/
def regularSize? (path : Text) : Work (Except Unit (Option Nat)) := do
  if Work.isInput path then
    match (← Routine.self).streams.lookup 0 with
    | none => return .error ()
    | some target => Routine.look fun _ disk ↦ .ok (regularSize (target.content disk))
  else
    Routine.look fun directory disk ↦
      match disk.file? directory path with
      | none => .error ()
      | some file => .ok (regularSize file)

/-- The least width of the numbers about some files. -/
def widthFor (paths : List Text) : Work Nat := do
  let mut total := 0
  let mut least := 1
  for path in paths do
    match ← regularSize? path with
    | .ok (some size) => total := total + size
    | .ok none => least := 7
    | .error () => pure ()
  return max least (Text.ofNat total).length

/-- When the measures of all files together are shown. -/
def totals : List String := ["auto", "always", "only", "never"]

/-- The names of files that a file lists, each ending in a zero octet, with where each of them stands. -/
def listed (source : Text) : Work (List (Text × Option Text)) := do
  match ← Work.open_ source with
  | .error error =>
    Work.fail ("cannot open " ++ Quoted.between source ++ " for reading: " ++ error.words.toList) 1
  | .ok stream =>
    match ← Routine.readAll stream with
    | .error error => Work.fail (Quoted.name source ++ ": read error: " ++ error.words.toList) 1
    | .ok text =>
      Work.close stream
      let names := Text.wholes '\x00' text
      return names.mapIdx fun i name ↦
        (if name.getLast? = some '\x00' then name.dropLast else name,
          some (Quoted.name source ++ ':' :: Text.ofNat (i + 1)))

/-- Counts lines, words and octets of files. -/
def wc (arguments : List Text) : Work Unit := do
  let (chosen, paths) ← Choices.take
    { letters := "clLmw"
      words := [("bytes", 'c'), ("chars", 'm'), ("lines", 'l'), ("words", 'w'),
        ("max-line-length", 'L'), ("files0-from=", 'F'), ("total=", 'T'), ("debug", 'D')] }
    arguments
  let mut when_ := "auto"
  for (letter, text) in chosen do
    if letter = 'T' then when_ ← meaningOf "--total" (totals.map fun word ↦ (word, word)) text
  let has := has chosen
  let source? := last? chosen 'F'
  if source?.isSome then
    if let extra :: _ := paths then
      Work.warn ("extra operand " ++ Quoted.word extra)
      Work.say "file operands cannot be combined with --files0-from\n"
      Work.advise 1
  let files : List (Text × Option Text) ←
    match source? with
    | some source => listed source
    | none => pure (if paths.isEmpty then [(['-'], none)] else paths.map fun path ↦ (path, none))
  let named := !paths.isEmpty || source?.isSome
  let isSingle := files.length = 1 ∧ ((({} : Measures).shown has).length = 1)
  let width ←
    if isSingle ∨ when_ = "only" then pure 1 else widthFor (files.map Prod.fst)
  let show_ (measures : Measures) (name : Option Text) : Work Unit :=
    let numbers := (measures.shown has).map fun n ↦ Text.padLeft ' ' width (Text.ofNat n)
    Work.putLine (Text.join [' '] (numbers ++ name.toList))
  let showOne (measures : Measures) (name : Option Text) : Work Unit :=
    if when_ = "only" then return () else show_ measures name
  let mut total : Measures := {}
  for (path, place?) in files do
    let name := if named then some path else none
    if path.isEmpty then
      let front := match place? with
        | some place => place ++ ": ".toList
        | none => []
      Work.complain (front ++ "invalid zero-length file name")
      continue
    if source? = some ['-'] ∧ path = ['-'] then
      Work.complain
        "when reading file names from standard input, no file name of '-' allowed"
      continue
    match ← Work.open_ path with
    | .error error => Work.complainOf path error
    | .ok stream =>
      match ← Routine.readAll stream with
      | .error error =>
        Work.complainOf (if named then path else "standard input") error
        showOne {} name
      | .ok text =>
        let measures := measure text
        total := total.add measures
        showOne measures name
      Work.close stream
  let showsTotal :=
    when_ = "always" ∨ when_ = "only" ∨ when_ = "auto" ∧ 1 < files.length
  if showsTotal then show_ total (if when_ = "only" then none else some "total")

end Count

end AlignmentTally.Command
