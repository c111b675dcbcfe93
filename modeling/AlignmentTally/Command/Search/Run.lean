import AlignmentTally.Command.Options
import AlignmentTally.Command.Search.Selection
import AlignmentTally.Regex.Reader
import AlignmentTally.Shell.Pattern

/-!
# Searching files

The command that searches files for patterns: its options, the patterns, and the files, which may be
all files below some directories.
-/

namespace AlignmentTally.Command.Search

open Machine

/-- What a wrong use is answered with. -/
def usage : Text :=
  "Usage: grep [OPTION]... PATTERNS [FILE]...\nTry 'grep --help' for more information.\n"

/-- The options. -/
def choices : Choices :=
  { letters := "EFGPe:f:ivwxcLlm:oqsbHhnTZazrRA:B:C:d:D:yUIV0123456789"
    words := [("basic-regexp", 'G'), ("extended-regexp", 'E'), ("fixed-strings", 'F'),
      ("perl-regexp", 'P'), ("after-context=", 'A'), ("before-context=", 'B'),
      ("binary-files=", 'p'), ("binary", 'U'), ("byte-offset", 'b'), ("context=", 'C'),
      ("color?", 'Q'), ("colour?", 'Q'), ("count", 'c'), ("devices=", 'D'), ("directories=", 'd'),
      ("exclude=", 'K'), ("exclude-from=", 'N'), ("exclude-dir=", 'M'), ("file=", 'f'),
      ("files-with-matches", 'l'), ("files-without-match", 'L'), ("group-separator=", 'g'),
      ("include=", 'j'), ("ignore-case", 'i'), ("no-ignore-case", 't'), ("initial-tab", 'T'),
      ("label=", 'k'), ("line-buffered", 'S'), ("line-number", 'n'), ("line-regexp", 'x'),
      ("max-count=", 'm'), ("no-filename", 'h'), ("no-group-separator", 'O'),
      ("no-messages", 's'), ("null", 'Z'), ("null-data", 'z'), ("only-matching", 'o'),
      ("quiet", 'q'), ("recursive", 'r'), ("dereference-recursive", 'R'), ("regexp=", 'e'),
      ("invert-match", 'v'), ("silent", 'q'), ("text", 'a'), ("with-filename", 'H'),
      ("word-regexp", 'w')]
    status := 2
    usage := usage }

/-! ### Patterns -/

/-- How patterns are written. -/
inductive Notation where
  /-- In the basic notation. -/
  | basic
  /-- In the extended notation. -/
  | extended
  /-- In the extended notation, with more classes. -/
  | perl
  /-- Each character stands for itself. -/
  | fixed
  deriving DecidableEq, Repr

/-- The expression that fits one text. -/
def exactly (text : Text) : Regex :=
  text.foldr (fun c regex ↦
    match regex with
    | .nothing => Regex.char c
    | regex => .both (Regex.char c) regex) .nothing

/-- The expression that a pattern writes. -/
def readPattern (kind : Notation) (pattern : Text) : Work Regex := do
  match kind with
  | .fixed => return exactly pattern
  | kind =>
    let style : Regex.Style :=
      { extended := kind ≠ .basic, laxClose := kind = .extended, laxBraces := true
        refusesBareClass := true, hasDigits := kind = .perl }
    match Regex.readNoting style pattern with
    | .error fault => Work.fail fault.words 2
    | .ok (regex, _, idle) =>
      for sign in idle do
        let sign : Text := if sign = '{' then "\x7b...\x7d" else [sign]
        Work.warn ("warning: " ++ sign ++ " at start of expression")
      return regex

/-- The lines of a file of patterns. -/
def patternsOf (path : Text) : Work (List Text) := do
  match ← Work.open_ path with
  | .error error => Work.fail (path ++ ": " ++ error.words.toList) 2
  | .ok stream =>
    match ← Routine.readAll stream with
    | .error error => Work.fail (path ++ ": " ++ error.words.toList) 2
    | .ok text =>
      Work.close stream
      return Text.lines text

/-- The patterns that options give, or the first argument, and the other arguments. -/
def takePatterns (chosen : List Chosen) (arguments : List Text) :
    Work (List Text × List Text) := do
  if has chosen 'e' ∨ has chosen 'f' then
    let mut patterns : List (List Text) := []
    for (letter, text) in chosen do
      if letter = 'e' then patterns := Text.splitOn '\n' text :: patterns
      if letter = 'f' then patterns := (← patternsOf text) :: patterns
    return (patterns.reverse.flatten, arguments)
  else
    match arguments with
    | pattern :: rest => return (Text.splitOn '\n' pattern, rest)
    | [] =>
      Work.say usage
      Work.leave 2

/-- The notation that options ask for. -/
def notationOf (name : Text) (chosen : List Chosen) : Work Notation := do
  let asked := (chosen.map Prod.fst).filter "EFGP".toList.contains
  if 1 < asked.eraseDups.length then Work.fail "conflicting matchers specified" 2
  match asked with
  | 'E' :: _ => return .extended
  | 'P' :: _ => return .perl
  | 'F' :: _ => return .fixed
  | 'G' :: _ => return .basic
  | _ =>
    return if name = "egrep".toList then .extended
      else if name = "fgrep".toList then .fixed
      else .basic

/-! ### Options -/

/-- The number of lines that an option asks for. -/
def lineCount (text : Text) : Work Nat :=
  match Text.toNat? text with
  | some n => return n
  | none => Work.fail (text ++ ": invalid context length argument") 2

/-- The number that an option asks for at the most, if that is a limit at all. -/
def mostOf (text : Text) : Work (Option Nat) :=
  match Text.toInt? text with
  | some n => return if n < 0 then none else some n.toNat
  | none => Work.fail "invalid max count" 2

/-- The number of lines that are shown around a selected one, as digits ask for it. -/
def digitsOf (chosen : List Chosen) : Option Nat :=
  Text.toNat? ((chosen.map Prod.fst).filter Char.isDigit)

/-- What is done with a file besides showing its lines. -/
inductive Report where
  /-- Its lines are shown. -/
  | lines
  /-- The number of its selected lines is shown. -/
  | count
  /-- Its name is shown if it has selected lines, or else if it has none. -/
  | name (selected : Bool)
  /-- Nothing is shown. -/
  | nothing
  deriving DecidableEq, Repr

/-- Whether the names of files are shown. -/
inductive Naming where
  /-- Always. -/
  | always
  /-- For the files that are found in directories. -/
  | found
  /-- Never. -/
  | never
  deriving DecidableEq, Repr

/-- What is done with files. -/
structure Plan where
  /-- What is looked for. -/
  task : Task
  /-- What is shown. -/
  report : Report
  /-- Whether names are shown. -/
  naming : Naming
  /-- Whether complaints are left out. -/
  isSilent : Bool
  /-- Whether directories are gone through; otherwise they are errors, or left out. -/
  descends : Bool
  /-- Whether directories are left out. -/
  skipsDirectories : Bool
  /-- Whether files with zero octets are texts like others. -/
  takesAll : Bool
  /-- Whether files with zero octets have no selected lines. -/
  skipsBinary : Bool
  /-- The name of the input. -/
  inputName : Text
  /-- The patterns of the names of files that are left out, or to which the others are. -/
  names : List (Bool × Text)
  /-- The patterns of the names of directories that are left out. -/
  directories : List Text

/-- The expressions and the manner of showing that options ask for. -/
def taskOf (chosen : List Chosen) (regexes : List Regex) : Work Task := do
  let around := digitsOf chosen
  let context (letter : Char) : Work (Option Nat) := do
    match last? chosen letter, last? chosen 'C' with
    | some text, _ | none, some text => some <$> lineCount text
    | none, none => return around
  let most ←
    match last? chosen 'm' with
    | some text => mostOf text
    | none => pure none
  return {
    regexes
    foldsCase := (lastOf? chosen "iyt").any (· ≠ 't')
    wholeLines := has chosen 'x'
    wholeWords := has chosen 'w'
    inverts := has chosen 'v'
    onlyParts := has chosen 'o'
    showsNumbers := has chosen 'n'
    showsOffsets := has chosen 'b'
    aligns := has chosen 'T'
    endsNames := has chosen 'Z'
    before := ← context 'B'
    after := ← context 'A'
    most
    separator := if has chosen 'O' then none else some ((last? chosen 'g').getD "--")
    lineEnd := if has chosen 'z' then '\x00' else '\n' }

/-- What options ask for, with a number of files. -/
def planOf (chosen : List Chosen) (task : Task) (files : Nat) : Plan :=
  let descends := has chosen 'r' || has chosen 'R' || last? chosen 'd' = some "recurse".toList
  { task
    report :=
      if has chosen 'q' then .nothing
      else
        match lastOf? chosen "lL" with
        | some letter => .name (letter = 'l')
        | none => if has chosen 'c' then .count else .lines
    naming :=
      match lastOf? chosen "Hh" with
      | some letter => if letter = 'H' then .always else .never
      | none => if 1 < files then .always else if descends then .found else .never
    isSilent := has chosen 's'
    descends
    skipsDirectories := last? chosen 'd' = some "skip".toList
    takesAll := has chosen 'a' || last? chosen 'p' = some "text".toList || has chosen 'z'
    skipsBinary := has chosen 'I' || last? chosen 'p' = some "without-match".toList
    inputName := (last? chosen 'k').getD "(standard input)"
    names := (chosen.filter fun (letter, _) ↦ letter = 'K' || letter = 'j').map fun (letter, text) ↦
      (letter = 'j', text)
    directories := (chosen.filter fun (letter, _) ↦ letter = 'M').map Prod.snd }

/-! ### Files -/

/-- What the files before came to. -/
structure Outcome where
  /-- Whether a line was selected. -/
  found : Bool := false
  /-- Whether an error occurred. -/
  failed : Bool := false
  /-- Whether a line was shown. -/
  hasShown : Bool := false

/-- Complains about a file. -/
def complainOf (plan : Plan) (path : Text) (error : SystemError) : Work Unit :=
  if plan.isSilent then return () else Work.warn (path ++ ": " ++ error.words.toList)

/-- How far a file has been searched. -/
structure Searched where
  /-- What was shown of it. -/
  progress : Progress
  /-- The number of the next line. -/
  number : Nat := 1
  /-- The number of octets before the next line. -/
  offset : Nat := 0
  /-- The number of lines that were selected, as far as it matters. -/
  count : Nat := 0
  /-- The number of octets up to the end of the last selected line, as far as it matters. -/
  reached : Nat := 0
  /-- Whether nothing more needs to be read. -/
  isDone : Bool := false

/-- Searches a text of whole lines, which goes on where the file has been searched so far. -/
def searchText (plan : Plan) (task : Task) (name : Text) (name? : Option Text)
    (searched : Searched) (text : Text) : Work Searched := do
  let lines := linesOf task.lineEnd searched.number searched.offset text
  let after := { searched with
    number := searched.number + lines.length, offset := searched.offset + text.length }
  let isBinary := !plan.takesAll && text.contains '\x00'
  let finds := !(task.selected (some (min 1 (task.most.getD 1))) lines).isEmpty
  if isBinary ∧ plan.skipsBinary then return { after with isDone := true }
  match plan.report with
  | .nothing =>
    if finds then Work.leave 0
    return after
  | .name _ => return if finds then { after with count := 1, isDone := true } else after
  | .count =>
    let found := task.selected (task.most.map (· - searched.count)) lines
    let count := searched.count + found.length
    let reached := found.getLast?.elim searched.reached fun line ↦
      line.offset + line.text.length + 1
    return { after with count, reached, isDone := task.most.any (· ≤ count) }
  | .lines =>
    if isBinary then
      if ¬ finds then return after
      Work.warn (name ++ ": binary file matches")
      return { after with count := searched.count + 1, isDone := true }
    else
      let progress := task.goThrough name? lines { searched.progress with pieces := [] }
      Work.put progress.pieces.reverse.flatten
      return { after with
        progress, count := progress.count, reached := progress.reached
        isDone := task.most.any (· ≤ progress.count) && progress.pending = 0 }

/-- Searches a stream under a name. -/
def searchStream (plan : Plan) (name : Text) (isFound : Bool) (stream : Nat) (outcome : Outcome) :
    Work (Outcome × Option SystemError) := do
  let size ←
    match ← Routine.fileOf? stream with
    | some file =>
      Routine.look fun _ disk ↦
        match (disk.get file).content with
        | .file octets => octets.size
        | _ => 0
    | none => pure 0
  let columns := if name = plan.inputName then 19 else (Text.ofNat size).length
  let task := { plan.task with columns }
  let showsName := plan.naming = .always || (plan.naming = .found && isFound)
  let name? := if showsName then some name else none
  let start : Searched := { progress := { hasShown := outcome.hasShown } }
  let search := searchText plan task name name?
  let (searched, rest, error) ←
    Work.foldWholes task.lineEnd stream Searched.isDone search endless start []
  let (searched, rest) ←
    if rest.isEmpty || searched.isDone then pure (searched, rest)
    else pure (← search searched rest, [])
  if error.isSome then return (outcome, error)
  -- what follows the last line that was wanted is left to others
  if task.most.any (· ≤ searched.count) ∧ searched.reached ≠ 0 ∧ stream = 0 then
    Routine.giveBack stream (searched.offset + rest.length - searched.reached)
  match plan.report with
  | .name selected =>
    if (searched.count ≠ 0) = selected then
      Work.put (name ++ (if task.endsNames then ['\x00'] else ['\n']))
  | .count =>
    let front : Text :=
      name?.elim [] fun name ↦ name ++ [if task.endsNames then '\x00' else ':']
    Work.put (front ++ Text.ofNat searched.count ++ "\n")
  | _ => pure ()
  let found := outcome.found || searched.count ≠ 0
  return ({ outcome with found, hasShown := searched.progress.hasShown }, none)

/-- Searches a file. -/
def searchFile (plan : Plan) (path : Text) (isFound : Bool) (outcome : Outcome) :
    Work Outcome := do
  let name := if Work.isInput path ∧ ¬ isFound then plan.inputName else path
  match ← if isFound then Routine.openFile path .read else Work.open_ path with
  | .error error =>
    complainOf plan path error
    return { outcome with failed := true }
  | .ok stream =>
    let (after, error) ← searchStream plan name isFound stream outcome
    Work.close stream
    match error with
    | some error =>
      if error = .isADirectory ∧ plan.skipsDirectories then return outcome
      complainOf plan path error
      return { outcome with failed := true }
    | none => return after

/-- Whether a text fits a pattern of names. -/
def fitsName (pattern name : Text) : Bool := Shell.Place.fits (Shell.Place.ofText pattern) name

/-- Whether a file with a name is looked into. -/
def Plan.takes (plan : Plan) (name : Text) : Bool :=
  let wanted := plan.names.filter Prod.fst
  let unwanted := plan.names.filter (!·.1)
  (wanted.isEmpty || wanted.any (fitsName ·.2 name)) && !unwanted.any (fitsName ·.2 name)

/-- The files below a directory, at most some levels deep. -/
def filesBelow (plan : Plan) (disk : Disk) : Nat → Text → Nat → List Text
  | 0, _, _ => []
  | depth + 1, path, number =>
    (disk.get number).entries.flatMap fun (name, number) ↦
      let below := if path.isEmpty ∨ path.getLast? = some '/' then path ++ name else
        path ++ '/' :: name
      let file := disk.get number
      if file.isDirectory then
        if plan.directories.any (fitsName · name) then []
        else filesBelow plan disk depth below number
      else if file.isRegular ∧ plan.takes name then [below]
      else []

/-- The files that a path stands for, and whether each was found in a directory. -/
def filesOf (plan : Plan) (path : Text) : Work (List (Text × Bool)) := do
  if Work.isInput path ∨ ¬ plan.descends then return [(path, false)]
  let isHere := path.isEmpty
  Routine.look fun directory disk ↦
    match disk.find directory (if isHere then ['.'] else path) with
    | .error _ => [(path, false)]
    | .ok number =>
      if (disk.get number).isDirectory then
        (filesBelow plan disk disk.files.size path number).map (·, true)
      else [(path, false)]

/-- Searches files for patterns. -/
def grep (arguments : List Text) : Work Unit := do
  let name := ((← get).name.reverse.takeWhile (· ≠ '/')).reverse
  if name = "egrep".toList ∨ name = "fgrep".toList then
    modify fun session ↦ { session with name := "grep" }
  let (chosen, arguments) ← choices.take arguments
  let kind ← notationOf name chosen
  let (patterns, paths) ← takePatterns chosen arguments
  match last? chosen 'p' with
  | some text =>
    if ¬ ["binary", "text", "without-match"].contains (String.ofList text) then
      Work.fail "unknown binary-files type" 2
  | none => pure ()
  let task ← taskOf chosen []
  let mut regexes : List Regex := []
  for pattern in patterns do
    regexes := (← readPattern kind pattern) :: regexes
  let plan := planOf chosen { task with regexes := regexes.reverse } paths.length
  if (task.most = some 0 ∨ task.isIdle patterns) ∧ plan.report ≠ .name false then Work.leave 1
  let paths := if paths.isEmpty then [if plan.descends then [] else ['-']] else paths
  let mut outcome : Outcome := {}
  for path in paths do
    for (path, isFound) in ← filesOf plan path do
      outcome ← searchFile plan path isFound outcome
  Work.setStatus (if outcome.failed then 2 else if outcome.found then 0 else 1)

end AlignmentTally.Command.Search
