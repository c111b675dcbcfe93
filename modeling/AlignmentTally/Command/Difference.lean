import AlignmentTally.Clock.Layout
import AlignmentTally.Command.Difference.Layout
import AlignmentTally.Command.Filing.Making
import AlignmentTally.Command.Present
import AlignmentTally.Shell.Pattern

/-!
# Differences between files

The command that compares two files line by line, or two directories file by file. The exit status
is 0 if they are the same, 1 if they differ, and 2 if something could not be compared.
-/

namespace AlignmentTally.Command.Difference

open Machine

/-- What the command is asked for. -/
structure Task where
  /-- How files are compared. -/
  manner : Manner := {}
  /-- Whether it is only told that files differ. -/
  isBrief : Bool := false
  /-- Whether it is told that files are the same. -/
  tellsSame : Bool := false
  /-- Whether directories in directories are compared. -/
  descends : Bool := false
  /-- Whether a missing file counts as an empty one. -/
  allowsMissing : Bool := false
  /-- Whether a missing first file counts as an empty one. -/
  allowsMissingFirst : Bool := false
  /-- Whether all files are compared line by line. -/
  readsAll : Bool := false
  /-- Whether a return at the end of a line counts for nothing. -/
  dropsReturns : Bool := false
  /-- The patterns for names of files that are left out. -/
  leftOut : List Text := []
  /-- The names by which the two files go. -/
  labels : List Text := []
  /-- The options as they were given. -/
  options : List Text := []
  /-- The name from which on the files of directories are compared. -/
  start : Option Text := none
  /-- Whether a link stands for the file that it leads to. -/
  followsLinks : Bool := true
  /-- Whether the case of letters counts for nothing in names of files. -/
  foldsNames : Bool := false

/-- A file that is to be compared. -/
inductive Subject where
  /-- There is none, which counts as an empty one. -/
  | missing
  /-- The input. -/
  | input
  /-- A file on the disk. -/
  | file (number : Nat)

/-- What stands where a subject is. -/
def Subject.content (disk : Disk) : Subject → Option DiskFile
  | .file number => some (disk.get number)
  | _ => none

/-- The name by which a file goes. -/
def Task.label (task : Task) (isSecond : Bool) (name : Text) : Text :=
  (task.labels[if isSecond then 1 else 0]?).getD name

/-- The file that a path leads to, or the link itself. A complaint is made if there is none, unless
that is allowed. -/
def find (follows allows : Bool) (path : Text) : Work (Option Subject) := do
  if path = ['-'] then return some .input
  match ← Routine.look fun directory disk ↦ disk.findWith follows directory path with
  | .ok number => return some (.file number)
  | .error error =>
    if allows ∧ (error = .notFound ∨ error = .notADirectory) then return some .missing
    Work.warn (path ++ ": " ++ error.words)
    return none

/-- The file that is read from its start as the input, if there is one. -/
def inputFile? : Work (Option Nat) := do
  let file? ← Routine.fileOf? 0
  let place ← Routine.move 0 0
  return if place.toOption = some 0 then file? else none

/-- The text of a subject. -/
def read (subject : Subject) (path : Text) : Work (Option Text) := do
  match subject with
  | .missing => return some []
  | _ =>
    match ← Work.open_ path with
    | .error error =>
      Work.warn (path ++ ": " ++ error.words)
      return none
    | .ok stream =>
      let answer ← Routine.readAll stream
      Work.close stream
      match answer with
      | .ok text => return some text
      | .error error =>
        Work.warn (path ++ ": " ++ error.words)
        return none

/-- When a subject was changed last, in words. -/
def stampOf (subject : Subject) : Work Text := do
  let zone ← Present.ownZone
  let instant ←
    match subject with
    | .file number =>
      Present.instantOf <$> Routine.look fun _ disk ↦ (disk.get number).changed
    | .input => Present.present
    | .missing => pure { seconds := 0 }
  return (Civil.ofInstant zone instant).inLayout "%Y-%m-%d %H:%M:%S.%N %z"

/-- A text as one side of a comparison. -/
def sideOf (task : Task) (isSecond : Bool) (name stamp text : Text) : Side :=
  let lines := Text.lines text
  let drop (line : Text) : Text :=
    if task.dropsReturns ∧ line.getLast? = some '\r' then line.dropLast else line
  { name := task.label isSecond name
    stamp := if (task.labels[if isSecond then 1 else 0]?).isSome then none else some stamp
    lines := (lines.map drop).toArray
    isComplete := text.isEmpty || text.getLast? = some '\n' }

/-- Whether a text does not consist of lines. -/
def isBinary (text : Text) : Bool := (text.take 65536).contains '\x00'

/-- The options as a shell would read them, and two names after them. -/
def commandLine (task : Task) (first second : Text) : Text :=
  let quoted (text : Text) : Text :=
    Quoted.inStyle [] .shellEscape text
  Text.join [' '] (["diff".toList] ++ task.options.map quoted ++
    [quoted (task.label false first), quoted (task.label true second)]) ++ ['\n']

/-- Compares two files, perhaps in directories. The result is the exit status. -/
def compareFiles (task : Task) (isInside : Bool) (subjects : Subject × Subject)
    (first second : Text) : Work Nat := do
  let both := task.label false first ++ " and " ++ task.label true second
  match ← read subjects.1 first, ← read subjects.2 second with
  | some a, some b =>
    let hasBinary := !task.readsAll && (isBinary a || isBinary b)
    if hasBinary then
      if a = b then return 0
      if task.isBrief then
        Work.putLine ("Files " ++ both ++ " differ")
        return 1
      else
        Work.putLine ("Binary files " ++ both ++ " differ")
        return 2
    let sides : Sides :=
      ⟨sideOf task false first (← stampOf subjects.1) a,
        sideOf task true second (← stampOf subjects.2) b⟩
    let changes := sides.changes task.manner
    let isDifferent := !changes.all (task.manner.isMinor sides)
    if task.isBrief then
      if isDifferent then Work.putLine ("Files " ++ both ++ " differ")
      return if isDifferent then 1 else 0
    if isDifferent ∨ task.manner.tellsCommon then
      if isInside then Work.put (commandLine task first second)
      Work.put (told task.manner sides changes)
    if ¬ task.manner.format.tellsEnd then
      let mut status := if isDifferent then 1 else 0
      for side in [sides.first, sides.second] do
        if ¬ side.isComplete then
          Work.warn (side.name ++ ": No newline at end of file")
          Work.say "\n"
          status := 2
      return status
    return if isDifferent then 1 else 0
  | _, _ => return 2

/-- What counts of a name of a file. -/
def Task.nameKey (task : Task) (name : Text) : Text :=
  if task.foldsNames then name.map Char.toLower else name

/-- Two sorted lists of names in one, equal names together. -/
def Task.paired (task : Task) : Nat → List Text → List Text → List (Option Text × Option Text)
  | _, [], second => second.map fun name ↦ (none, some name)
  | _, first, [] => first.map fun name ↦ (some name, none)
  | 0, _, _ => []
  | fuel + 1, a :: first, b :: second =>
    if task.nameKey a = task.nameKey b then (some a, some b) :: task.paired fuel first second
    else if Text.before (task.nameKey a) (task.nameKey b) then
      (some a, none) :: task.paired fuel first (b :: second)
    else (none, some b) :: task.paired fuel (a :: first) second

/-- The names in a directory that are compared. -/
def namesIn (task : Task) (disk : Disk) (subject : Subject) : List Text :=
  let entries := ((subject.content disk).map DiskFile.entries).getD []
  let isLeftOut (name : Text) : Bool := task.leftOut.any fun pattern ↦
    Shell.Place.fits (Shell.Place.ofText pattern) name
  let isEarly (name : Text) : Bool := task.start.any (Text.before name)
  ((entries.map Prod.fst).filter fun name ↦ !isLeftOut name && !isEarly name).mergeSort
    fun a b ↦ !Text.before (task.nameKey b) (task.nameKey a)

/-- Compares two files or directories, which may lie in two others, at most some levels deep. `name`
is the name in the directories, and `sides` says in which of them it stands. The result is the exit
status. -/
def compare (task : Task) : Nat → Option (Text × Text × Text × Bool × Bool) → Text → Text → Work Nat
  | 0, _, _, _ => return 2
  | depth + 1, around, first, second => do
    let isInside := around.isSome
    if let some (name, firstDirectory, secondDirectory, inFirst, inSecond) := around then
      let isAllowed := (inFirst && inSecond) || (task.allowsMissingFirst && inSecond) ||
        task.allowsMissing
      if ¬ isAllowed then
        let directory := if inFirst then firstDirectory else secondDirectory
        Work.putLine ("Only in " ++ directory ++ ": " ++ name)
        return 1
    let firstSubject ←
      find task.followsLinks (task.allowsMissing || task.allowsMissingFirst) first
    let secondSubject ← find task.followsLinks task.allowsMissing second
    match firstSubject, secondSubject with
    | some a, some b =>
      let (fileA, fileB) ← Routine.look fun _ disk ↦ (a.content disk, b.content disk)
      let isDirectory (file : Option DiskFile) : Bool := file.any (·.isDirectory)
      let isPlain (file : DiskFile) : Bool := file.isRegular || file.isLink
      let inputFile? ← inputFile?
      let isSame : Bool :=
        match a, b with
        | .input, .input => true
        | .file m, .file n => m = n
        | .input, .file n | .file n, .input => inputFile? = some n
        | _, _ => false
      let isDone := isSame && !task.manner.tellsCommon
      let isMissing (subject : Subject) : Bool :=
        match subject with
        | .missing => true
        | _ => false
      let both := task.label false first ++ " and " ++ task.label true second
      let (status, wereDirectories) ←
        if isMissing a ∧ isMissing b then
          if isInside then pure (0, false)
          else
            Work.warn (first ++ ": No such file or directory")
            Work.warn (second ++ ": No such file or directory")
            pure (2, false)
        else if isDone then pure (0, isDirectory fileA)
        else if (isDirectory fileA ∧ (isDirectory fileB ∨ isMissing b)) ∨
            (isDirectory fileB ∧ isMissing a) then
          if isInside ∧ ¬ task.descends then
            if isMissing a ∨ isMissing b then
              let directory := (around.map fun (_, x, y, _) ↦ if isMissing a then y else x).getD []
              Work.putLine ("Only in " ++ directory ++ ": " ++ ((around.map Prod.fst).getD []))
              pure (1, true)
            else
              Work.putLine ("Common subdirectories: " ++ both)
              pure (0, true)
          else
            let (namesA, namesB) ← Routine.look fun _ disk ↦
              (namesIn task disk a, namesIn task disk b)
            let mut status := 0
            for (nameA, nameB) in task.paired (namesA.length + namesB.length) namesA namesB do
              let name := (nameA.or nameB).getD []
              let inside := (name, first, second, nameA.isSome, nameB.isSome)
              let found ← compare task depth (some inside)
                (Filing.within first (nameA.getD name)) (Filing.within second (nameB.getD name))
              status := max status found
            pure (status, true)
        else if isInside ∧ (isMissing a ∧ !(fileB.all isPlain) ∨
            isMissing b ∧ !(fileA.all isPlain)) then
          let directory := (around.map fun (_, x, y, _) ↦ if isMissing a then y else x).getD []
          Work.putLine ("Only in " ++ directory ++ ": " ++ ((around.map Prod.fst).getD []))
          pure (1, false)
        else if fileA.any DiskFile.isLink ∧ fileB.any DiskFile.isLink then
          let target (file : Option DiskFile) : Text :=
            match file.map DiskFile.content with
            | some (.link target) => target
            | _ => []
          if target fileA = target fileB then pure (0, false)
          else
            Work.putLine ("Symbolic links " ++ first ++ " and " ++ second ++ " differ")
            pure (1, false)
        else if isDirectory fileA ∨ isDirectory fileB ∨ fileA.any DiskFile.isLink ∨
            fileB.any DiskFile.isLink ∨
            isInside ∧ !(fileA.all isPlain && fileB.all isPlain) then
          let kind (file : Option DiskFile) : Text := (file.map Filing.kindWords).getD ""
          Work.putLine ("File " ++ task.label false first ++ " is a " ++ kind fileA ++
            " while file " ++ task.label true second ++ " is a " ++ kind fileB)
          pure (1, false)
        else
          pure (← compareFiles task isInside (a, b) first second, false)
      if status = 0 ∧ task.tellsSame ∧ ¬ wereDirectories then
        Work.putLine ("Files " ++ both ++ " are identical")
      return status
    | _, _ => return 2

/-- Compares two operands, of which one may be a directory that holds a file of the same name. -/
def compareOperands (task : Task) (first second : Text) : Work Nat := do
  let isDirectory (path : Text) : Work Bool := if path = ['-'] then pure false
    else Filing.isDirectoryAt path
  let lastName (path : Text) : Text :=
    ((path.reverse.dropWhile (· = '/')).takeWhile (· ≠ '/')).reverse
  let firstIs ← isDirectory first
  let secondIs ← isDirectory second
  let exists_ (path : Text) : Work Bool :=
    Routine.look fun directory disk ↦ (disk.find directory path).toOption.isSome
  let refuse : Work Nat := Work.fail "cannot compare '-' to a directory" 2
  if firstIs ∧ ¬ secondIs then
    if second = ['-'] then refuse
    else if ← exists_ second then
      compare task endless none (Filing.within first (lastName second)) second
    else compare task endless none first second
  else if secondIs ∧ ¬ firstIs then
    if first = ['-'] then refuse
    else if ← exists_ first then
      compare task endless none first (Filing.within second (lastName first))
    else compare task endless none first second
  else compare task endless none first second

/-- Complains about the use of the command and ends. -/
def misuse {α : Type} (words : Text) : Work α := do
  Work.warn words
  Work.warn "Try 'diff --help' for more information."
  Work.leave 2

/-- The number that an option asks for, at least some. -/
def numberFor (kind : String) (least : Nat) (text : Text) : Work Nat := do
  match (Text.toNat? text).filter (least ≤ ·) with
  | some n => return n
  | none => misuse ("invalid " ++ kind.toList ++ " '" ++ text ++ "'")

/-- The expression that a text writes. -/
def readRegex (text : Text) : Work Regex := do
  match Regex.readNoting { extended := false } text with
  | .ok (regex, _, _) => return regex
  | .error fault => Work.fail (text ++ ": " ++ fault.words) 2

/-- A task that has one more format; two different ones are refused. -/
def withFormat (task : Task) (asked : Option Format) (format : Format) :
    Work (Task × Option Format) := do
  if asked.any (· ≠ format) then misuse "conflicting output style options"
  return ({ task with manner := { task.manner with format } }, some format)

/-- One of the templates, with a text that gives it. -/
def withTemplate (task : Task) (name : Char) (text : Text) : Task :=
  let templates := task.manner.templates
  let templates :=
    match name with
    | '0' => { templates with oldLine := some text }
    | '1' => { templates with newLine := some text }
    | '2' => { templates with commonLine := some text }
    | '3' => { templates with oldGroup := some text }
    | '4' => { templates with newGroup := some text }
    | '5' => { templates with commonGroup := some text }
    | _ => { templates with changedGroup := some text }
  { task with manner := { task.manner with templates } }

/-- The template that an option has given so far. -/
def templateNow (task : Task) (name : Char) : Option Text :=
  let templates := task.manner.templates
  match name with
  | '0' => templates.oldLine
  | '1' => templates.newLine
  | '2' => templates.commonLine
  | '3' => templates.oldGroup
  | '4' => templates.newGroup
  | '5' => templates.commonGroup
  | _ => templates.changedGroup

/-- A task in which an option gives templates; two different ones are refused. -/
def withTemplates (task : Task) (option : Text) (given : List (Char × Text)) : Work Task := do
  let mut task := task
  for (name, text) in given do
    if (templateNow task name).any (· ≠ text) then
      misuse ("conflicting " ++ option ++ " option value '" ++ text ++ "'")
    task := withTemplate task name text
  return task

/-- The templates that options give, by the letters of the options. -/
def templateOptions : List (Char × String × List Char) :=
  [('\x01', "--line-format", ['0', '1', '2']), ('\x02', "--old-line-format", ['0']),
    ('\x03', "--new-line-format", ['1']), ('\x04', "--unchanged-line-format", ['2']),
    ('\x05', "--old-group-format", ['3']), ('\x06', "--new-group-format", ['4']),
    ('\x07', "--unchanged-group-format", ['5']), ('\x08', "--changed-group-format", ['6'])]

/-- The options of the command. -/
def choices (name : Text) : Choices where
  letters := "0123456789abBcC:dD:eEfF:hHiI:lL:nNpPqrsS:tTuU:vwW:x:X:yZ"
  words := [("brief", 'q'), ("context?", 'C'), ("ed", 'e'), ("exclude=", 'x'),
    ("exclude-from=", 'X'), ("expand-tabs", 't'), ("forward-ed", 'f'), ("from-file=", '<'),
    ("horizon-lines=", '='), ("ignore-all-space", 'w'), ("ignore-blank-lines", 'B'),
    ("ignore-case", 'i'), ("ignore-matching-lines=", 'I'), ("ignore-space-change", 'b'),
    ("ignore-tab-expansion", 'E'), ("ignore-trailing-space", 'Z'), ("initial-tab", 'T'),
    ("label=", 'L'), ("left-column", '('), ("minimal", 'd'), ("new-file", 'N'),
    ("no-dereference", '@'), ("normal", '-'), ("rcs", 'n'), ("recursive", 'r'),
    ("report-identical-files", 's'), ("show-c-function", 'p'), ("show-function-line=", 'F'),
    ("side-by-side", 'y'), ("speed-large-files", 'H'), ("starting-file=", 'S'),
    ("strip-trailing-cr", 'R'), ("suppress-blank-empty", '_'), ("suppress-common-lines", ')'),
    ("tabsize=", '8'), ("text", 'a'), ("to-file=", '>'), ("unidirectional-new-file", 'P'),
    ("unified?", 'U'), ("width=", 'W'), ("color?", '%'), ("palette=", '!'), ("ifdef=", 'D'),
    ("line-format=", '\x01'), ("old-line-format=", '\x02'), ("new-line-format=", '\x03'),
    ("unchanged-line-format=", '\x04'), ("old-group-format=", '\x05'),
    ("new-group-format=", '\x06'), ("unchanged-group-format=", '\x07'),
    ("changed-group-format=", '\x08'), ("ignore-file-name-case", 'k'),
    ("no-ignore-file-name-case", 'K'), ("inhibit-hunk-merge", 'h')]
  status := 2
  usage := name ++ ": Try '" ++ name ++ " --help' for more information.\n"

/-- Compares files or directories. -/
def diff (arguments : List Text) : Work Unit := do
  let name := (← get).name
  let (chosen, operands) ← Choices.take (choices name) arguments
  let mut task : Task := {}
  let mut asked : Option Format := none
  let mut around : Option Nat := none
  let mut showsFunctions := false
  let mut ends : Option (Bool × Text) := none
  for (letter, text) in chosen do
    let manner := task.manner
    match letter with
    | 'a' => task := { task with readsAll := true }
    | 'b' =>
      if manner.blanks ≠ .nothing then
        task := { task with manner := { manner with blanks := .asOne } }
    | 'Z' =>
      if manner.blanks = .all then
        task := { task with manner := { manner with blanks := .notAtEnd } }
    | 'w' => task := { task with manner := { manner with blanks := .nothing } }
    | 'E' => task := { task with manner := { manner with spreads := true } }
    | 'B' => task := { task with manner := { manner with ignoresEmpty := true } }
    | 'i' => task := { task with manner := { manner with foldsCase := true } }
    | 'I' =>
      let regex ← readRegex text
      task := { task with manner := { manner with ignored := regex :: manner.ignored } }
    | 'F' =>
      let regex ← readRegex text
      task := { task with manner := { manner with heading := some regex } }
    | 'p' =>
      let regex ← readRegex "^[[:alpha:]$_]"
      task := { task with manner := { manner with heading := some regex } }
      showsFunctions := true
    | 'd' => task := { task with manner := { manner with searchesAll := true } }
    | 't' => task := { task with manner := { manner with expands := true } }
    | 'T' => task := { task with manner := { manner with tabFirst := true } }
    | '_' => task := { task with manner := { manner with trimsEmpty := true } }
    | '(' => task := { task with manner := { manner with onlyLeft := true } }
    | ')' => task := { task with manner := { manner with onlyChanges := true } }
    | '8' =>
      if text.isEmpty then around := some (around.getD 0 * 10 + 8)
      else
        let tabSize ← numberFor "tabsize" 1 text
        task := { task with manner := { manner with tabSize } }
    | 'W' =>
      let width ← numberFor "width" 1 text
      task := { task with manner := { manner with width } }
    | '=' =>
      let horizon ← numberFor "horizon length" 0 text
      task := { task with manner := { manner with horizon } }
    | 'q' => task := { task with isBrief := true }
    | 's' => task := { task with tellsSame := true }
    | 'r' => task := { task with descends := true }
    | 'N' => task := { task with allowsMissing := true }
    | 'P' => task := { task with allowsMissingFirst := true }
    | 'R' => task := { task with dropsReturns := true }
    | 'x' => task := { task with leftOut := text :: task.leftOut }
    | 'X' =>
      match ← Work.open_ text with
      | .error error => Work.fail (text ++ ": " ++ error.words) 2
      | .ok stream =>
        let lines := Text.lines ((← Routine.readAll stream).toOption.getD [])
        Work.close stream
        task := { task with leftOut := lines ++ task.leftOut }
    | 'S' => task := { task with start := some text }
    | 'L' =>
      if task.labels.length = 2 then Work.fail "too many file label options" 2
      task := { task with labels := task.labels ++ [text] }
    | '<' => ends := some (true, text)
    | '>' => ends := some (false, text)
    | 'c' | 'C' | 'u' | 'U' =>
      let format : Format := if letter = 'c' ∨ letter = 'C' then .context else .unified
      (task, asked) ← withFormat task asked format
      if ¬ text.isEmpty then
        let n ← numberFor "context length" 0 text
        around := some (max n (around.getD 0))
    | 'e' => (task, asked) ← withFormat task asked .editing
    | 'f' => (task, asked) ← withFormat task asked .forward
    | 'n' => (task, asked) ← withFormat task asked .counted
    | 'y' => (task, asked) ← withFormat task asked .beside
    | '-' => (task, asked) ← withFormat task asked .plain
    | '@' => task := { task with followsLinks := false }
    | 'k' => task := { task with foldsNames := true }
    | 'K' => task := { task with foldsNames := false }
    | '%' =>
      if ¬ text.isEmpty ∧ ¬ ["always", "never", "auto"].contains text.toString then
        misuse ("invalid color '" ++ text ++ "'")
      let isColored := text = "always".toList
      task := { task with manner := { manner with isColored } }
    | 'D' =>
      (task, asked) ← withFormat task asked .templated
      let templates := Templates.underName text
      task ← withTemplates task "-D" (['3', '4', '5', '6'].filterMap fun name ↦
        (templateNow { manner := { templates } } name).map fun text ↦ (name, text))
    | letter =>
      if let some (_, option, names) := templateOptions.find? (·.1 = letter) then
        (task, asked) ← withFormat task asked .templated
        task ← withTemplates task option (names.map fun name ↦ (name, text))
      if letter.isDigit then
        around := some (around.getD 0 * 10 + (letter.toNat - '0'.toNat))
  if showsFunctions ∧ asked.isNone then
    task := { task with manner := { task.manner with format := .context } }
  let format := task.manner.format
  let lines := around.getD 3
  let horizon :=
    if format = .context ∨ format = .unified then max task.manner.horizon lines
    else task.manner.horizon
  let options := arguments.filter fun argument ↦ !operands.contains argument
  task := { task with manner := { task.manner with around := lines, horizon }, options }
  let status ←
    match ends, operands with
    | some (isFirst, path), operands => do
      let mut status := 0
      for operand in operands do
        let found ← if isFirst then compareOperands task path operand
          else compareOperands task operand path
        status := max status found
      pure status
    | none, [first, second] => compareOperands task first second
    | none, _ :: _ :: extra :: _ => misuse ("extra operand '" ++ extra ++ "'")
    | none, _ => misuse ("missing operand after '" ++ arguments.getLast?.getD name ++ "'")
  Work.setStatus status

end AlignmentTally.Command.Difference
