import AlignmentTally.Command.Filing.Finding.Reader
import AlignmentTally.Command.Starting
import AlignmentTally.Shell.Pattern

/-!
# Finding files

The command that goes through trees of files and tries an expression on each of them. A directory
comes before what it holds, unless it is asked for otherwise; links are files of their own, unless
they are followed.
-/

namespace AlignmentTally.Command.Filing.Finding

open Machine

/-- What a search has come to. -/
structure Progress where
  /-- The files that are collected for commands, each with its directory, the last one first. -/
  collected : List (Nat × Running × List Text × Text × Text) := []
  /-- Whether what the directory holds is left out. -/
  isPruned : Bool := false
  /-- Whether the search is over. -/
  isOver : Bool := false

/-- Tries something and goes on with the progress. -/
abbrev Try := StateT Progress Work

/-- Works for a trial. -/
def byWork {α : Type} (work : Work α) : Try α := fun progress ↦ do return (← work, progress)

/-- Looks at the disk for a trial. -/
def bySight {α : Type} (view : (directory : Nat) → Disk → α) : Try α := byWork (Routine.look view)

/-! ### Commands -/

/-- Runs a command in a directory and waits for it. The result is whether it succeeds. -/
def runCommand (place : Option Text) (command : List Text) : Work Bool := do
  Work.flush
  let values := (← get).values
  let start : Work Unit := do
    if let some path := place then
      if let .error error ← Routine.enter path then
        Work.warn (Quoted.word path ++ ": ".toList ++ error.words.toList)
        Work.leave 1
    let error ← Starting.become command values
    Work.warn (Quoted.word (command.headD []) ++ ": ".toList ++ error.words.toList)
    Work.leave 1
  let process ← Routine.fork start (fun status _ ↦ .exit status) fun _ _ ↦ .exit 0
  return (← Starting.waitFor process) = .exited 0

/-- The directory of a path, and the path from there. -/
def fromDirectory (path : Text) : Text × Text :=
  let path := if path.all (· = '/') then path else (path.reverse.dropWhile (· = '/')).reverse
  let name := (path.reverse.takeWhile (· ≠ '/')).reverse
  let front := path.take (path.length - name.length)
  if name.isEmpty then (['.'], path)
  else (if front.isEmpty then ['.'] else front, if name = ['.'] then name else "./".toList ++ name)

/-- Asks whether a command is run for a file. -/
def confirms (command : List Text) (path : Text) : Work Bool := do
  Work.say ("< ".toList ++ command.headD [] ++ " ... ".toList ++ path ++ " > ? ".toList)
  match ← Routine.readLine 0 with
  | .ok (c :: _) => return c = 'y' || c = 'Y'
  | _ => return false

/-- Runs the command of a trial for a file. -/
def runFor (running : Running) (command : List Text) (path : Text) : Work Bool := do
  let (place, shown) : Option Text × Text :=
    if running.inDirectory then
      let (place, name) := fromDirectory path
      (some place, name)
    else (none, path)
  if running.asks then
    if ¬ (← confirms command path) then return false
  runCommand place (command.map fun word ↦ Text.replaceAll hole shown (word.length + 1) word)

/-- Runs the commands that were collected: for one of them in any directory all files at a time. -/
def runCollected (place : Nat) (collected : List (Nat × Running × List Text × Text × Text)) :
    Work Unit := do
  let files := collected.reverse.filter (·.1 = place)
  let places := (files.map fun (_, _, _, directory, _) ↦ directory).eraseDups
  for directory in places do
    match files.filter fun (_, _, _, other, _) ↦ other = directory with
    | [] => pure ()
    | (_, running, command, _, _) :: rest =>
      let first := files.filter fun (_, _, _, other, _) ↦ other = directory
      let names := first.map fun (_, _, _, _, name) ↦ name
      let _ := rest
      let inside := if running.inDirectory then some directory else none
      if ¬ (← runCommand inside (command ++ names)) then Work.setStatus 1

/-! ### Trying -/

/-- Whether a text fits a pattern. -/
def fitsPattern (foldsCase : Bool) (pattern text : Text) : Bool :=
  let fold (text : Text) : Text := if foldsCase then text.map Char.toLower else text
  Shell.Place.fits (Shell.Place.ofText (fold pattern)) (fold text)

/-- The last name of a path. -/
def lastName (path : Text) : Text :=
  if path.all (· = '/') then path.take 1 else Simple.lastName (Simple.withoutSlashes path)

/-- Writes to a sink. -/
def putTo (sink : Sink) (text : Text) : Work Unit := do
  match sink with
  | .output => Work.put text
  | .stream 2 => Work.say text
  | .stream number =>
    let _ ← Routine.write number text

/-- The text that a format describes a file with. -/
def Candidate.describe (candidate : Candidate) (disk : Disk) (directory : Nat) (zone : Zone) :
    List Part → Text
  | [] => []
  | .text text :: rest => text ++ describe candidate disk directory zone rest
  | .field layout letter :: rest =>
    candidate.field disk directory zone layout letter ++
      describe candidate disk directory zone rest
  | .time layout stamp letter :: rest =>
    layout.text (timeText zone (stamp.of candidate.file) letter) ++
      describe candidate disk directory zone rest
  | .stop :: _ => []

/-- The octets of a unit in which the room of files is listed. -/
def roomUnit : Work Nat := do
  return if ((← get).values.lookup "POSIXLY_CORRECT".toList).isSome then 512 else 1024

/-- Tries something on a file. -/
def attempt (scope : Scope) (candidate : Candidate) : Trial → Try Bool
  | .always holds => return holds
  | .fits wholePath foldsCase pattern =>
    return fitsPattern foldsCase pattern
      (if wholePath then candidate.path else lastName candidate.path)
  | .leads foldsCase pattern =>
    return match candidate.file.content with
      | .link target => fitsPattern foldsCase pattern target
      | _ => false
  | .regex foldsCase regex =>
    return (Regex.fitAt? { foldsCase } regex ⟨0, none, candidate.path⟩).any (·.place.rest.isEmpty)
  | .kind letters => return letters.contains (letterOf candidate.file)
  | .otherKind letters => do
    let number? ← bySight fun directory disk ↦
      (disk.findWith (scope.following ≠ .always) directory candidate.path).toOption
    let file ← bySight fun _ disk ↦ (number?.map disk.get).getD candidate.file
    return letters.contains (letterOf file)
  | .empty =>
    return match candidate.file.content with
      | .file octets => octets.size = 0
      | .directory entries _ => entries.isEmpty
      | _ => false
  | .size comparison n unit =>
    return comparison.holds ((sizeOf candidate.file + unit - 1) / unit) n
  | .count which comparison n => do
    let count ←
      match which with
      | .names => bySight fun _ disk ↦ nameCount disk candidate.number
      | .owner => pure candidate.file.owner
      | .group => pure candidate.file.group
      | .number => pure (candidate.number + 1)
    return comparison.holds count n
  | .later stamp time => return time < (stamp.of candidate.file : Int)
  | .age stamp comparison time span =>
    let own : Int := stamp.of candidate.file
    return match comparison with
      | .more => time < own
      | .less => own < time
      | .same => time < own && own ≤ time + span
  | .used comparison days =>
    let accessed := Stamp.accessed.of candidate.file
    let status := Stamp.status.of candidate.file
    return status ≤ accessed &&
      comparison.holds ((accessed - status + day - 1) / day) days
  | .mode sign directoryBits bits =>
    let bits := if candidate.file.isDirectory then directoryBits else bits
    let mode := candidate.file.mode
    return match sign with
      | '-' => mode &&& bits = bits
      | '/' => bits = 0 || mode &&& bits ≠ 0
      | _ => mode = bits
  | .allows execution => do
    let file? ← bySight fun directory disk ↦ disk.file? directory candidate.path
    return file?.any fun file ↦ !execution || file.isDirectory || file.isExecutable
  | .nameless isGroup => do
    let name? ← bySight fun _ disk ↦
      if isGroup then Accounts.nameIn? (Accounts.groups disk) candidate.file.group
      else Accounts.nameIn? (Accounts.users disk) candidate.file.owner
    return name?.isNone
  | .print sink ending => do
    byWork (putTo sink (candidate.path ++ [ending]))
    return true
  | .describe sink format => do
    let zone ← byWork Present.ownZone
    let text ← bySight fun directory disk ↦ candidate.describe disk directory zone format
    byWork (putTo sink text)
    return true
  | .list sink => do
    let zone ← byWork Present.ownZone
    let now := (← byWork Routine.self).now
    let unit ← byWork roomUnit
    let line ← bySight fun _ disk ↦ candidate.line disk zone now unit
    byWork (putTo sink line)
    return true
  | .remove => do
    if candidate.path = ['.'] then return true
    let answer ← byWork <| Routine.change fun directory now disk ↦
      if candidate.file.isDirectory ∧ ((disk.findWith false directory candidate.path).toOption.any
          fun number ↦ (disk.get number).isDirectory) then
        disk.removeDirectory now directory candidate.path
      else disk.removeFile now directory candidate.path
    match answer with
    | .ok () => return true
    | .error error =>
      byWork (Work.complain ("cannot delete ".toList ++ Quoted.word candidate.path ++
        ": ".toList ++ error.words.toList))
      return false
  | .run running command => byWork (runFor running command candidate.path)
  | .collect running place command => do
    let (directory, name) :=
      if running.inDirectory then fromDirectory candidate.path else ([], candidate.path)
    modify fun progress ↦ { progress with
      collected := (place, running, command, directory, name) :: progress.collected }
    return true
  | .prune => do
    modify fun progress ↦ { progress with isPruned := true }
    return true
  | .quit => do
    modify fun progress ↦ { progress with isOver := true }
    return true
  | .not trial => return !(← attempt scope candidate trial)
  | .both first second => do
    if ← attempt scope candidate first then
      if (← get).isOver then return false
      attempt scope candidate second
    else return false
  | .either first second => do
    if ← attempt scope candidate first then return true
    if (← get).isOver then return false
    attempt scope candidate second
  | .then_ first second => do
    let _ ← attempt scope candidate first
    if (← get).isOver then return false
    attempt scope candidate second

/-! ### Searching -/

/-- The number of what a path leads to. A link is followed if that is asked for and it leads
anywhere. -/
def Scope.find (scope : Scope) (isStart : Bool) (directory : Nat) (disk : Disk) (path : Text) :
    Except SystemError Nat :=
  let follows := scope.following = .always || isStart && scope.following = .starts
  match disk.findWith follows directory path with
  | .ok number => .ok number
  | .error error => (disk.findWith false directory path).mapError fun _ ↦ error

/-- Complains about a file. -/
def complainOf (path : Text) (error : SystemError) : Work Unit :=
  Work.complain (Quoted.word path ++ ": ".toList ++ error.words.toList)

/-- Goes through a file and what is below it, at most some levels deep. The directories above it are
known by their numbers and paths. -/
def visit (scope : Scope) (trial : Trial) (start : Text) :
    Nat → List (Nat × Text) → Text → Progress → Work Progress
  | 0, _, _, progress => return progress
  | fuel + 1, above, path, progress => do
    if progress.isOver then return progress
    let depth := above.length
    match ← Routine.look fun directory disk ↦
        (scope.find (depth = 0) directory disk path).map fun number ↦ (number, disk.get number) with
    | .error error =>
      complainOf path error
      return progress
    | .ok (number, file) =>
      if let some (_, upper) := above.find? (·.1 = number) then
        if file.isDirectory then
          Work.complain ("File system loop detected; ".toList ++ Quoted.word path ++
            " is part of the same file system loop as ".toList ++ Quoted.word upper ++ ['.'])
          return progress
      let test (progress : Progress) : Work Progress := do
        if depth < scope.least then return progress
        let file ← Routine.look fun _ disk ↦ disk.get number
        let (_, progress) ← (attempt scope ⟨path, start, depth, number, file⟩ trial).run progress
        return progress
      let progress := { progress with isPruned := false }
      let progress ← if scope.depthFirst then pure progress else test progress
      let descends := file.isDirectory && !(progress.isPruned && !scope.depthFirst) &&
        scope.most.all (depth < ·) && !progress.isOver
      let progress ←
        if ¬ descends then pure progress
        else
          match ← Routine.look fun directory disk ↦
              (scope.find (depth = 0) directory disk path).map fun number ↦
                (disk.get number).entries.map Prod.fst with
          | .error error =>
            complainOf path error
            pure progress
          | .ok names =>
            let mut below := progress
            for name in names do
              below ← visit scope trial start fuel ((number, path) :: above) (within path name) below
            pure below
      if scope.depthFirst ∧ ¬ progress.isOver then test progress else return progress

/-- Takes the flags in front of the paths: which links are followed, and what is left. -/
def takeFlags : Nat → Following → List Text → Work (Following × List Text)
  | 0, following, words => return (following, words)
  | rounds + 1, following, words => do
    match words with
    | ['-', 'H'] :: rest => takeFlags rounds .starts rest
    | ['-', 'L'] :: rest => takeFlags rounds .always rest
    | ['-', 'P'] :: rest => takeFlags rounds .never rest
    | ['-', '-'] :: rest => return (following, rest)
    | ['-', 'D'] :: rest =>
      match rest with
      | [] =>
        Work.warn "Missing argument after the -D option."
        Work.advise 1
      | flag :: rest =>
        let known : List Text := ["exec", "help", "opt", "rates", "search", "stat", "time", "tree",
          "all", "cost"].map String.toList
        for flag in Text.splitOn ',' flag do
          if ¬ known.contains flag then
            Work.warn ("Ignoring unrecognised debug flag ".toList ++ Quoted.word flag)
        takeFlags rounds following rest
    | ('-' :: 'O' :: level) :: rest =>
      match level with
      | [] =>
        Work.fail "The -O option must be immediately followed by a decimal integer" 1
      | c :: _ =>
        if ¬ c.isDigit then Work.fail "Please specify a decimal number immediately after -O" 1
        takeFlags rounds following rest
    | words => return (following, words)

/-- The paths that a file lists, each ending in a zero octet. -/
def listedPaths (path : Text) : Work (List Text) := do
  match ← Work.open_ path with
  | .error error =>
    Work.fail ("cannot open ".toList ++ Quoted.between path ++ " for reading: ".toList ++
      error.words.toList) 1
  | .ok stream =>
    match ← Routine.readAll stream with
    | .error error =>
      Work.fail (Quoted.between path ++ ": read error: ".toList ++ error.words.toList) 1
    | .ok text =>
      Work.close stream
      return Text.pieces '\x00' text

/-- Finds files. -/
def find (arguments : List Text) : Work Unit := do
  let (following, arguments) ← takeFlags (arguments.length + 1) .never arguments
  let paths := arguments.takeWhile (!beginsExpression true ·)
  let words := arguments.drop paths.length
  let origin := (← Routine.self).now
  let (read, _, scope) ←
    (readWords (words.length + 1) [] []).run (words, { following, origin })
  let trial ←
    match Trial.ofWords? read with
    | .ok trial => pure trial
    | .error words => Work.fail words 1
  if scope.removes ∧ scope.prunes ∧ ¬ scope.asksDepth then
    Work.fail ("The -delete action automatically turns on -depth, but -prune does nothing when ".toList ++
      "-depth is in effect.  If you want to carry on anyway, just explicitly use the -depth ".toList ++
      "option.".toList) 1
  let trial := if scope.acts then trial else .both trial (.print .output '\n')
  let paths ←
    match scope.starts, paths with
    | none, [] => pure [['.']]
    | none, paths => pure paths
    | some path, [] => listedPaths path
    | some _, path :: _ =>
      Work.warn ("extra operand ".toList ++ Quoted.between path)
      Work.say "file operands cannot be combined with -files0-from\n"
      Work.advise 1
  let mut progress : Progress := {}
  for path in paths do
    let count ← Routine.look fun _ disk ↦ disk.files.size
    progress ← visit scope trial path (count + 2) [] path progress
  for place in List.range scope.collected do runCollected place progress.collected

end AlignmentTally.Command.Filing.Finding
