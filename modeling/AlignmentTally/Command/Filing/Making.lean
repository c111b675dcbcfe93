import AlignmentTally.Command.Filing.Mode
import AlignmentTally.Command.Lines
import AlignmentTally.Command.Simple

/-!
# Making and changing files

Commands that make directories, files and links, and those that change how long a file is, or who
may do what with it.
-/

namespace AlignmentTally.Command.Filing

open Machine

/-- A text between single quotes. -/
def quoted (text : Text) : Text := Quoted.between text

/-- Complains that something cannot be done with a path. -/
def complainTo (what path : Text) (error : SystemError) : Work Unit :=
  Work.complain (what ++ " " ++ quoted path ++ ": " ++ error.words)

/-- What a path leads to, if it leads anywhere. A link at the end is followed if that is asked
for. -/
def lookAt (follow : Bool) (path : Text) : Work (Except SystemError DiskFile) :=
  Routine.look fun directory disk ↦ (disk.findWith follow directory path).map disk.get

/-- Whether a path leads to a directory. -/
def isDirectoryAt (path : Text) : Work Bool := do
  match ← lookAt true path with
  | .ok file => return file.isDirectory
  | .error _ => return false

/-- A path with a name behind it. -/
def within (path name : Text) : Text :=
  if path.getLast? = some '/' then path ++ name else path ++ '/' :: name

/-- Sets the mode of the file at a path. -/
def setModeAt (path : Text) (mode : Nat) : Work (Except SystemError Unit) :=
  Routine.change fun directory _ disk ↦ do
    return disk.setMode (← disk.find directory path) mode

/-! ### Directories -/

/-- The paths of the directories on the way of a path, the path itself last. -/
def stepsOf (path : Text) : List Text :=
  let start : Text := if path.head? = some '/' then ['/'] else []
  (Disk.components path).foldl
    (fun (paths, before) name ↦
      let next := if before.isEmpty ∨ before = ['/'] then before ++ name else before ++ '/' :: name
      (paths ++ [next], next)) (([] : List Text), start) |>.1

/-- Makes a directory. The result is whether that succeeded. -/
def makeOne (verbose : Bool) (path : Text) : Work Bool := do
  match ← Routine.change fun directory now disk ↦ disk.makeDirectory now directory path with
  | .ok () =>
    if verbose then
      Work.putLine ((← get).name ++ ": created directory " ++ quoted path)
    return true
  | .error error =>
    Work.complain ("cannot create directory " ++ Quoted.word path ++ ": " ++ error.words)
    return false

/-- Makes a directory and those above it, as far as they are missing. -/
def makeSteps (verbose : Bool) : List Text → Work Bool
  | [] => return true
  | path :: rest => do
    match ← lookAt true path with
    | .ok file =>
      if file.isDirectory then makeSteps verbose rest
      else
        let error : SystemError := if rest.isEmpty then .alreadyThere else .notADirectory
        Work.complain ("cannot create directory " ++ Quoted.word path ++ ": " ++ error.words)
        return false
    | .error _ => if ← makeOne verbose path then makeSteps verbose rest else return false

/-- Makes directories. -/
def mkdir (arguments : List Text) : Work Unit := do
  let (chosen, paths) ← Choices.take
    { letters := "m:pvZ"
      words := [("mode=", 'm'), ("parents", 'p'), ("verbose", 'v')] } arguments
  if paths.isEmpty then Work.misuse "missing operand" 1
  let changes ←
    match last? chosen 'm' with
    | none => pure []
    | some text =>
      match readMode text with
      | some changes => pure changes
      | none => Work.fail ("invalid mode " ++ Quoted.word text) 1
  let verbose := has chosen 'v'
  for path in paths do
    let isMade ← if has chosen 'p' then makeSteps verbose (stepsOf path) else makeOne verbose path
    if isMade ∧ ¬ changes.isEmpty then
      let _ ← setModeAt path (applyAll changes (← Routine.self).mask true 511)

/-- Removes empty directories. -/
def rmdir (arguments : List Text) : Work Unit := do
  let (chosen, paths) ← Choices.take
    { letters := "pv"
      words := [("ignore-fail-on-non-empty", 'i'), ("parents", 'p'), ("verbose", 'v')] } arguments
  if paths.isEmpty then Work.misuse "missing operand" 1
  let name := (← get).name
  let remove (path what : Text) : Work Bool := do
    if has chosen 'v' then Work.putLine (name ++ ": removing directory, " ++ quoted path)
    match ← Routine.change fun directory now disk ↦ disk.removeDirectory now directory path with
    | .ok () => return true
    | .error error =>
      if ¬ (error = .notEmpty ∧ has chosen 'i') then complainTo what path error
      return false
  for path in paths do
    if ← remove path "failed to remove" then
      if has chosen 'p' then
        let mut goesOn := true
        for above in (stepsOf path).dropLast.reverse do
          if goesOn then goesOn ← remove above "failed to remove directory"

/-! ### Pipes -/

/-- The mode of a pipe that an option asks for. -/
def pipeMode (text : Text) : Work Nat := do
  match readMode text with
  | none => Work.fail "invalid mode" 1
  | some changes =>
    let mode := applyAll changes (← Routine.self).mask false 438
    if 511 < mode then Work.fail "mode must specify only file permission bits" 1
    return mode

/-- Makes a pipe. `words` are what a complaint says before its name. -/
def makePipe (words : Text) (quote : Text → Text) (mode? : Option Nat) (path : Text) :
    Work Unit := do
  match ← Routine.change fun directory now disk ↦ disk.makePipe now directory path with
  | .error error => Work.complain (words ++ quote path ++ ": " ++ error.words)
  | .ok () =>
    if let some mode := mode? then
      let _ ← setModeAt path mode

/-- Makes pipes. -/
def mkfifo (arguments : List Text) : Work Unit := do
  let (chosen, paths) ← Choices.take
    { letters := "m:Z", words := [("mode=", 'm'), ("context?", 'Z')] } arguments
  if paths.isEmpty then Work.misuse "missing operand" 1
  let mode? ← (last? chosen 'm').mapM pipeMode
  for path in paths do makePipe "cannot create fifo " quoted mode? path

/-- Makes a file that is none, of which only pipes can be made. -/
def mknod (arguments : List Text) : Work Unit := do
  let (chosen, operands) ← Choices.take
    { letters := "m:Z", words := [("mode=", 'm'), ("context?", 'Z')] } arguments
  let mode? ← (last? chosen 'm').mapM pipeMode
  let count := operands.length
  let isPipe := (operands[1]?.bind List.head?) = some 'p'
  let expected := if count = 0 ∨ isPipe then 2 else 4
  if count < expected then
    match operands.getLast? with
    | none => Work.warn "missing operand"
    | some last => Work.warn ("missing operand after " ++ Quoted.word last)
    if expected = 4 ∧ count = 2 then
      Work.say "Special files require major and minor device numbers.\n"
    Work.advise 1
  if expected < count then
    Work.warn ("extra operand " ++ Quoted.word ((operands[expected]?).getD []))
    if expected = 2 ∧ count = 4 then
      Work.say "Fifos do not have major and minor device numbers.\n"
    Work.advise 1
  let path := operands.headD []
  if isPipe then makePipe [] Quoted.name mode? path
  else if ["b", "c", "u"].contains (String.ofList ((operands[1]?.getD []).take 1)) then
    Work.complain (Quoted.name path ++ ": Operation not permitted")
  else Work.misuse ("invalid device type " ++ Quoted.word (operands[1]?.getD [])) 1

/-! ### Files -/

/-- A size that is asked for, or a change of it. -/
def sizeOf? (text : Text) : Option (Option Char × Nat) :=
  match text with
  | c :: rest =>
    if "+-<>/%".toList.contains c then (Amount.size? rest).map (some c, ·)
    else (Amount.size? text).map (none, ·)
  | [] => none

/-- Sets how long files are. -/
def truncate (arguments : List Text) : Work Unit := do
  let (chosen, paths) ← Choices.take
    { letters := "cor:s:"
      words := [("no-create", 'c'), ("io-blocks", 'o'), ("reference=", 'r'), ("size=", 's')] }
    arguments
  let size? ←
    match last? chosen 's' with
    | none => pure none
    | some text =>
      match sizeOf? text with
      | some size => pure (some size)
      | none => Work.fail ("Invalid number: " ++ Quoted.word text) 1
  let size? ←
    match size?, last? chosen 'r' with
    | none, some path =>
      match ← lookAt true path with
      | .ok file => pure (some (none, file.octets.size))
      | .error error => Work.fail ("cannot stat " ++ quoted path ++ ": " ++ error.words) 1
    | size?, _ => pure size?
  match size? with
  | none => Work.misuse "you must specify either '--size' or '--reference'" 1
  | some (change, n) =>
    if paths.isEmpty then Work.misuse "missing file operand" 1
    for path in paths do
      let isThere := (← lookAt true path).isOk
      if isThere ∨ ¬ has chosen 'c' then
        match ← Routine.change fun directory now disk ↦ do
            let (disk, number) ← disk.make now directory path
            let old := (disk.get number).octets
            let size :=
              match change with
              | some '+' => old.size + n
              | some '-' => old.size - n
              | some '<' => min old.size n
              | some '>' => max old.size n
              | some '/' => if n = 0 then old.size else old.size / n * n
              | some _ => if n = 0 then old.size else (old.size + n - 1) / n * n
              | none => n
            let zeros : ByteArray := ⟨Array.replicate (size - old.size) 0⟩
            return disk.setOctets now number (old.extract 0 size ++ zeros) with
        | .ok () => pure ()
        | .error error =>
          Work.complain ("cannot open " ++ quoted path ++ " for writing: " ++ error.words)

/-- The letters of names that are made up. -/
def nameLetters : Array Char :=
  "ABCDEFGHIJKLMNOPQRSTUVWXYZabcdefghijklmnopqrstuvwxyz0123456789".toList.toArray

/-- Letters that a number stands for. -/
def madeUp : Nat → Nat → Text
  | 0, _ => []
  | count + 1, n =>
    (nameLetters[n % nameLetters.size]?.getD 'A') :: madeUp count (n / nameLetters.size + 7 * n + 11)

/-- Makes a file or a directory with a new name. -/
def mktemp (arguments : List Text) : Work Unit := do
  let (chosen, templates) ← Choices.take
    { letters := "dp:qtu"
      words := [("directory", 'd'), ("quiet", 'q'), ("dry-run", 'u'), ("suffix=", 's'),
        ("tmpdir?", 'P')] } arguments
  let template := templates.headD "tmp.XXXXXXXXXX"
  if 1 < templates.length then Work.misuse "too many templates" 1
  let suffix := (last? chosen 's').getD
    ((template.reverse.takeWhile (· ≠ 'X')).reverse)
  let stem := if (last? chosen 's').isSome then template
    else (template.reverse.dropWhile (· ≠ 'X')).reverse
  let count := (stem.reverse.takeWhile (· = 'X')).length
  if count < 3 then
    Work.fail ("too few X's in template " ++ Quoted.word template) 1
  let values := (← get).values
  let temporary : Text := ((values.lookup "TMPDIR".toList).filter (!·.isEmpty)).getD "/tmp"
  let inside : Option Text :=
    match last? chosen 'p', last? chosen 'P' with
    | some path, _ => some path
    | none, some path => some (if path.isEmpty then temporary else path)
    | none, none => if templates.isEmpty ∨ has chosen 't' then some temporary else none
  let front := stem.take (stem.length - count)
  let pathOf (n : Nat) : Text :=
    let name := front ++ madeUp count n ++ suffix
    inside.elim name (within · name)
  let number ← Routine.look fun directory disk ↦
    let start := disk.files.size
    ((List.range 1000).find? fun i ↦
      (disk.findWith false directory (pathOf (start + i))).toOption.isNone).elim start (start + ·)
  let path := pathOf number
  let kind : Text := if has chosen 'd' then "directory" else "file"
  let made ←
    if has chosen 'u' then pure (.ok ())
    else
      Routine.change fun directory now disk ↦ do
        if has chosen 'd' then
          let disk ← disk.makeDirectory now directory path
          return disk.setMode (← disk.find directory path) 448
        else
          let (disk, number) ← disk.make now directory path
          return disk.setMode number 384
  match made with
  | .ok () => Work.putLine path
  | .error error =>
    let template := inside.elim template (within · template)
    if ¬ has chosen 'q' then
      Work.warn ("failed to create " ++ kind ++ " via template " ++ Quoted.word template ++ ": " ++
        error.words)
    Work.setStatus 1

/-! ### Links -/

/-- The path to a place from a directory, both given as names from the root. -/
def pathBetween : List Text → List Text → Text
  | a :: start, b :: goal =>
    if a = b then pathBetween start goal
    else Text.join ['/'] ((a :: start).map (fun _ ↦ ['.', '.']) ++ b :: goal)
  | start, goal =>
    let names := start.map (fun _ ↦ ['.', '.']) ++ goal
    if names.isEmpty then ['.'] else Text.join ['/'] names

/-- How links are made. -/
structure Linking where
  /-- Whether links lead to paths instead of files. -/
  symbolic : Bool
  /-- Whether what is in the place of a link is removed. -/
  force : Bool
  /-- Whether links are listed. -/
  verbose : Bool
  /-- Whether the paths that links lead to are written from where the links stand. -/
  relative : Bool

/-- Makes a link at a path. -/
def linkOne (linking : Linking) (target path : Text) : Work Unit := do
  let source ← lookAt false target
  match source with
  | .error error =>
    if ¬ linking.symbolic then
      complainTo "failed to access" target error
      return
  | .ok file =>
    if ¬ linking.symbolic ∧ file.isDirectory then
      Work.complain (target ++ ": hard link not allowed for directory")
      return
  let isSame : Bool ← Routine.look fun directory disk ↦
    match disk.findWith false directory target, disk.findWith false directory path with
    | .ok a, .ok b => a = b
    | _, _ => false
  if linking.force ∧ isSame ∧ ¬ linking.symbolic then
    Work.complain (quoted target ++ " and " ++ quoted path ++ " are the same file")
    return
  if linking.force then
    match ← lookAt false path with
    | .ok file =>
      if ¬ file.isDirectory then
        let _ ← Routine.change fun directory now disk ↦ disk.removeFile now directory path
    | .error _ => pure ()
  let written ←
    if linking.symbolic ∧ linking.relative then
      Routine.look fun directory disk ↦
        let names (path : Text) : List Text :=
          let above := (disk.find directory (Simple.parentPath path)).toOption.getD directory
          Disk.components (disk.pathOf above)
        pathBetween (names path) (names target ++ [Simple.lastName target])
    else pure target
  let kind : Text := if linking.symbolic then "symbolic" else "hard"
  match ← Routine.change fun directory now disk ↦
      if linking.symbolic then disk.linkTo now directory written path
      else disk.link now directory target path with
  | .ok () =>
    if linking.verbose then
      Work.putLine (quoted path ++ (if linking.symbolic then " -> " else " => ").toList ++
        quoted target)
  | .error error =>
    let from_ : Text :=
      if linking.symbolic ∨ error = .alreadyThere then [] else " => " ++ quoted target
    Work.complain ("failed to create " ++ kind ++ " link " ++ quoted path ++ from_ ++ ": " ++
      error.words)

/-- Makes links to files. -/
def ln (arguments : List Text) : Work Unit := do
  let (chosen, paths) ← Choices.take
    { letters := "bdfFiLnPrsS:t:Tv"
      words := [("force", 'f'), ("interactive", 'i'), ("no-dereference", 'n'), ("relative", 'r'),
        ("symbolic", 's'), ("target-directory=", 't'), ("no-target-directory", 'T'),
        ("verbose", 'v')] } arguments
  let linking : Linking := ⟨has chosen 's', has chosen 'f', has chosen 'v', has chosen 'r'⟩
  if paths.isEmpty then Work.misuse "missing file operand" 1
  let into (directory : Text) (targets : List Text) : Work Unit :=
    targets.forM fun target ↦ linkOne linking target (within directory (Simple.lastName target))
  let isPlace (path : Text) : Work Bool := do
    if has chosen 'T' then return false
    match ← lookAt (!has chosen 'n') path with
    | .ok file => return file.isDirectory
    | .error _ => return false
  match last? chosen 't', paths with
  | some directory, paths => into directory paths
  | none, [target] => linkOne linking target (Simple.lastName target)
  | none, [target, path] =>
    if ← isPlace path then into path [target] else linkOne linking target path
  | none, paths =>
    let place := paths.getLast?.getD []
    match ← lookAt true place with
    | .ok file =>
      if file.isDirectory then into place paths.dropLast
      else Work.fail ("target " ++ quoted place ++ ": Not a directory") 1
    | .error error => Work.fail ("target " ++ quoted place ++ ": " ++ error.words) 1

/-- Makes one more name for a file. -/
def link (arguments : List Text) : Work Unit := do
  let (_, paths) ← Choices.take { letters := "" } arguments
  match paths with
  | [] => Work.misuse "missing operand" 1
  | [path] => Work.misuse ("missing operand after " ++ Quoted.word path) 1
  | [old, new] =>
    match ← Routine.change fun directory now disk ↦ disk.link now directory old new with
    | .ok () => return
    | .error error =>
      Work.complain ("cannot create link " ++ quoted new ++ " to " ++ quoted old ++ ": " ++
        error.words)
  | _ :: _ :: extra :: _ => Work.misuse ("extra operand " ++ Quoted.word extra) 1

/-! ### Modes -/

/-- Whether an argument is a mode although it begins like an option. -/
def isModeLike : Text → Bool
  | '-' :: c :: _ => "rwxXstugoa,+=01234567".toList.contains c
  | _ => false

/-- Four octal digits and nine letters of a mode. -/
def describeMode (mode : Nat) : Text :=
  Text.padLeft '0' 4 (digitsIn 8 mode) ++ " (" ++ letters mode ++ ")"

/-- The paths below a directory with their numbers, each directory before what it holds, at most
some levels deep. -/
def below (disk : Disk) : Nat → Text → Nat → List (Text × Nat)
  | 0, _, _ => []
  | depth + 1, path, number =>
    (disk.get number).entries.flatMap fun (name, number) ↦
      let path := within path name
      (path, number) :: below disk depth path number

/-- Changes who may do what with files. -/
def chmod (arguments : List Text) : Work Unit := do
  let dashed := (arguments.takeWhile (· ≠ "--".toList)).filter isModeLike
  let others := arguments.filter fun argument ↦ !dashed.contains argument
  let (chosen, others) ← Choices.take
    { letters := "Rcfv"
      words := [("changes", 'c'), ("silent", 'f'), ("quiet", 'f'), ("verbose", 'v'),
        ("recursive", 'R'), ("reference=", 'r'), ("preserve-root", 'p'),
        ("no-preserve-root", 'n')] } others
  let (mode?, paths) : Option Text × List Text :=
    if has chosen 'r' then (none, others)
    else if dashed.isEmpty then (others.head?, others.drop 1)
    else (some (Text.join [','] dashed), others)
  if mode?.isNone ∧ ¬ has chosen 'r' then Work.misuse "missing operand" 1
  if paths.isEmpty then
    Work.misuse ("missing operand after " ++ Quoted.word (mode?.getD [])) 1
  let changes ←
    match last? chosen 'r', mode? with
    | some path, _ =>
      match ← lookAt true path with
      | .ok file => pure [(⟨allBits, .set, file.mode, false, none⟩ : Change)]
      | .error error =>
        Work.fail ("failed to get attributes of " ++ quoted path ++ ": " ++ error.words) 1
    | none, mode? =>
      let text := mode?.getD []
      match readMode text with
      | some changes => pure changes
      | none => Work.misuse ("invalid mode: " ++ Quoted.word text) 1
  for path in paths do
    match ← Routine.look fun directory disk ↦ (disk.find directory path).map fun number ↦
        (path, number) ::
          (if has chosen 'R' then below disk disk.files.size path number else []) with
    | .error error =>
      if has chosen 'f' then Work.setStatus 1 else complainTo "cannot access" path error
    | .ok found =>
      for (path, number) in found do
        let file ← Routine.look fun _ disk ↦ disk.get number
        if ¬ file.isLink then
          let mode := applyAll changes (← Routine.self).mask file.isDirectory file.mode
          let _ ← Routine.change fun _ _ disk ↦ .ok (disk.setMode number mode)
          let start := "mode of " ++ quoted path
          if mode ≠ file.mode ∧ (has chosen 'v' ∨ has chosen 'c') then
            Work.putLine (start ++ " changed from " ++ describeMode file.mode ++ " to " ++
              describeMode mode)
          else if has chosen 'v' then
            Work.putLine (start ++ " retained as " ++ describeMode mode)

end AlignmentTally.Command.Filing
