import AlignmentTally.Command.Filing.Making

/-!
# Copying, moving and removing files

Commands that copy files and directories, give them other paths, or remove them. A directory is gone
through only if that is asked for.
-/

namespace AlignmentTally.Command.Filing

open Machine

/-- Asks a question. The result is whether the answer is yes. -/
def confirm (words : Text) : Work Bool := do
  Work.say ((← get).name ++ ": " ++ words ++ "? ")
  match ← Routine.readLine 0 with
  | .ok (c :: _) => return c = 'y' || c = 'Y'
  | _ => return false

/-- The names of the files in the directory at a path. -/
def namesIn (path : Text) : Work (List Text) :=
  Routine.look fun directory disk ↦
    match disk.find directory path with
    | .ok number => (disk.get number).entries.map Prod.fst
    | .error _ => []

/-! ### Where files go -/

/-- The path that each of some files gets: below a directory or, if there is only one, at a path. -/
def destinations (target : Option Text) (isFile : Bool) (paths : List Text) :
    Work (List (Text × Text)) := do
  let into (place : Text) (paths : List Text) : List (Text × Text) :=
    paths.map fun path ↦ (path, within place (Simple.lastName path))
  match target, paths with
  | _, [] => Work.misuse "missing file operand" 1
  | some place, paths =>
    match ← lookAt true place with
    | .ok file =>
      if file.isDirectory then return into place paths
      else Work.fail ("target directory " ++ quoted place ++ ": Not a directory") 1
    | .error error => Work.fail ("target directory " ++ quoted place ++ ": " ++ error.words) 1
  | none, [path] => Work.misuse ("missing destination file operand after " ++ quoted path) 1
  | none, [path, place] =>
    if ¬ isFile ∧ (← isDirectoryAt place) then return into place [path]
    else return [(path, place)]
  | none, first :: second :: extra :: rest =>
    let paths := first :: second :: extra :: rest
    if isFile then Work.misuse ("extra operand " ++ quoted extra) 1
    let place := paths.getLast?.getD []
    match ← lookAt true place with
    | .ok file =>
      if file.isDirectory then return into place paths.dropLast
      else Work.fail ("target " ++ quoted place ++ ": Not a directory") 1
    | .error error => Work.fail ("target " ++ quoted place ++ ": " ++ error.words) 1

/-! ### Copying -/

/-- What a copy of a file is. -/
inductive CopyKind where
  /-- A file with the same content. -/
  | content
  /-- One more name. -/
  | name
  /-- A link to the path. -/
  | link
  deriving DecidableEq, Repr

/-- How files are copied. -/
structure Copying where
  /-- What a copy is. -/
  kind : CopyKind := .content
  /-- Whether directories are gone through. -/
  recursive : Bool := false
  /-- Whether what a link leads to is copied instead of the link. -/
  follows : Bool := true
  /-- Whether a question is asked before a file is replaced. -/
  asks : Bool := false
  /-- Whether no file is replaced. -/
  keeps : Bool := false
  /-- Whether only older files are replaced. -/
  updates : Bool := false
  /-- Whether a file that is replaced is kept under another name. -/
  backs : Bool := false
  /-- Whether a file is removed before it is replaced. -/
  removes : Bool := false
  /-- Whether the mode and the time are the same for the copy. -/
  preserves : Bool := false
  /-- Whether copies are listed. -/
  verbose : Bool := false

/-- Whether two paths lead to the same file. -/
def isSame (follow : Bool) (first second : Text) : Work Bool :=
  Routine.look fun directory disk ↦
    match disk.findWith follow directory first, disk.findWith follow directory second with
    | .ok a, .ok b => a = b
    | _, _ => false

/-- Gives the file at a path the content of another file. -/
def putContent (copying : Copying) (source target : Text) (file : DiskFile) :
    Work (Except SystemError Unit) := do
  let put (content : FileContent) : Work (Except SystemError Unit) :=
    Routine.change fun directory now disk ↦ do
      let isNew := (disk.find directory target).toOption.isNone
      let (disk, number) ← disk.make now directory target
      let old := disk.get number
      let mode := if copying.preserves then file.mode
        else if isNew then disk.allowed file.mode else old.mode
      if copying.preserves then return disk.set number { file with content, mode }
      else return disk.set number { old with content, mode, changed := now }
  let isDevice : Bool ← Routine.look fun directory disk ↦
    (disk.file? directory target).any fun there ↦
      match there.content with
      | .device _ | .stream _ => true
      | _ => false
  match file.content, isDevice with
  | .file octets, false => put (.file octets)
  | .command name, false => put (.command name)
  | _, _ =>
    match ← Routine.openFile source .read with
    | .error error => return .error error
    | .ok stream =>
      let text := (← Routine.readAll stream).toOption.getD []
      Routine.close stream
      if isDevice then
        match ← Routine.openFile target .replace with
        | .error error => return .error error
        | .ok stream =>
          let answer ← Routine.write stream text
          Routine.close stream
          return answer
      else put (.file (Text.toBytes text))

/-- Lists a copy. -/
def listCopy (copying : Copying) (source target : Text) : Work Unit :=
  if copying.verbose then Work.putLine (quoted source ++ " -> ".toList ++ quoted target)
  else return ()

/-- Whether a copy may take the place of what is at a path. -/
def mayReplace (copying : Copying) (file there : DiskFile) (target : Text) : Work Bool := do
  if copying.keeps then return false
  if copying.updates ∧ file.changed ≤ there.changed then return false
  if copying.asks then
    if ← confirm ("overwrite " ++ quoted target) then return true
    Work.setStatus 1
    return false
  return true

/-- Copies one file that is no directory. -/
def copyFile (copying : Copying) (source target : Text) (file : DiskFile) : Work Unit := do
  if copying.backs ∧ (← lookAt false target).isOk then
    let _ ← Routine.change fun directory now disk ↦
      disk.rename now directory target (target ++ ['~'])
  if copying.removes ∨ file.isLink then
    let _ ← Routine.change fun directory now disk ↦ disk.removeFile now directory target
  let (what, answer) : Text × Except SystemError Unit ←
    match copying.kind, file.content with
    | .name, _ => do
      pure ("cannot create hard link " ++ quoted target ++ " to " ++ quoted source,
        ← Routine.change fun directory now disk ↦ disk.link now directory source target)
    | .link, _ => do
      pure ("cannot create symbolic link " ++ quoted target ++ " to " ++ quoted source,
        ← Routine.change fun directory now disk ↦ disk.linkTo now directory source target)
    | .content, .link path => do
      pure ("cannot create symbolic link " ++ quoted target,
        ← Routine.change fun directory now disk ↦ disk.linkTo now directory path target)
    | .content, _ => do
      pure ("cannot create regular file " ++ quoted target, ← putContent copying source target file)
  match answer with
  | .ok () => listCopy copying source target
  | .error error =>
    let isPath := target.getLast? = some '/'
    let error := if error = .isADirectory ∧ isPath then .notADirectory else error
    Work.complain (what ++ ": " ++ error.words)

/-- Copies a file or a directory, at most some levels deep. -/
def copyOne (copying : Copying) : Nat → Text → Text → Work Unit
  | 0, _, _ => return ()
  | depth + 1, source, target => do
    match ← lookAt copying.follows source with
    | .error error => complainTo "cannot stat" source error
    | .ok file =>
      if file.isDirectory ∧ ¬ copying.recursive then
        Work.complain ("-r not specified; omitting directory " ++ quoted source)
        return
      if ← isSame copying.follows source target then
        Work.complain (quoted source ++ " and " ++ quoted target ++ " are the same file")
        return
      match ← lookAt true target with
      | .error .notADirectory => complainTo "cannot stat" target .notADirectory
      | .ok there =>
        if file.isDirectory then
          if ¬ there.isDirectory then
            Work.complain ("cannot overwrite non-directory " ++ quoted target ++
              " with directory " ++ quoted source)
          else copyNames copying depth source target (← namesIn source)
        else if there.isDirectory then
          Work.complain ("cannot overwrite directory " ++ quoted target ++ " with non-directory")
        else if ← mayReplace copying file there target then copyFile copying source target file
      | .error _ =>
        if file.isDirectory then
          let names ← namesIn source
          match ← Routine.change fun directory now disk ↦
              disk.makeDirectory now directory target with
          | .error error => complainTo "cannot create directory" target error
          | .ok () =>
            listCopy copying source target
            copyNames copying depth source target names
            let isInside : Bool ← Routine.look fun directory disk ↦
              match disk.find directory source, disk.find directory target with
              | .ok upper, .ok lower => disk.isBelow upper disk.files.size lower
              | _, _ => false
            if isInside then
              Work.complain ("cannot copy a directory, " ++ quoted source ++ ", into itself, " ++
                quoted target)
        else
          let isDangling := (← lookAt false target).isOk
          if isDangling ∧ ¬ copying.removes ∧ ¬ file.isLink then
            Work.complain ("not writing through dangling symlink " ++ quoted target)
          else copyFile copying source target file
where
  /-- Copies the files in a directory. -/
  copyNames (copying : Copying) (depth : Nat) (source target : Text) (names : List Text) :
      Work Unit :=
    names.forM fun name ↦ copyOne copying depth (within source name) (within target name)

/-- Copies files. -/
def cp (arguments : List Text) : Work Unit := do
  let (chosen, paths) ← Choices.take
    { letters := "abdfHilLnprst:uvxPRS:TZ"
      words := [("archive", 'a'), ("attributes-only", '1'), ("backup?", 'b'), ("force", 'f'),
        ("interactive", 'i'), ("link", 'l'), ("dereference", 'L'), ("no-clobber", 'n'),
        ("no-dereference", 'P'), ("parents", '2'), ("preserve?", 'p'), ("no-preserve=", '4'),
        ("recursive", 'R'), ("remove-destination", '3'), ("symbolic-link", 's'),
        ("target-directory=", 't'), ("no-target-directory", 'T'), ("update?", 'u'),
        ("verbose", 'v'), ("reflink?", '5'), ("sparse=", '6')] } arguments
  let has := has chosen
  if has 'n' then
    Work.warn ("warning: behavior of -n is non-portable and may change in future; " ++
      "use --update=none instead".toList)
  let recursive := has 'r' || has 'R' || has 'a'
  let copying : Copying :=
    { kind := if has 'l' then .name else if has 's' then .link else .content
      recursive
      follows :=
        match lastOf? chosen "LPdaH" with
        | some letter => letter = 'L' || letter = 'H'
        | none => !recursive
      asks := lastOf? chosen "inf" = some 'i'
      keeps := has 'n' || last? chosen 'u' = some "none".toList
      updates := has 'u' && (last? chosen 'u').any fun text ↦ text.isEmpty || text = "older".toList
      backs := has 'b'
      removes := has '3' || ((has 'l' || has 's') && has 'f')
      preserves := has 'p' || has 'a'
      verbose := has 'v' }
  let withParents := has '2'
  if withParents then
    let place := (last? chosen 't').getD (paths.getLast?.getD [])
    if ¬ (← isDirectoryAt place) then
      Work.misuse "with --parents, the destination must be a directory" 1
    let sources := if (last? chosen 't').isSome then paths else paths.dropLast
    for source in sources do
      let _ ← makeSteps false ((stepsOf (within place source)).dropLast)
      copyOne copying 4096 source (within place source)
  else
    for (source, target) in ← destinations (last? chosen 't') (has 'T') paths do
      copyOne copying 4096 source target

/-! ### Moving -/

/-- Gives a file another path. -/
def moveOne (copying : Copying) (source target : Text) : Work Unit := do
  match ← lookAt false source with
  | .error error => complainTo "cannot stat" source error
  | .ok file =>
    if ← isSame false source target then
      Work.complain (quoted source ++ " and " ++ quoted target ++ " are the same file")
      return
    let there? ← lookAt false target
    match there? with
    | .error .notADirectory =>
      complainTo "cannot stat" target .notADirectory
      return
    | .error _ => pure ()
    | .ok there =>
      if copying.keeps then
        Work.complain ("not replacing " ++ quoted target)
        return
      if copying.updates ∧ file.changed ≤ there.changed then return
      if copying.asks then
        if ¬ (← confirm ("overwrite " ++ quoted target)) then
          Work.setStatus 1
          return
      if file.isDirectory ∧ ¬ there.isDirectory then
        Work.complain ("cannot overwrite non-directory " ++ quoted target ++ " with directory " ++
          quoted source)
        return
      if there.isDirectory ∧ ¬ file.isDirectory then
        Work.complain ("cannot overwrite directory " ++ quoted target ++ " with non-directory")
        return
      if copying.backs then
        let _ ← Routine.change fun directory now disk ↦
          disk.rename now directory target (target ++ ['~'])
    match ← Routine.change fun directory now disk ↦ disk.rename now directory source target with
    | .ok () =>
      if copying.verbose then
        Work.putLine ("renamed " ++ quoted source ++ " -> ".toList ++ quoted target)
    | .error .invalid =>
      Work.complain ("cannot move " ++ quoted source ++ " to a subdirectory of itself, " ++
        quoted target)
    | .error .notEmpty => complainTo "cannot overwrite" target .notEmpty
    | .error error =>
      Work.complain ("cannot move " ++ quoted source ++ " to " ++ quoted target ++ ": " ++
        error.words)

/-- Gives files other paths. -/
def mv (arguments : List Text) : Work Unit := do
  let (chosen, paths) ← Choices.take
    { letters := "bfint:uvS:TZ"
      words := [("backup?", 'b'), ("force", 'f'), ("interactive", 'i'), ("no-clobber", 'n'),
        ("target-directory=", 't'), ("no-target-directory", 'T'), ("update?", 'u'),
        ("verbose", 'v')] } arguments
  let last := lastOf? chosen "fin"
  let copying : Copying :=
    { asks := last = some 'i', keeps := last = some 'n', updates := has chosen 'u'
      backs := has chosen 'b', verbose := has chosen 'v' }
  for (source, target) in ← destinations (last? chosen 't') (has chosen 'T') paths do
    moveOne copying source target

/-! ### Removing -/

/-- How files are removed. -/
structure Removing where
  /-- Whether directories are gone through. -/
  recursive : Bool
  /-- Whether missing files are no fault. -/
  force : Bool
  /-- Whether empty directories are removed. -/
  directories : Bool
  /-- Whether a question is asked about each file. -/
  asks : Bool
  /-- Whether what is removed is listed. -/
  verbose : Bool

/-- Removes a file or a directory, at most some levels deep. -/
def removeOne (removing : Removing) : Nat → Text → Work Unit
  | 0, _ => return ()
  | depth + 1, path => do
    match ← lookAt false path with
    | .error error =>
      let isMissing := error = .notFound ∨ error = .notADirectory
      if ¬ (removing.force ∧ isMissing) then complainTo "cannot remove" path error
    | .ok file =>
      if file.isDirectory then
        if ¬ removing.recursive ∧ ¬ removing.directories then
          complainTo "cannot remove" path .isADirectory
          return
        let names ← namesIn path
        if removing.recursive ∧ ¬ names.isEmpty then
          if removing.asks then
            if ¬ (← confirm ("descend into directory " ++ quoted path)) then return
          names.forM fun name ↦ removeOne removing depth (within path name)
      if removing.asks then
        if ¬ (← confirm ("remove " ++ (kindWords file).toList ++ ' ' :: quoted path)) then return
      match ← Routine.change fun directory now disk ↦
          if file.isDirectory then disk.removeDirectory now directory path
          else disk.removeFile now directory path with
      | .error error => complainTo "cannot remove" path error
      | .ok () =>
        if removing.verbose then
          Work.putLine ("removed " ++ (if file.isDirectory then "directory " else "").toList ++
            quoted path)

/-- Removes files. -/
def rm (arguments : List Text) : Work Unit := do
  let (chosen, paths) ← Choices.take
    { letters := "dfirvIR"
      words := [("force", 'f'), ("interactive?", '1'), ("one-file-system", '2'),
        ("no-preserve-root", '3'), ("preserve-root?", '4'), ("recursive", 'r'), ("dir", 'd'),
        ("verbose", 'v')] } arguments
  let prompting := lastOf? chosen "fiI1"
  let force := prompting = some 'f'
  if paths.isEmpty then
    if force then return
    Work.misuse "missing operand" 1
  let recursive := has chosen 'r' || has chosen 'R'
  let asksOnce := prompting = some 'I'
  if asksOnce ∧ (recursive ∨ 3 < paths.length) then
    let many : Text := if paths.length = 1 then " argument" else " arguments"
    let how : Text := if recursive then " recursively" else ""
    if ¬ (← confirm ("remove " ++ Text.ofNat paths.length ++ many ++ how)) then return
  let removing : Removing :=
    ⟨recursive, force, has chosen 'd', prompting = some 'i', has chosen 'v'⟩
  for path in paths do
    let name := Simple.lastName path
    if recursive ∧ (name = ['.'] ∨ name = ['.', '.']) then
      Work.complain ("refusing to remove '.' or '..' directory: skipping " ++ quoted path)
    else if recursive ∧ Simple.withoutSlashes path = ['/'] ∧ ¬ has chosen '3' then
      Work.complain "it is dangerous to operate recursively on '/'"
      Work.complain "use --no-preserve-root to override this failsafe"
    else removeOne removing 4096 path

/-- Removes one name of a file. -/
def unlink (arguments : List Text) : Work Unit := do
  let (_, paths) ← Choices.take { letters := "" } arguments
  match paths with
  | [] => Work.misuse "missing operand" 1
  | [path] =>
    match ← Routine.change fun directory now disk ↦ disk.removeFile now directory path with
    | .ok () => return
    | .error error => complainTo "cannot unlink" path error
  | _ :: extra :: _ => Work.misuse ("extra operand " ++ Quoted.word extra) 1

end AlignmentTally.Command.Filing
