import AlignmentTally.Command.Filing.Listing.Layout
import AlignmentTally.Shell.Pattern

/-!
# Listing files

The command that lists files and what directories hold. Arguments that are no directories come
first, then what each directory holds, then, if that is asked for, what the directories hold that it
holds.
-/

namespace AlignmentTally.Command.Filing

open Machine

namespace Listing.Settled

/-- Whether a name fits a pattern. A point at its start has to stand in the pattern. -/
def fitsName (name pattern : Text) : Bool :=
  (name.head? ≠ some '.' || pattern.head? = some '.' || Text.beginsWith pattern "\\.") &&
    Shell.Place.fits (Shell.Place.ofText pattern) name

/-- Whether a name in a directory is listed. -/
def lists (listing : Settled) (name : Text) : Bool :=
  let isOwn := name = ['.'] || name = ['.', '.']
  let isHidden :=
    match listing.omits with
    | .nothing => false
    | .own => isOwn
    | .points => name.head? = some '.' || listing.hidden.any (fitsName name)
  !isHidden && !listing.ignored.any (fitsName name)

/-- A file under a name, with its target if it is a link. -/
def listed (disk : Disk) (directory : Nat) (path name : Text) (number : Nat) : Listed :=
  let file := disk.get number
  match file.content with
  | .link target =>
    let file? := (disk.find directory path).toOption.map disk.get
    { name, number, file, target := some (target, file?) }
  | _ => { name, number, file }

/-- Finds an argument or a file in a directory. -/
def find (listing : Settled) (isArgument : Bool) (directory : Nat) (disk : Disk)
    (path name : Text) : Except SystemError Listed := do
  let followed := disk.find directory path
  let found (number : Nat) : Listed := listed disk directory path name number
  match listing.follows, isArgument with
  | .always, _ | .arguments, true => return found (← followed)
  | .directories, true =>
    match followed with
    | .ok number =>
      if (disk.get number).isDirectory then return found number
      else return found (← disk.findWith false directory path)
    | .error .notFound | .error .tooManyLinks =>
      return found (← disk.findWith false directory path)
    | .error error => throw error
  | _, _ => return found (← disk.findWith false directory path)

/-- Complains about a file. -/
def refuse (isArgument : Bool) (words : String) (path : Text) (error : SystemError) :
    Work Unit := do
  Work.warn (words.toList ++ " " ++ Quoted.between path ++ ": " ++ error.words)
  let status := (← get).status
  Work.setStatus (if isArgument then faultStatus else max 1 status)

/-- Writes a line. -/
def putLine (listing : Settled) (text : Text) : Work Unit :=
  Work.put (text ++ [listing.lineEnd])

/-- Writes files, for which there has to be as much room as for all those that were found. -/
def put (listing : Settled) (all files : List Listed) : Work Unit := do
  let disk ← Routine.look fun _ disk ↦ disk
  let zone ← Present.ownZone
  let now := (← Routine.self).now
  for line in listing.lines disk zone now all files do listing.putLine line

/-- The files that a directory holds. -/
def held (listing : Settled) (path : Text) : Work (List Listed) := do
  let found ← Routine.look fun directory disk ↦
    match disk.find directory path with
    | .error error => Except.error error
    | .ok number =>
      let own : List Text := [['.'], ['.', '.']]
      let names := own ++ (disk.get number).entries.map Prod.fst
      Except.ok ((names.filter listing.lists).map fun name ↦
        let place := within path name
        (place, listing.find false directory disk place name))
  match found with
  | .error error =>
    refuse false "cannot open directory" path error
    return []
  | .ok found =>
    let mut files : List Listed := []
    for (place, listed?) in found do
      match listed? with
      | .ok listed => files := listed :: files
      | .error error => refuse false "cannot access" place error
    return files.reverse

/-- Lists directories and, if that is asked for, those below them, at most some. The first flag says
whether the name of a directory is shown, the second one whether something was shown before. A
directory has the numbers of those it was found in. -/
def putDirectories (listing : Settled) : Nat → Bool → Bool → List (Text × Nat × List Nat) →
    Work Unit
  | 0, _, _, _ => return ()
  | _ + 1, _, _, [] => return ()
  | rounds + 1, isNamed, isLater, (path, number, above) :: rest => do
    if above.contains number then
      Work.warn (Quoted.name path ++ ": not listing already-listed directory")
      Work.setStatus faultStatus
      putDirectories listing rounds true isLater rest
    else
      let isNamed := isNamed || listing.recursive
      if isNamed then
        if isLater then Work.putLine []
        let name := Quoted.inStyle (':' :: listing.special) listing.quoting path
        Work.put (name ++ ":\n")
      let files := listing.sorted (← listing.held path)
      if listing.shape = .long ∨ listing.room then
        let total := files.foldl (fun total listed ↦ total + roomOf listed.file) 0
        listing.putLine ("total ".toList ++ listing.roomUnit.write total 512)
      listing.put files files
      let below :=
        if listing.recursive then
          (files.filter fun listed ↦
            listed.file.isDirectory && listed.name ≠ ['.'] && listed.name ≠ ['.', '.']).map
              fun listed ↦ (within path listed.name, listed.number, number :: above)
        else []
      putDirectories listing rounds true (isLater || isNamed) (below ++ rest)

/-- Lists files. -/
def run (listing : Settled) (paths : List Text) : Work Unit := do
  let mut found : List Listed := []
  let arguments := if paths.isEmpty ∧ listing.asFiles then [['.']] else paths
  for path in arguments do
    match ← Routine.look fun directory disk ↦ listing.find true directory disk path path with
    | .ok listed => found := listed :: found
    | .error error => refuse true "cannot access" path error
  let all := found.reverse
  let opens (listed : Listed) : Bool := listed.file.isDirectory && !listing.asFiles
  let sorted := listing.sorted all
  let files := sorted.filter (!opens ·)
  if ¬ files.isEmpty then listing.put all files
  let here ← Routine.look fun directory _ ↦ directory
  let directories :=
    if arguments.isEmpty then [(['.'], here, [])]
    else (sorted.filter opens).map fun listed ↦ (listed.name, listed.number, [])
  if ¬ files.isEmpty ∧ ¬ directories.isEmpty then Work.putLine []
  let isNamed := !files.isEmpty || 1 < arguments.length
  listing.putDirectories endless isNamed false directories

end Listing.Settled

/-- Lists files, in some form and with names in some style unless others are asked for. -/
def listWith (form : Form) (style : Quoted.Style) (arguments : List Text) : Work Unit := do
  let (chosen, paths) ← Listing.choices.take arguments
  let mut listing : Listing := {}
  for (letter, text) in chosen do listing ← listing.withOption letter text
  (← listing.settle form style).run paths

/-- Lists files. -/
def ls : List Text → Work Unit := listWith .lines .literal

/-- Lists files in columns. -/
def dir : List Text → Work Unit := listWith .columns .escape

/-- Lists files with all that is known. -/
def vdir : List Text → Work Unit := listWith .long .escape

end AlignmentTally.Command.Filing
