import AlignmentTally.Files.Basic
import AlignmentTally.Machine.Text
import AlignmentTally.Utf8

/-!
# The disk

The file tree as running programs see it. Files are kept under numbers, so that a file can have
several names, can be read on after its last name is gone, and can be a link to a path. A path is
walked from a directory: every component but the last has to lead to a directory, and a slash at
the end asks for a directory.
-/

namespace AlignmentTally.Machine

/-- What stands under a number. -/
inductive FileContent where
  /-- A regular file. -/
  | file (octets : ByteArray)
  /-- A directory with its entries and the directory above it. -/
  | directory (entries : List (Text × Nat)) (parent : Nat)
  /-- A link to a path. -/
  | link (target : Text)
  /-- A device. -/
  | device (device : Device)
  /-- A stream of whoever opens it. -/
  | stream (number : Nat)
  /-- A pipe. -/
  | fifo
  /-- A command of the system, known by name. -/
  | command (name : String)
  deriving Inhabited

/-- A file of any kind. -/
structure DiskFile where
  /-- What it holds. -/
  content : FileContent
  /-- Who may do what with it, as nine bits. -/
  mode : Nat := 420
  /-- When it was changed last. -/
  changed : Nat := 0
  /-- When it was read last, as far as that is kept: unless it is set, when the file was made. -/
  accessed : Nat := changed
  /-- The number of the user whom it belongs to. -/
  owner : Nat := 0
  /-- The number of the group that it belongs to. -/
  group : Nat := 0
  deriving Inhabited

/-- When the first files were made, in microseconds. -/
def firstTime : Nat := 1770000000000000

/-- The microseconds between two times at which files can be changed. -/
def timeStep : Nat := 4000

/-- Who may do what with a new file. -/
def plainMode : Nat := 420

/-- Who may do what with a new directory or program. -/
def programMode : Nat := 493

namespace DiskFile

/-- Whether a file is a directory. -/
def isDirectory (file : DiskFile) : Bool :=
  match file.content with
  | .directory .. => true
  | _ => false

/-- Whether a file is a regular one. -/
def isRegular (file : DiskFile) : Bool :=
  match file.content with
  | .file _ | .command _ => true
  | _ => false

/-- Whether a file is a link. -/
def isLink (file : DiskFile) : Bool :=
  match file.content with
  | .link _ => true
  | _ => false

/-- Whether anyone may execute a file. -/
def isExecutable (file : DiskFile) : Bool := file.mode &&& 73 ≠ 0

/-- The octets of a regular file. -/
def octets (file : DiskFile) : ByteArray :=
  match file.content with
  | .file octets => octets
  | _ => .empty

/-- The entries of a directory. -/
def entries (file : DiskFile) : List (Text × Nat) :=
  match file.content with
  | .directory entries _ => entries
  | _ => []

end DiskFile

/-- Files under numbers; the root directory has the number 0. -/
structure Disk where
  /-- The files in the order of their numbers. -/
  files : Array DiskFile
  /-- Who may not do what with new files, as nine bits. -/
  mask : Nat := 18
  deriving Inhabited

namespace Disk

/-- The number of the root directory. -/
def root : Nat := 0

/-- The file under a number. -/
def get (disk : Disk) (number : Nat) : DiskFile := disk.files[number]?.getD default

/-- The disk with another file under a number. -/
def set (disk : Disk) (number : Nat) (file : DiskFile) : Disk :=
  { disk with files := disk.files.setIfInBounds number file }

/-- The disk with one more file, and its number. -/
def add (disk : Disk) (file : DiskFile) : Disk × Nat :=
  let number := disk.files.size
  ({ disk with files := disk.files.push file }, number)

/-- What a name stands for in a directory. -/
def entry? (disk : Disk) (directory : Nat) (name : Text) : Option Nat :=
  match (disk.get directory).content with
  | .directory entries parent =>
    if name = ['.'] then some directory
    else if name = ['.', '.'] then some parent
    else entries.lookup name
  | _ => none

/-! ### Paths -/

/-- Where a path leads: the directory above, the last name, and what is there. -/
structure Place where
  /-- The directory in which the last name stands. -/
  directory : Nat
  /-- The last name. -/
  name : Text
  /-- What the name stands for. -/
  number : Option Nat
  /-- Whether a slash at the end asks for a directory. -/
  wantsDirectory : Bool

/-- The names between the slashes of a path. -/
def components (path : Text) : List Text := (Text.splitOn '/' path).filter (!·.isEmpty)

/-- The directory from which a path is walked. -/
def startOf (directory : Nat) (path : Text) : Nat :=
  if path.head? = some '/' then root else directory

/-- Walks names from a directory, as far as the place they lead to or the first link on the way.
After a link, the directory and the names from which the walk goes on. -/
def walk (disk : Disk) (follow wantsDirectory : Bool) (directory : Nat) :
    List Text → Except SystemError (Place ⊕ (Nat × List Text))
  | [] => .ok (.inl ⟨directory, ['.'], some directory, wantsDirectory⟩)
  | name :: rest =>
    if ¬ (disk.get directory).isDirectory then .error .notADirectory
    else if Files.maxNameSize < name.length then .error .nameTooLong
    else
      match disk.entry? directory name with
      | none =>
        if rest.isEmpty then .ok (.inl ⟨directory, name, none, wantsDirectory⟩)
        else .error .notFound
      | some number =>
        match (disk.get number).content with
        | .link target =>
          if rest.isEmpty ∧ ¬ follow ∧ ¬ wantsDirectory then
            .ok (.inl ⟨directory, name, some number, wantsDirectory⟩)
          else .ok (.inr (startOf directory target, components target ++ rest))
        | _ =>
          if rest.isEmpty then .ok (.inl ⟨directory, name, some number, wantsDirectory⟩)
          else walk disk follow wantsDirectory number rest

/-- Walks names through at most some number of links. -/
def walkLinks (disk : Disk) (follow wantsDirectory : Bool) :
    Nat → Nat → List Text → Except SystemError Place
  | 0, _, _ => .error .tooManyLinks
  | links + 1, directory, names => do
    match ← walk disk follow wantsDirectory directory names with
    | .inl place => return place
    | .inr (directory, names) => walkLinks disk follow wantsDirectory links directory names

/-- The place to which a path leads. A link at its end is followed if that is asked for. -/
def place (disk : Disk) (directory : Nat) (path : Text) (follow : Bool) :
    Except SystemError Place :=
  if path.isEmpty then .error .notFound
  else if Files.maxPathSize ≤ path.length then .error .nameTooLong
  else
    walkLinks disk follow (path.getLast? = some '/') (Files.maxLinks + 1) (startOf directory path)
      (components path)

/-- What a path leads to, with a link at its end followed if that is asked for. -/
def findWith (disk : Disk) (follow : Bool) (directory : Nat) (path : Text) :
    Except SystemError Nat := do
  let place ← disk.place directory path follow
  match place.number with
  | none => throw .notFound
  | some number =>
    if place.wantsDirectory ∧ ¬ (disk.get number).isDirectory then throw .notADirectory
    return number

/-- What a path leads to. -/
def find (disk : Disk) (directory : Nat) (path : Text) : Except SystemError Nat :=
  disk.findWith true directory path

/-- The file to which a path leads, if it leads to one. -/
def file? (disk : Disk) (directory : Nat) (path : Text) : Option DiskFile :=
  (disk.find directory path).toOption.map disk.get

/-- The path of a directory from the root, found by going up at most some number of steps. -/
def pathFrom (disk : Disk) : Nat → Nat → Text → Text
  | 0, _, below => below
  | steps + 1, directory, below =>
    match (disk.get directory).content with
    | .directory _ parent =>
      match (disk.get parent).entries.find? (·.2 = directory) with
      | some (name, _) =>
        if directory = root then below else pathFrom disk steps parent ('/' :: name ++ below)
      | none => below
    | _ => below

/-- The path of a directory from the root. -/
def pathOf (disk : Disk) (directory : Nat) : Text :=
  match pathFrom disk disk.files.size directory [] with
  | [] => ['/']
  | path => path

/-- The path of a file from the root, if it has a name. -/
def pathTo? (disk : Disk) (number : Nat) : Option Text :=
  if (disk.get number).isDirectory then some (disk.pathOf number)
  else (List.range disk.files.size).findSome? fun directory ↦ do
    let (name, _) ← (disk.get directory).entries.find? (·.2 = number)
    let above := disk.pathOf directory
    return if above = ['/'] then '/' :: name else above ++ '/' :: name

/-! ### Changes -/

/-- The disk in which a directory has been given other entries. -/
def setEntries (disk : Disk) (now directory : Nat)
    (change : List (Text × Nat) → List (Text × Nat)) : Disk :=
  let file := disk.get directory
  match file.content with
  | .directory entries parent =>
    disk.set directory { file with content := .directory (change entries) parent, changed := now }
  | _ => disk

/-- The bits of a mode that a new file is given. -/
def allowed (disk : Disk) (mode : Nat) : Nat := mode - (mode &&& disk.mask)

/-- The disk with a new file at a place where nothing is, and the number of the file. -/
def putNew (disk : Disk) (now : Nat) (place : Place) (content : FileContent) (mode : Nat) :
    Disk × Nat :=
  let (disk, number) := disk.add { content, mode, changed := now }
  (disk.setEntries now place.directory (· ++ [(place.name, number)]), number)

/-- The disk with a regular file at a path, which is made if it is missing. -/
def make (disk : Disk) (now directory : Nat) (path : Text) : Except SystemError (Disk × Nat) := do
  let place ← disk.place directory path true
  if place.wantsDirectory then throw .isADirectory
  match place.number with
  | some number =>
    if (disk.get number).isDirectory then throw .isADirectory
    return (disk, number)
  | none => return disk.putNew now place (.file .empty) (disk.allowed 438)

/-- The disk with other octets in a regular file. -/
def setOctets (disk : Disk) (now number : Nat) (octets : ByteArray) : Disk :=
  let file := disk.get number
  match file.content with
  | .file _ => disk.set number { file with content := .file octets, changed := now }
  | _ => disk

/-- The disk after a text has been written into a regular file. -/
def write (disk : Disk) (now number offset : Nat) (text : Text) : Disk :=
  let file := disk.get number
  match file.content with
  | .file old =>
    -- the file is taken out first, so that its octets are changed in place
    let disk := disk.set number default
    let added := Text.toBytes text
    let size := old.size
    let old := if size < offset then old.append ⟨Array.replicate (offset - size) 0⟩ else old
    let octets :=
      if old.size ≤ offset then old.append added
      else added.copySlice 0 old offset added.size
    disk.set number { file with content := .file octets, changed := now }
  | _ => disk

/-- The disk with a new directory at a path. -/
def makeDirectory (disk : Disk) (now directory : Nat) (path : Text) :
    Except SystemError Disk := do
  let place ← disk.place directory path false
  match place.number with
  | some _ => throw .alreadyThere
  | none => return (disk.putNew now place (.directory [] place.directory) (disk.allowed 511)).1

/-- The disk with a new pipe at a path. -/
def makePipe (disk : Disk) (now directory : Nat) (path : Text) : Except SystemError Disk := do
  let place ← disk.place directory path false
  match place.number with
  | some _ => throw .alreadyThere
  | none =>
    if place.wantsDirectory then throw .notFound
    return (disk.putNew now place .fifo (disk.allowed 438)).1

/-- The disk without the entry of a name. -/
def erase (disk : Disk) (now : Nat) (place : Place) : Disk :=
  disk.setEntries now place.directory (·.filter (·.1 ≠ place.name))

/-- The disk without a name of a file that is no directory. -/
def removeFile (disk : Disk) (now directory : Nat) (path : Text) : Except SystemError Disk := do
  let place ← disk.place directory path false
  match place.number with
  | none => throw .notFound
  | some number =>
    if (disk.get number).isDirectory then throw .isADirectory
    if place.wantsDirectory then throw .notADirectory
    return disk.erase now place

/-- The disk without an empty directory. -/
def removeDirectory (disk : Disk) (now directory : Nat) (path : Text) :
    Except SystemError Disk := do
  let place ← disk.place directory path false
  match place.number with
  | none => throw .notFound
  | some number =>
    if ¬ (disk.get number).isDirectory then throw .notADirectory
    if place.name = ['.'] then throw .invalid
    if ¬ (disk.get number).entries.isEmpty then throw .notEmpty
    return disk.erase now place

/-- Whether a directory is a directory or lies below it, going up some number of steps. -/
def isBelow (disk : Disk) (upper : Nat) : Nat → Nat → Bool
  | 0, _ => false
  | steps + 1, directory =>
    directory = upper ||
      match (disk.get directory).content with
      | .directory _ parent => parent ≠ directory && isBelow disk upper steps parent
      | _ => false

/-- The disk in which a file has another path. What was at that path goes, if it may. -/
def rename (disk : Disk) (now directory : Nat) (old new : Text) : Except SystemError Disk := do
  let source ← disk.place directory old false
  let target ← disk.place directory new false
  match source.number with
  | none => throw .notFound
  | some number =>
    let moves := (disk.get number).isDirectory
    if moves ∧ disk.isBelow number disk.files.size target.directory then throw .invalid
    if target.wantsDirectory ∧ ¬ moves then throw .notADirectory
    match target.number with
    | some there =>
      if there = number then return disk
      let file := disk.get there
      if file.isDirectory ∧ ¬ moves then throw .isADirectory
      if moves ∧ ¬ file.isDirectory then throw .notADirectory
      if ¬ file.entries.isEmpty then throw .notEmpty
    | none => pure ()
    let disk := (disk.erase now source).erase now target
    let disk := disk.setEntries now target.directory (· ++ [(target.name, number)])
    match (disk.get number).content with
    | .directory entries _ =>
      let file := { disk.get number with content := .directory entries target.directory }
      return disk.set number file
    | _ => return disk

/-- The disk with one more name for a file. -/
def link (disk : Disk) (now directory : Nat) (old new : Text) : Except SystemError Disk := do
  let number ← disk.findWith false directory old
  let target ← disk.place directory new false
  if target.number.isSome then throw .alreadyThere
  if new.getLast? = some '/' then throw .notFound
  return disk.setEntries now target.directory (· ++ [(target.name, number)])

/-- The disk with a link to a path. -/
def linkTo (disk : Disk) (now directory : Nat) (path new : Text) : Except SystemError Disk := do
  let target ← disk.place directory new false
  if target.number.isSome then throw .alreadyThere
  if new.getLast? = some '/' ∨ path.isEmpty then throw .notFound
  return (disk.putNew now target (.link path) 511).1

/-- The disk in which others may do something with a file. -/
def setMode (disk : Disk) (number mode : Nat) : Disk :=
  disk.set number { disk.get number with mode }

/-! ### From and to a file tree -/

/-- The octets with which the file of a command begins: no text, and no script. -/
def commandMark : List UInt8 := [127, 69, 76, 70, 2, 1, 1, 0, 0, 0, 0, 0, 0, 0, 0, 0, 255]

/-- The content of the file of a command: a mark, and the name by which the command is known. -/
def commandOctets (name : String) : List UInt8 := commandMark ++ Utf8.encode name

/-- The name of the command whose file has some content, if it is such a file. -/
def command? (content : List UInt8) : Option String :=
  if commandMark.isPrefixOf content then
    (Utf8.decode (content.drop commandMark.length)).toOption
  else none

mutual

/-- Adds a node of a tree below a directory. -/
def addNode (parent : Nat) : Node → Disk → Disk × Nat
  | .file content executable, disk =>
    disk.add {
      content := (command? content).elim (.file (.mk content.toArray)) .command
      mode := if executable then programMode else plainMode
      changed := firstTime }
  | .directory entries, disk =>
    let file : DiskFile :=
      { content := .directory [] parent, mode := programMode, changed := firstTime }
    let (disk, number) := disk.add file
    let (disk, entries) := addEntries number entries disk
    (disk.set number { file with content := .directory entries parent }, number)
  | .device device, disk =>
    disk.add { content := .device device, mode := 438, changed := firstTime }
  | .link target, disk =>
    disk.add { content := .link (.ofString target), mode := 511, changed := firstTime }

/-- Adds the entries of a directory. -/
def addEntries (directory : Nat) : List (String × Node) → Disk → Disk × List (Text × Nat)
  | [], disk => (disk, [])
  | (name, node) :: rest, disk =>
    let (disk, number) := addNode directory node disk
    let (disk, entries) := addEntries directory rest disk
    (disk, (.ofString name, number) :: entries)

end

/-- The disk that holds a tree. -/
def ofTree (tree : Node) : Disk := (addNode root tree ⟨#[], 18⟩).1

/-- The node under a number, with at most some number of directories above one another. -/
def toNode? (disk : Disk) : Nat → Nat → Option Node
  | 0, _ => none
  | steps + 1, number =>
    let file := disk.get number
    match file.content with
    | .file octets => some (.file octets.toList file.isExecutable)
    | .directory entries _ =>
      some (.directory (entries.filterMap fun (name, below) ↦ do
        return (name.toString, ← toNode? disk steps below)))
    | .device device => some (.device device)
    | .stream _ | .fifo => none
    | .command name => some (.file (commandOctets name) file.isExecutable)
    | .link target => some (.link target.toString)

/-- The tree that a disk holds. -/
def toTree (disk : Disk) : Node :=
  (disk.toNode? (disk.files.size + 1) root).getD (.directory [])

end Disk

end AlignmentTally.Machine
