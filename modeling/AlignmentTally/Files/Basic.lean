import AlignmentTally.Path
import AlignmentTally.SystemError

/-!
# File trees

A tree of directories and files, and a working directory in it from which relative paths start.
Looking up a path walks down its components: every component but the last has to be a directory,
`.` stays, `..` goes up, links are followed, and a slash at the end asks for a directory. Each
operation answers with the error that the system would report.
-/

namespace AlignmentTally

/-- What a device answers. -/
inductive Device where
  /-- Empty when read; swallows what is written. -/
  | null
  /-- Endless zeros when read; swallows what is written. -/
  | zero
  /-- Endless zeros when read; has no room. -/
  | full
  /-- Octets by chance when read; swallows what is written. -/
  | noise
  /-- The terminal, of which there is none. -/
  | terminal
  deriving DecidableEq, Repr

/-- What stands at a place of the tree. -/
inductive Node where
  /-- A regular file. -/
  | file (content : List UInt8) (executable : Bool)
  /-- A directory with its entries by name. -/
  | directory (entries : List (String × Node))
  /-- A device. -/
  | device (device : Device)
  /-- A link to a path, which starts from the directory of the link. -/
  | link (target : String)
  deriving Repr, Inhabited

namespace Node

/-- The entry of a directory under a name. -/
def entry? (name : String) : Node → Option Node
  | directory entries => entries.lookup name
  | _ => none

/-- Whether a node is a directory. -/
def isDirectory : Node → Bool
  | directory _ => true
  | _ => false

/-- The node at the end of a chain of entries. -/
def descend? (node : Node) : List String → Option Node
  | [] => some node
  | name :: rest => do (← node.entry? name).descend? rest

/-- Entries with one replaced, or added at the end. -/
def setEntry (name : String) (node : Node) : List (String × Node) → List (String × Node)
  | [] => [(name, node)]
  | (n, old) :: rest =>
    if n = name then (name, node) :: rest else (n, old) :: setEntry name node rest

/-- The tree in which `change` has made the node at the end of a chain of entries, from what is
there. Missing directories on the way are made, and nothing is put below a file. -/
def modify (change : Option Node → Node) : List String → Option Node → Node
  | [], old => change old
  | name :: rest, some (directory entries) =>
    directory (setEntry name (modify change rest (entries.lookup name)) entries)
  | name :: rest, none => directory [(name, modify change rest none)]
  | _ :: _, some other => other

end Node

/-- A file tree with a working directory. -/
structure Files where
  /-- The root directory. -/
  root : Node
  /-- The names of the directories from the root down to the working directory. -/
  workingDirectory : List String
  deriving Repr, Inhabited

namespace Files

/-- The node at a place, given by the names from the root down. -/
def at? (files : Files) (place : List String) : Option Node := files.root.descend? place

/-- A file name has at most this many bytes. -/
def maxNameSize : Nat := 255

/-- A path has fewer bytes than this. -/
def maxPathSize : Nat := 4096

/-- The most links on the way of one path. -/
def maxLinks : Nat := 40

/-- The place that components lead to from a directory, as far as the first link on the way. After a
link, the place and the components from which the walk goes on. The place itself may be missing, but
all above it are directories. -/
def walk (files : Files) (place : List String) :
    List String → Except SystemError (List String ⊕ (List String × List String))
  | [] => .ok (.inl place)
  | name :: rest =>
    match files.at? place with
    | none => .error .notFound
    | some node =>
      if ¬ node.isDirectory then .error .notADirectory
      else if name = "." then walk files place rest
      else if name = ".." then walk files place.dropLast rest
      else if maxNameSize < name.utf8ByteSize then .error .nameTooLong
      else
        match node.entry? name with
        | some (.link target) =>
          .ok (.inr (if Path.isAbsolute target then [] else place, Path.components target ++ rest))
        | _ => walk files (place ++ [name]) rest

/-- Walks components through at most some number of links. -/
def walkLinks (files : Files) : Nat → List String → List String → Except SystemError (List String)
  | 0, _, _ => .error .tooManyLinks
  | links + 1, place, names => do
    match ← files.walk place names with
    | .inl place => return place
    | .inr (place, names) => walkLinks files links place names

/-- The place that a path leads to. -/
def place (files : Files) (path : String) : Except SystemError (List String) :=
  if path.toList.contains '\x00' then .error .nulInPath
  else if path.isEmpty then .error .notFound
  else if maxPathSize ≤ path.utf8ByteSize then .error .nameTooLong
  else
    files.walkLinks (maxLinks + 1) (if Path.isAbsolute path then [] else files.workingDirectory)
      (Path.components path)

/-- Whether a path asks for a directory by a slash at its end. -/
def asksForDirectory (path : String) : Bool := path.toList.getLast? = some '/'

/-- The node that a path leads to. -/
def find (files : Files) (path : String) : Except SystemError Node := do
  match files.at? (← files.place path) with
  | none => throw .notFound
  | some node =>
    if asksForDirectory path ∧ ¬ node.isDirectory then throw .notADirectory else return node

/-- Whether a path leads anywhere. -/
def has (files : Files) (path : String) : Bool := (files.find path).isOk

/-- Whether a path leads to a directory. -/
def isDirectory (files : Files) (path : String) : Bool :=
  match files.find path with
  | .ok node => node.isDirectory
  | .error _ => false

/-- Whether a path leads to a regular file. -/
def isFile (files : Files) (path : String) : Bool :=
  match files.find path with
  | .ok (.file ..) => true
  | _ => false

/-- The content of a file. One that goes on for ever fills the memory before it has been read. -/
def read (files : Files) (path : String) : Except SystemError (List UInt8) := do
  match ← files.find path with
  | .file content _ => return content
  | .directory _ => throw .isADirectory
  | .device .null => return []
  | .device .terminal => throw .noDevice
  | .device .zero | .device .full | .device .noise => throw .outOfMemory
  | .link _ => throw .notFound

/-- The tree with a node at a place. -/
def put (files : Files) (place : List String) (node : Node) : Files :=
  { files with root := Node.modify (fun _ ↦ node) place (some files.root) }

/-- The tree after a file has been given a content. A file that is missing is made, in a directory
that is there; one that is executable stays so. -/
def write (files : Files) (path : String) (content : List UInt8) : Except SystemError Files := do
  let place ← files.place path
  if asksForDirectory path then throw .isADirectory
  match files.at? place with
  | some (.directory _) => throw .isADirectory
  | some (.file _ executable) => return files.put place (.file content executable)
  | some (.device .full) => if content.isEmpty then return files else throw .noSpace
  | some (.device .terminal) => throw .noDevice
  | some (.device _) => return files
  | some (.link _) => throw .tooManyLinks
  | none => return files.put place (.file content false)

end Files

end AlignmentTally
