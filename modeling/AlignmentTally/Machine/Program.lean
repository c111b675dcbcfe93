import AlignmentTally.Machine.Process

/-!
# Programs

What is started when a file is executed: a command of the system, or, if the first line of the file
is `#!` with a path, the program at that path with the path of the file as its argument. No other
file is a program. A name without a slash is looked up in a list of directories.
-/

namespace AlignmentTally.Machine

namespace Program

/-- The first line of a program counts as far as this many octets. -/
def maxFirstLine : Nat := 256

/-- The most programs that name one another in their first lines. -/
def maxChain : Nat := 6

/-- Whether a character separates the words of a first line. -/
def isBlank (c : Char) : Bool := c = ' ' || c = '\t'

/-- The path and the argument that the first line of a file names. -/
def interpreter? (octets : ByteArray) : Option (Text × Option Text) :=
  match Text.ofBytes (octets.extract 0 maxFirstLine) with
  | '#' :: '!' :: rest =>
    let line := rest.takeWhile (· ≠ '\n')
    let isCut := line.length = maxFirstLine - 2
    let line := (Text.trimStart isBlank line)
    let path := line.takeWhile fun c ↦ !isBlank c && c ≠ '\x00'
    let rest := line.drop path.length
    let counted := if isCut then rest.dropLast else rest
    let argument := Text.trimEnd isBlank (Text.trimStart isBlank counted)
    if path.isEmpty ∨ isCut ∧ rest.isEmpty then none
    else some (path, if argument.isEmpty then none else some argument)
  | _ => none

/-- What is started when a file is executed with a name and arguments: a command of the system with
a name and arguments. -/
def find? (disk : Disk) (directory : Nat) :
    Nat → Text → List Text → Except SystemError (String × List Text)
  | 0, _, _ => .error .tooManyLinks
  | chain + 1, path, arguments => do
    let file := disk.get (← disk.find directory path)
    match file.content with
    | .command name =>
      if ¬ file.isExecutable then throw .permissionDenied
      return (name, arguments)
    | .file octets =>
      if ¬ file.isExecutable then throw .permissionDenied
      match interpreter? octets with
      | none => throw .notAProgram
      | some (interpreter, argument) =>
        find? disk directory chain interpreter
          (interpreter :: argument.toList ++ path :: arguments.tail)
    | _ => throw .permissionDenied

/-- What is started when a file is executed with a name and arguments. -/
def find (disk : Disk) (directory : Nat) (path : Text) (arguments : List Text) :
    Except SystemError (String × List Text) :=
  find? disk directory maxChain path arguments

/-- Whether a file can be executed at all, be it a program or not. -/
def isCandidate (disk : Disk) (directory : Nat) (path : Text) : Bool :=
  match disk.file? directory path with
  | some file => file.isRegular && file.isExecutable
  | none => false

/-- The directories of a search path. An empty one is the directory that one is in. -/
def searchPath (value : Text) : List Text := Text.splitOn ':' value

/-- The path of a name in a directory. -/
def pathIn (directory name : Text) : Text :=
  if directory.isEmpty then name else directory ++ '/' :: name

/-- The first path in a search path at which a name can be executed. -/
def locate? (disk : Disk) (directory : Nat) (search : List Text) (name : Text) : Option Text :=
  (search.map (pathIn · name)).find? (isCandidate disk directory)

/-- The search path of a process that is given none. -/
def defaultSearchPath : Text := "/usr/local/sbin:/usr/local/bin:/usr/sbin:/usr/bin:/sbin:/bin"

end Program

end AlignmentTally.Machine
