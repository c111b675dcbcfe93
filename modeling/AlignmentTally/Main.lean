import AlignmentTally.Installation
import Std.Time.DateTime.Timestamp

/-!
# The command line program

The outer layer: what a run may need of the machine is put into a `World`, and what the run has
made of it is written back. All decisions are taken in `Run`. The file tree holds the commands of
the system and, besides them, only the places that the arguments and the settings name.

Programs are launched on the machine of `Installation`. A run whose program never ends does not end
either, and reports nothing.
-/

namespace AlignmentTally.Host

/-- The names from the root down to where a path leads from a directory. -/
def resolve (directory : List String) (path : String) : List String :=
  let start := if Path.isAbsolute path then [] else directory
  (Path.components path).foldl
    (fun place name ↦
      if name = "." then place
      else if name = ".." then place.dropLast
      else place ++ [name])
    start

/-- The path of a place. -/
def pathOf (place : List String) : String := "/" ++ "/".intercalate place

/-- What stands at a place. The machine does not tell which files are executable, so each counts as
such. -/
def node? (place : List String) : IO (Option Node) := do
  try
    let content ← IO.FS.readBinFile (pathOf place)
    return some (.file content.toList true)
  catch
    | .inappropriateType .. => return some (.directory [])
    | _ => return none

/-- Adds what stands at a place, and at the places above it, to a file tree. -/
def load (files : Files) (place : List String) : IO Files := do
  let mut files := files
  for length in [1:place.length + 1] do
    let upper := place.take length
    if (files.at? upper).isNone then
      match ← node? upper with
      | some node => files := files.put upper node
      | none => return files
  return files

/-- Writes the file at a place if a run has made or changed it. -/
def store (before after : Files) (place : List String) : IO Unit := do
  let old :=
    match before.at? place with
    | some (.file content _) => some content
    | _ => none
  match after.at? place with
  | some (.file content _) =>
    if old ≠ some content then
      IO.FS.writeBinFile (pathOf place) (ByteArray.mk content.toArray)
  | _ => return ()

/-- The time. -/
def now : IO Instant := do
  let time ← Std.Time.Timestamp.now
  return ⟨time.val.second.val, time.val.nano.val.toNat⟩

/-- What a run with some arguments finds. -/
def world (arguments : List String) : IO World := do
  let directory := Path.components (← IO.currentDir).toString
  let environment : Environment :=
    { backend := ← IO.getEnv Environment.backendName
      adapterVendorId := ← IO.getEnv Environment.adapterVendorIdName }
  let files ← load ⟨Installation.root, directory⟩ directory
  let bare : World :=
    { files, environment, arguments
      executable := (← IO.appPath).toString
      now := ← now }
  let mut files := files
  for path in Run.paths bare do
    files ← load files (resolve directory path)
  match Run.launches? { bare with files } with
  | some invocation => files ← load files (resolve directory invocation.program)
  | none => pure ()
  let input ←
    if (Run.paths bare).contains Options.standardInput then (← IO.getStdin).readBinToEnd
    else pure ByteArray.empty
  return { bare with files, input := input.toList }

/-- A world in which what its run launches has been launched. If that never ends, neither does
this. -/
def settle (world : World) : IO World := do
  match Installation.settle? world with
  | some world => return world
  | none =>
    while true do IO.sleep 1000
    return world

end AlignmentTally.Host

open AlignmentTally in
/-- Runs the program. -/
def main (arguments : List String) : IO UInt32 := do
  let world ← Host.settle (← Host.world arguments)
  let outcome := Run.run world
  for path in Run.paths world do
    Host.store world.files outcome.files (Host.resolve world.files.workingDirectory path)
  for entry in outcome.log do
    IO.eprintln entry.line
  match outcome.ending.message? with
  | some message => IO.eprint message
  | none => pure ()
  IO.print outcome.ending.output
  return outcome.ending.exitCode.toUInt32
