import AlignmentTally.Machine.Program
import AlignmentTally.Shell.Arguments
import AlignmentTally.Shell.Output

/-!
# The directory of a shell

A shell remembers the path on which it came to its directory. A relative path goes on from that path
by its text: `..` takes the last name off, whatever the name leads to.
-/

namespace AlignmentTally.Shell

open Machine

namespace Directory

/-- Puts the names of a path at the end of other names, the last one first. -/
def follow (names : List Text) (path : Text) : List Text :=
  (Text.splitOn '/' path).foldl
    (fun names name ↦
      if name.isEmpty ∨ name = ['.'] then names
      else if name = ['.', '.'] then names.drop 1
      else name :: names)
    names

/-- The slashes with which a path begins. Two of them may mean something else than one. -/
def front : Text → Text
  | '/' :: '/' :: '/' :: _ => ['/']
  | '/' :: '/' :: _ => ['/', '/']
  | _ => ['/']

/-- The path that another path leads to from a directory. -/
def resolve (directory path : Text) : Text :=
  let isAbsolute := path.head? = some '/'
  let start := if isAbsolute then [] else follow [] directory
  front (if isAbsolute then path else directory) ++ Text.join ['/'] (follow start path).reverse

/-- Remembers the directory that the shell has gone into. -/
def remember (path : Text) : Action Unit := do
  let state ← get
  let old := state.directory
  set { state with directory := path }
  Action.assign "OLDPWD" old true
  Action.assign "PWD" path true

/-- The path of the directory, found from the disk. -/
def physical : Action Text := Routine.look fun directory disk ↦ disk.pathOf directory

/-- Goes into a directory. -/
def enter (path : Text) (isPhysical : Bool) : Action (Except SystemError Unit) := do
  let state ← get
  let target := if isPhysical then path else resolve state.directory path
  match ← Routine.enter target with
  | .error error => return .error error
  | .ok () =>
    remember (← if isPhysical then physical else pure target)
    return .ok ()

/-- Whether a path may begin somewhere else than in the directory of the shell. -/
def isSought (path : Text) : Bool :=
  match path with
  | '/' :: _ | ['.'] | '.' :: '/' :: _ | ['.', '.'] | '.' :: '.' :: '/' :: _ => false
  | _ => true

/-- Goes into another directory. -/
def change (arguments : List Text) : Action Nat := do
  let (options, operands) ← Arguments.options "LP" arguments
  let isPhysical := options.getLast?.any (·.1 = 'P')
  let state ← get
  let isBack := operands.head? = some ['-']
  let target :=
    match operands with
    | [] => state.value "HOME"
    | ['-'] :: _ => state.value "OLDPWD"
    | path :: _ => path
  if state.isExtended then
    if operands.isEmpty ∧ (state.value? "HOME").isNone then
      Action.warn "HOME not set"
      return 1
    if isBack ∧ (state.value? "OLDPWD").isNone then
      Action.warn "OLDPWD not set"
      return 1
    if 1 < operands.length then
      Action.warn "too many arguments"
      return 1
  let target := if target.isEmpty then ['.'] else target
  let isDirectory := fun path : Text ↦ fun directory (disk : Disk) ↦
    (disk.file? directory path).any (·.isDirectory)
  let starts :=
    if isSought target then
      match state.value? "CDPATH" with
      | some path => Text.splitOn ':' path
      | none => []
    else []
  let found? ← Routine.look fun directory disk ↦
    (starts.map fun start ↦ (start, Program.pathIn start target)).find? fun (_, path) ↦
      isDirectory path directory disk
  let (path, shows) :=
    match found? with
    | some (start, path) => (path, !start.isEmpty)
    | none => (target, false)
  match ← enter path isPhysical with
  | .ok () =>
    if shows ∨ isBack then Output.finish 0 ((← get).directory ++ ['\n']) else return 0
  | .error error =>
    if state.isExtended then
      Action.warn (target ++ ": " ++ error.words.toList)
      return 1
    else Action.fail ("can't cd to " ++ target)

/-- Shows the directory. -/
def show_ (arguments : List Text) : Action Nat := do
  let (options, _) ← Arguments.options "LP" arguments
  let path ←
    if options.getLast?.any (·.1 = 'P') then physical else pure (← get).directory
  Output.finish 0 (path ++ ['\n'])

end Directory

end AlignmentTally.Shell
