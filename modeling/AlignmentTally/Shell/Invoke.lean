import AlignmentTally.Shell.Directory
import AlignmentTally.Shell.Jobs
import AlignmentTally.Shell.Lookup
import AlignmentTally.Shell.Redirection

/-!
# Commands that run commands

What it is to run a program, in the place of the shell or beside it, and the commands of a shell that
run others or change which ones run next.
-/

namespace AlignmentTally.Shell

open Machine

namespace Invoke

/-! ### Programs -/

/-- The program that runs files of commands which do not name one. -/
def scriptProgram (extended : Bool) : Text := if extended then "/bin/bash" else "/bin/sh"

/-- The values that a program is given, in the extended dialect also its path, unless it was asked to
take the place of the shell. -/
def valuesFor (state : State) (path : Text) : Values :=
  let values := state.exports
  if ¬ state.isExtended ∨ state.command = some "exec".toList then values
  else values ++ [("_".toList, path)]

/-- How a program takes the place of the shell. -/
structure Replacement where
  /-- The name that it is given instead of its own. -/
  name : Option Text := none
  /-- Whether it begins a session. -/
  begins : Bool := false
  /-- Whether it is given no values. -/
  alone : Bool := false

/-- Becomes the program at one of some paths. The result is why that cannot be. -/
def become (how : Replacement) (arguments : List Text) :
    List Text → SystemError → Action SystemError
  | [], error => return error
  | path :: paths, error => do
    let state ← get
    let values := if how.alone then [] else valuesFor state path
    let name := how.name.getD (arguments.headD [])
    let name := if how.begins then '-' :: name else name
    match ← Routine.exec path (name :: arguments.drop 1) values with
    | .notAProgram =>
      let shell := scriptProgram state.isExtended
      Routine.exec shell (shell :: path :: arguments.drop 1) values
    | .notFound => become how arguments paths error
    | .notADirectory => become how arguments paths error
    | other => become how arguments paths other

/-- Why a program cannot be run, in words. -/
def refusal (extended : Bool) (name : Text) (error : SystemError) : Text :=
  let isMissing := error = .notFound ∨ error = .notADirectory
  let words : Text := error.words.toList
  let missing : Text := "not found"
  if ¬ extended then name ++ ": " ++ if isMissing then missing else words
  else if name.contains '/' then name ++ ": " ++ error.words.toList
  else if isMissing ∨ name.isEmpty then name ++ ": command not found"
  else name ++ ": " ++ error.words.toList

/-- The exit status of a program that cannot be run. -/
def refusedStatus (error : SystemError) : Nat :=
  if error = .notFound ∨ error = .notADirectory ∨ error = .tooManyLinks ∨
    error = .nameTooLong then 127 else 126

/-- Complains that a program cannot take the place of the shell, in the extended dialect, and ends. -/
def refuseReplacement (name : Text) (error : SystemError) : Action Unit := do
  if name.contains '/' then
    let state ← get
    let path := if name.head? = some '/' then name else Directory.resolve state.directory name
    let words : Text := error.words.toList
    modify fun state ↦ { state with command := none }
    Action.warn (path ++ ": " ++ words)
    modify fun after ↦ { after with command := state.command }
    Action.warn (path ++ ": cannot execute: " ++ words)
  else Action.warn (name ++ ": not found")
  Control.setStatus (refusedStatus error)
  throw .exit

/-- Becomes a program, or ends with a complaint. `leaves` says that the shell is no longer around
the program, where the depth of shells is counted. -/
def replaceBy (how : Replacement) (leaves : Bool) (arguments paths : List Text) :
    Action Unit := do
  if leaves then modify (·.deepen false)
  let error ← become how arguments paths .notFound
  let extended := (← get).isExtended
  let name := arguments.headD []
  let isDirectory ← Routine.look fun directory disk ↦
    extended && name.contains '/' && (disk.file? directory name).any (·.isDirectory)
  let error : SystemError := if isDirectory then .isADirectory else error
  if extended ∧ (← get).command = some "exec".toList then refuseReplacement name error
  Action.warn (refusal extended name error)
  Control.setStatus (refusedStatus error)
  throw .exit

/-- Whether something is to be done for a signal or for the end. -/
def hasTraps : Action Bool := return (← get).traps.any (!·.2.isEmpty)

/-- Runs a program and waits for it. -/
def runProgram (run : Run) (ends : Bool) (arguments paths : List Text) : Action Nat := do
  if ends ∧ ¬ (← hasTraps) then
    let state ← get
    replaceBy {} (state.isExtended && !state.isPart) arguments paths
    return 0
  else
    let process ← Routine.fork (replaceBy {} false arguments paths : Action Unit)
      (fun _ state ↦ .exit state.status) fun _ state ↦ .exit state.status
    let _ := run
    Control.waitFor [process]

/-! ### Commands that run commands -/

/-- Ends the shell. -/
def exit (arguments : List Text) : Action Nat := do
  match arguments with
  | [] =>
    match (← get).beforeTrap with
    | some status => Control.setStatus status
    | none => pure ()
  | text :: others =>
    if (← get).isExtended then
      match Condition.integer? text with
      | some n =>
        if ¬ others.isEmpty then
          Action.warn "too many arguments"
          Control.setStatus 1
          throw .abandon
        Control.setStatus (Int.emod n 256).toNat
      | none =>
        Action.warn (text ++ ": numeric argument required")
        Control.setStatus 2
    else Control.setStatus (← Arguments.number text)
  throw .exit

/-- Ends a function or a file of commands. -/
def back (arguments : List Text) : Action Nat := do
  let state ← get
  let status ←
    match arguments with
    | [] => pure (state.beforeTrap.getD state.status)
    | text :: _ =>
      if state.isExtended then
        match Condition.integer? text with
        | some n => pure (Int.emod n 256).toNat
        | none => do
          Action.warn (text ++ ": numeric argument required")
          pure 2
      else Arguments.number text
  if state.isExtended ∧ state.depth = 0 ∧ ¬ state.inFile then
    Action.warn "can only \x60return' from a function or sourced script"
    return 2
  modify fun state ↦ { state with skip := some .back, beforeBack := state.status }
  return status

/-- Ends repetitions, or rounds of them. -/
def leave (ends : Bool) (arguments : List Text) : Action Nat := do
  if (← get).isExtended ∧ (← get).loops = 0 then
    Action.warn "only meaningful in a \x60for', \x60while', or \x60until' loop"
    return 0
  let n ←
    match arguments with
    | [] => pure 1
    | text :: _ => do
      let n ← Arguments.number text
      if n = 0 then
        if (← get).isExtended then Action.fail (text ++ ": loop count out of range")
        else Action.fail ("Illegal number: " ++ text)
      pure n
  let state ← get
  let n := min n state.loops
  if n ≠ 0 then set { state with skip := some (if ends then .leave n else .next n) }
  return 0

/-- Runs arguments as commands. -/
def eval (run : Run) (arguments : List Text) : Action Nat := do
  let arguments ←
    if (← get).isExtended then Arguments.operands arguments else pure arguments
  match arguments with
  | [] => return 0
  | arguments =>
    let state ← get
    let text := Text.join [' '] arguments
    if state.isExtended then
      modify fun state ↦ { state with command := none }
      let status ← Control.runText run false "eval: " state.line text
      modify fun after ↦ { after with line := state.line }
      return status
    else Control.runText run false [] 1 text

/-- Runs the commands of a file. -/
def source (run : Run) (arguments : List Text) : Action Nat := do
  let state ← get
  match ← Arguments.operands arguments with
  | [] =>
    if state.isExtended then
      Arguments.misuse "filename argument required"
    return 0
  | name :: others =>
    let candidates :=
      if name.contains '/' then [name]
      else state.searchPath.map (Program.pathIn · name) ++ if state.isExtended then [name] else []
    let path? ← Routine.look fun directory disk ↦
      if name.contains '/' then some name
      else candidates.find? fun path ↦ (disk.file? directory path).any (·.isRegular)
    match path? with
    | none =>
      if state.isExtended then
        modify fun state ↦ { state with command := none }
        Action.warn (name ++ ": No such file or directory")
        return 1
      Action.fail (name ++ ": not found")
    | some path =>
      match ← Routine.openFile path .read with
      | .error error =>
        if state.isExtended then
          modify fun state ↦ { state with command := none }
          Action.warn (path ++ ": " ++ error.words.toList)
          return 1
        else Action.fail (Redirection.openingFault false false path error)
      | .ok stream =>
        let text := (← Routine.readAll stream).toOption.getD []
        Routine.close stream
        let before ← get
        if ¬ state.isExtended then modify fun state ↦ { state with command := some path }
        if state.isExtended then
          let frame : Frame := ⟨"source", state.line, some path⟩
          modify fun state ↦
            { state with
              file := some path
              command := none
              inFile := true
              frames := frame :: state.frames
              traps := state.traps.filter fun (signal, _) ↦
                signal ≠ Control.step || state.has 'T' }
          if ¬ others.isEmpty then modify fun state ↦ { state with arguments := others }
        let status ← Control.runFile run text
        if state.isExtended then
          modify fun state ↦
            { state with
              file := before.file
              inFile := before.inFile
              line := before.line
              frames := before.frames
              traps := state.traps ++ before.traps.filter fun (signal, _) ↦
                signal = Control.step && !state.traps.any (·.1 = signal)
              arguments := if others.isEmpty then state.arguments else before.arguments }
          modify fun state ↦ { state with
            shown := if before.inTrap then state.shown else before.shown }
          Control.setStatus status
          Control.answer run Control.leaving
        return status

/-- Tells from where a function or a file of commands was asked for. -/
def caller (arguments : List Text) : Action Nat := do
  let state ← get
  let operands ← Arguments.operands arguments
  let texts (name : Text) : List Text := (state.valueOf name).entries.map Prod.snd
  let lines := texts "BASH_LINENO"
  let files := texts "BASH_SOURCE"
  match operands with
  | [] =>
    match lines with
    | [] => return 1
    | line :: _ => Output.finish 0 (line ++ ' ' :: files.getD 1 "NULL" ++ ['\n'])
  | text :: _ =>
    let n ←
      match Text.toNat? text with
      | some n => pure n
      | none => do
        Action.warn (text ++ ": invalid number")
        Arguments.remind
    match (texts "FUNCNAME")[n + 1]?, lines[n]?, files[n + 1]? with
    | some name, some line, some file =>
      Output.finish 0 (Text.join [' '] [line, name, file] ++ ['\n'])
    | _, _, _ => return 1

end Invoke

end AlignmentTally.Shell
