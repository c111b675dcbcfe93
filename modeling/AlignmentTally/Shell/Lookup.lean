import AlignmentTally.Machine.Program
import AlignmentTally.Shell.Arguments
import AlignmentTally.Shell.Output
import AlignmentTally.Shell.Parameters

/-!
# Names of commands

What the name of a command stands for: a function, a command of the shell itself, or a program
that is looked up in directories.
-/

namespace AlignmentTally.Shell

open Machine

namespace Lookup

/-- The commands of the shell itself that the language gives a special standing: an error in one of
them ends the script, and assignments in front of them last. -/
def specialNames : List String :=
  [".", ":", "break", "continue", "eval", "exec", "exit", "export", "local", "readonly", "return",
    "set", "shift", "times", "trap", "unset"]

/-- The other commands of the shell itself. -/
def ownNames : List String :=
  ["[", "alias", "bg", "cd", "chdir", "command", "echo", "false", "fg", "getopts", "hash", "jobs",
    "kill", "printf", "pwd", "read", "test", "true", "type", "ulimit", "umask", "unalias", "wait"]

/-- The commands that the extended dialect adds. -/
def addedNames : List String :=
  ["builtin", "caller", "declare", "dirs", "let", "mapfile", "popd", "pushd", "readarray", "shopt", "source",
    "typeset"]

/-- The commands whose arguments may be assignments. -/
def assigningNames : List String := ["alias", "export", "local", "readonly", "declare", "typeset"]

/-- Whether a name is that of a command of the shell itself. -/
def isOwn (extended : Bool) (name : Text) : Bool :=
  let name := String.ofList name
  specialNames.contains name || (ownNames.contains name && !(extended && name = "chdir")) ||
    (extended && addedNames.contains name)

/-- Whether a command of the shell itself has a special standing. -/
def isSpecial (name : Text) : Bool := specialNames.contains (String.ofList name)

/-- What a name stands for. -/
inductive Meaning where
  /-- A function. -/
  | function (definition : Definition)
  /-- A command of the shell itself. -/
  | own
  /-- The program at one of some paths. -/
  | program (paths : List Text)
  /-- Nothing, for a reason. -/
  | nothing (error : SystemError)

/-- Why none of some paths leads to a program. -/
def whyNot (disk : Disk) (directory : Nat) (paths : List Text) : SystemError :=
  if paths.any fun path ↦ (disk.file? directory path).isSome then .permissionDenied
  else .notFound

/-- What a name stands for, in some directories. -/
def find (state : State) (functions : Bool) (search : List Text) (name : Text) :
    Action Meaning := do
  match if functions then state.functions.lookup name else none with
  | some definition => return .function definition
  | none =>
    if isOwn state.isExtended name then return .own
    else if name.contains '/' then return .program [name]
    else
      let paths := search.map (Program.pathIn · name)
      Routine.look fun directory disk ↦
        match paths.dropWhile (!Program.isCandidate disk directory ·) with
        | [] => .nothing (whyNot disk directory paths)
        | paths => .program paths

/-- Remembers where a command was found. -/
def remember (name path : Text) : Action Unit :=
  modify fun state ↦
    if state.located.any (·.1 = name) then state
    else { state with located := state.located ++ [(name, path)] }

/-! ### Telling what names stand for -/

/-- Tells what a name stands for, in words or as a command, without a line end; `none` if it stands
for nothing. -/
def describe? (verbose : Bool) (search : Option (List Text)) (name : Text) :
    Action (Option Text) := do
  let state ← get
  let keywords := if state.isExtended then Lexicon.extraReservedWords else []
  let say (words : Text) : Text := if verbose then name ++ words else name
  if (Lexicon.reservedWords ++ keywords).contains (String.ofList name) then
    return some (say " is a shell keyword")
  match state.aliases.lookup name with
  | some text =>
    return some <|
      if ¬ verbose then "alias " ++ name ++ "=" ++ Arguments.quote text
      else if state.isExtended then name ++ " is aliased to \x60" ++ text ++ "'"
      else name ++ " is an alias for " ++ text
  | none =>
    match state.located.lookup name, search with
    | some path, none =>
      return some <|
        if ¬ verbose then path
        else if state.isExtended then name ++ " is hashed (" ++ path ++ ")"
        else name ++ " is a tracked alias for " ++ path
    | _, _ =>
      match ← find state true (search.getD state.searchPath) name with
      | .function definition =>
        return some <|
          if state.isExtended ∧ verbose then
            name ++ " is a function\n" ++ Writing.definition name definition.body
          else say " is a shell function"
      | .own =>
        return some <| say <|
          if isSpecial name ∧ ¬ state.isExtended then " is a special shell builtin"
          else " is a shell builtin"
      | .program (path :: _) =>
        let isThere ←
          if name.contains '/' then
            Routine.look fun directory disk ↦ (disk.file? directory path).isSome
          else pure true
        if ¬ isThere then return none
        return some (if verbose then name ++ " is " ++ path else path)
      | _ => return none

/-- Everything that a name stands for, in words of the extended dialect. -/
def describeAll (name : Text) : Action (List Text) := do
  let state ← get
  let keywords := Lexicon.reservedWords ++ Lexicon.extraReservedWords
  let isThere (condition : Bool) (words : String) : List Text :=
    if condition then [name ++ words.toList] else []
  let paths ← Routine.look fun directory disk ↦
    (state.searchPath.map (Program.pathIn · name)).filter (Program.isCandidate disk directory ·)
  return isThere (keywords.contains (String.ofList name)) " is a shell keyword" ++
    (match state.functions.lookup name with
      | some definition =>
        [name ++ " is a function\n" ++ Writing.definition name definition.body]
      | none => []) ++
    isThere (isOwn true name) " is a shell builtin" ++
    (if name.contains '/' then [] else paths.map fun path ↦ name ++ " is " ++ path)

/-- What kind of thing a name stands for, in a word of the extended dialect. -/
def kindOf (name : Text) : Action (Option Text) := do
  let state ← get
  let keywords := Lexicon.reservedWords ++ Lexicon.extraReservedWords
  if keywords.contains (String.ofList name) then return some "keyword"
  if state.features.contains "expand_aliases".toList ∧ state.aliases.any (·.1 = name) then
    return some "alias"
  match ← find state true state.searchPath name with
  | .function _ => return some "function"
  | .own => return some "builtin"
  | .program (path :: _) =>
    let isThere ← Routine.look fun directory disk ↦ (disk.file? directory path).isSome
    return if isThere then some "file" else none
  | _ => return none

/-- Tells what names stand for, in words. -/
def type (arguments : List Text) : Action Nat := do
  let extended := (← get).isExtended
  let (options, names) ←
    if extended then Arguments.options "afptP" arguments else pure ([], arguments)
  let mut status := 0
  let mut lines : List Text := []
  for name in names do
    let has (letter : Char) : Bool := options.any (·.1 = letter)
    if has 't' then
      match ← kindOf name with
      | some word => lines := (word ++ ['\n']) :: lines
      | none => status := 1
    else if has 'p' ∨ has 'P' then
      let state ← get
      match ← find { state with functions := [] } false state.searchPath name, ← kindOf name with
      | .program (path :: _), some kind =>
        if has 'P' ∨ kind = "file".toList then lines := (path ++ ['\n']) :: lines
      | _, none => status := 1
      | _, _ => pure ()
    else if has 'a' then
      match ← describeAll name with
      | [] =>
        Action.warn (name ++ ": not found")
        status := 1
      | all => lines := (all.flatMap fun words ↦ words ++ ['\n']) :: lines
    else
      match ← describe? true none name with
      | some words => lines := (words ++ ['\n']) :: lines
      | none =>
        if extended then
          Action.warn (name ++ ": not found")
          status := 1
        else
          lines := (name ++ ": not found\n") :: lines
          status := 127
  Output.finish status lines.reverse.flatten

/-- Tells what a name stands for, in words or as a command. -/
def tell (verbose : Bool) (search : Option (List Text)) : List Text → Action Nat
  | [] => return 0
  | name :: others => do
    if (← get).isExtended then
      let mut lines : List Text := []
      for name in name :: others do
        match ← describe? verbose search name with
        | some words => lines := (words ++ ['\n']) :: lines
        | none =>
          if verbose then Action.warn (name ++ ": not found")
      return ← Output.finish (if lines.isEmpty then 1 else 0) lines.reverse.flatten
    match ← describe? verbose search name with
    | some words => Output.finish 0 (words ++ ['\n'])
    | none =>
      if verbose then Output.finish 127 (name ++ ": not found\n")
      else return 127

/-- The place of the name of a command in the list of known ones, which is kept in this many
parts. -/
def placeOf (name : Text) : Nat :=
  ((name.head?.map Char.toNat).getD 0 * 16 + name.foldl (fun sum c ↦ sum + c.toNat) 0) % 32768 % 31

/-- Lists where commands were found, looks some up, or forgets them. -/
def hash (arguments : List Text) : Action Nat := do
  let extended := (← get).isExtended
  let (options, names) ← Arguments.options (if extended then "lrp:dt" else "rv") arguments
  if options.any (·.1 = 'r') then modify fun state ↦ { state with located := [] }
  if names.isEmpty then
    if options.any (·.1 = 'r') then return 0
    if extended then
      match (← get).located with
      | [] => return ← Output.finish 0 "hash: hash table empty\n"
      | known =>
        let line (path : Text) : Text := "   1\t" ++ path ++ "\n"
        return ← Output.finish 0 ("hits\tcommand\n" ++ known.flatMap fun (_, path) ↦ line path)
    let known := (← get).located.mergeSort fun a b ↦ placeOf a.1 ≤ placeOf b.1
    return ← Output.finish 0 (known.flatMap fun (_, path) ↦ path ++ ['\n'])
  let mut status := 0
  for name in names do
    let state ← get
    match ← find state true state.searchPath name with
    | .program (path :: _) => remember name path
    | .nothing _ =>
      Action.warn (name ++ ": not found")
      status := 1
    | _ => pure ()
  return status

end Lookup

end AlignmentTally.Shell
