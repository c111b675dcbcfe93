import AlignmentTally.Command.Filing.Making
import AlignmentTally.Machine.Disk

/-!
# Where paths lead

The commands that write where links lead, and the paths from the root that paths come to.
-/

/-!
### Paths from the root

The one path of a file that begins at the root and has no links and dots in it. It can be asked for
even if the file is missing, as long as that is allowed.
-/

namespace AlignmentTally.Machine

/-- How much of a path has to be there. -/
inductive Presence where
  /-- All of it. -/
  | all
  /-- All but the last name. -/
  | directories
  /-- Nothing. -/
  | nothing
  deriving DecidableEq, Repr

namespace Disk

/-- Goes on from a file, if it is there, whose names from the root are known in reverse, through at
most some number of names and links. -/
def canonicalFrom (disk : Disk) (presence : Presence) :
    Nat → Option Nat → List Text → List Text → Except SystemError (List Text)
  | 0, _, _, _ => .error .tooManyLinks
  | _ + 1, _, names, [] => .ok names.reverse
  | steps + 1, here, names, name :: rest => do
    let goOn := canonicalFrom disk presence steps
    let isDirectory := here.any fun number ↦ (disk.get number).isDirectory
    if here.isSome ∧ ¬ isDirectory ∧ presence ≠ .nothing then throw .notADirectory
    if name = ['.'] then goOn here names rest
    else if name = ['.', '.'] then
      goOn (here.bind fun number ↦ disk.entry? number name) (names.drop 1) rest
    else
      match here.bind fun number ↦ disk.entry? number name with
      | none =>
        if presence = .nothing ∨ presence = .directories ∧ rest.isEmpty then
          goOn none (name :: names) rest
        else throw .notFound
      | some number =>
        match (disk.get number).content with
        | .link target =>
          if target.head? = some '/' then goOn (some root) [] (components target ++ rest)
          else goOn here names (components target ++ rest)
        | _ => goOn (some number) (name :: names) rest

/-- The names of a path from the root. -/
def canonical (disk : Disk) (presence : Presence) (directory : Nat) (path : Text) :
    Except SystemError (List Text) :=
  if path.isEmpty then .error .notFound
  else
    let names := components path
    let steps := names.length + 1 + Files.maxLinks * Files.maxPathSize
    if path.head? = some '/' then canonicalFrom disk presence steps (some root) [] names
    else
      let before := components (disk.pathOf directory)
      canonicalFrom disk presence steps (some directory) before.reverse names

end Disk

/-- The path of names from the root. -/
def pathOfNames (names : List Text) : Text :=
  if names.isEmpty then ['/'] else names.flatMap fun name ↦ '/' :: name

end AlignmentTally.Machine

namespace AlignmentTally.Command.Filing

open Machine

/-- The path from the root that a path comes to. -/
def canonicalPath (presence : Presence) (path : Text) : Work (Except SystemError Text) :=
  Routine.look fun directory disk ↦ (disk.canonical presence directory path).map pathOfNames

/-- Writes where links lead, or the paths from the root that paths come to. -/
def readlink (arguments : List Text) : Work Unit := do
  let (chosen, paths) ← Choices.take
    { letters := "efmnqsvz"
      words := [("canonicalize", 'f'), ("canonicalize-existing", 'e'),
        ("canonicalize-missing", 'm'), ("no-newline", 'n'), ("quiet", 'q'), ("silent", 's'),
        ("verbose", 'v'), ("zero", 'z')] } arguments
  if paths.isEmpty then Work.misuse "missing operand" 1
  let presence : Option Presence :=
    match lastOf? chosen "efm" with
    | some 'e' => some .all
    | some 'f' => some .directories
    | some _ => some .nothing
    | none => none
  let noEnd := has chosen 'n' && paths.length = 1
  if has chosen 'n' ∧ 1 < paths.length then
    Work.warn "ignoring --no-newline with multiple arguments"
  let tail : Text := if noEnd then [] else if has chosen 'z' then ['\x00'] else ['\n']
  for path in paths do
    let answer ←
      match presence with
      | some presence => canonicalPath presence path
      | none => do
        match ← lookAt false path with
        | .error error => pure (.error error)
        | .ok file =>
          match file.content with
          | .link target => pure (.ok target)
          | .stream stream => do
            match (← Routine.self).streams.lookup stream with
            | none => pure (.error .notFound)
            | some (.file number) =>
              .ok <$> Routine.look fun _ disk ↦ (disk.pathTo? number).getD "/ (deleted)"
            | some (.device .zero) => pure (.ok "/dev/zero")
            | some (.device .full) => pure (.ok "/dev/full")
            | some (.device .noise) => pure (.ok "/dev/urandom")
            | some (.device _) => pure (.ok "/dev/null")
            | some _ => pure (.ok ("pipe:[" ++ Text.ofNat (stream + 1) ++ "]"))
          | _ => pure (.error .invalid)
    match answer with
    | .ok text => Work.put (text ++ tail)
    | .error error =>
      Work.setStatus 1
      if has chosen 'v' then Work.warn (Quoted.name path ++ ": " ++ error.words.toList)

/-- Writes the paths from the root that paths come to. -/
def realpath (arguments : List Text) : Work Unit := do
  let (chosen, paths) ← Choices.take
    { letters := "eLmPqsz"
      words := [("canonicalize-existing", 'e'), ("canonicalize-missing", 'm'), ("logical", 'L'),
        ("physical", 'P'), ("quiet", 'q'), ("relative-to=", 'r'), ("relative-base=", 'b'),
        ("strip", 's'), ("no-symlinks", 's'), ("zero", 'z')] } arguments
  if paths.isEmpty then Work.misuse "missing operand" 1
  let presence : Presence :=
    match lastOf? chosen "em" with
    | some 'e' => .all
    | some _ => .nothing
    | none => .directories
  let tail : Text := if has chosen 'z' then ['\x00'] else ['\n']
  let base? ←
    match last? chosen 'r' with
    | none => pure none
    | some path =>
      match ← canonicalPath presence path with
      | .ok path => pure (some path)
      | .error error => Work.fail (Quoted.name path ++ ": " ++ error.words.toList) 1
  for path in paths do
    match ← canonicalPath (if has chosen 's' then .nothing else presence) path with
    | .ok text =>
      let text :=
        match base? with
        | some base => pathBetween (Disk.components base) (Disk.components text)
        | none => text
      Work.put (text ++ tail)
    | .error error =>
      if has chosen 'q' then Work.setStatus 1 else Work.complainOf path error

end AlignmentTally.Command.Filing
