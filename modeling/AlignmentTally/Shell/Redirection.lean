import AlignmentTally.Shell.Expand

/-!
# Redirections

A stream of a command is led elsewhere while the command runs. What the stream led to before is kept
under another number, from which it is led back.
-/

namespace AlignmentTally.Shell

open Machine

/-- A redirection with its words expanded. -/
inductive Lead where
  /-- A stream leads to a file. -/
  | file (stream : Nat) (operator : String) (path : Text)
  /-- A stream leads where another one leads, which is written in some way. -/
  | copy (stream target : Nat) (written : Text)
  /-- A stream is closed. -/
  | close (stream : Nat)
  /-- A stream leads to a text. -/
  | text (stream : Nat) (text : Text)
  /-- A new stream leads somewhere, and a parameter is given its number; or the stream with that
  number is closed. -/
  | named (name : Text) (lead : Lead)
  /-- Nothing that can be done, for a reason. -/
  | refused (reason : Text)

/-- The streams that were led elsewhere, and where each is kept, if it was open. -/
abbrev Saved := List (Nat × Option Nat)

namespace Redirection

/-- The least number under which a stream is kept. -/
def firstKept : Nat := 10

/-- What a redirection of a stream comes to. -/
def lead (channel : Channel) (make : Nat → Lead) : Lead :=
  match channel with
  | .number stream => make stream
  | .named name => .named name (make 0)

/-- The text of a word that has to be a single field in the extended dialect. -/
def field (run : Run) (word : Word) (written : Text) : Action (Except Text Text) := do
  if ¬ (← get).isExtended then return .ok (← Expand.text run word)
  match ← Expand.fields run word with
  | [text] => return .ok text
  | _ => return .error (written ++ ": ambiguous redirect")

/-- A redirection with its words expanded. -/
def expand (run : Run) (redirect : Redirect) : Action (List Lead) := do
  match redirect with
  | .file channel operator path written =>
    match ← field run path written with
    | .ok path => return [lead channel (.file · operator path)]
    | .error reason => return [.refused reason]
  | .text channel text =>
    let text ← Expand.plainText run text
    return [lead channel (.text · text)]
  | .copy channel target written =>
    let extended := (← get).isExtended
    match ← field run target written with
    | .error reason => return [.refused reason]
    | .ok ['-'] => return [lead channel .close]
    | .ok text =>
      match Text.toNat? text, Text.toNat? text.dropLast with
      | some n, _ =>
        if extended ∨ text.length = 1 then return [lead channel (.copy · n written)]
        else Action.fail "Syntax error: Bad fd number"
      | none, some n =>
        if extended ∧ text.getLast? = some '-' then
          return [lead channel (.copy · n written), .close n]
        else if extended then return [.refused (written ++ ": ambiguous redirect")]
        else Action.fail "Syntax error: Bad fd number"
      | none, none =>
        if ¬ extended then Action.fail "Syntax error: Bad fd number"
        else if channel = .number 1 then return [.file 1 ">" text, .copy 2 1 ['1']]
        else return [.refused (written ++ ": ambiguous redirect")]

/-- A failure to open a file in words. -/
def openingFault (extended creates : Bool) (path : Text) (error : SystemError) : Text :=
  let words : Text := error.words.toList
  if extended then path ++ ": " ++ words
  else
    let missing : Text := if creates then "Directory nonexistent" else "No such file"
    let words := if error = .notFound ∨ error = .notADirectory then missing else words
    (if creates then "cannot create " else "cannot open ") ++ path ++ ": " ++ words

/-- Whether a file is there that may not be overwritten. -/
def isGuarded (path : Text) : Action Bool := do
  if ¬ (← get).has 'C' then return false
  Routine.look fun directory disk ↦ (disk.file? directory path).any (·.isRegular)

/-- Opens what a redirection names. The result is a stream, and whether it was opened anew. -/
def opened (lead : Lead) : Action (Except Text (Option (Nat × Bool))) := do
  match lead with
  | .refused reason => return .error reason
  | .close _ | .named .. => return .ok none
  | .copy _ target _ => return .ok (some (target, false))
  | .text _ text => return .ok (some (← Routine.openText text, true))
  | .file _ operator path =>
    let extended := (← get).isExtended
    let access : Access :=
      match operator with
      | "<" => .read
      | ">>" => .append
      | "<>" => .update
      | _ => .replace
    if operator = ">" then
      if ← isGuarded path then
        if extended then return .error (path ++ ": cannot overwrite existing file")
        else return .error (openingFault false true path .alreadyThere)
    match ← Routine.openFile path access with
    | .ok stream => return .ok (some (stream, true))
    | .error error => return .error (openingFault extended (access ≠ .read) path error)

/-- The stream that a redirection is about. -/
def streamOf : Lead → Nat
  | .file stream .. | .copy stream .. | .close stream | .text stream _ => stream
  | .named .. | .refused _ => 0

/-- Keeps a stream under another number and closes it, unless it is kept already. -/
def keep (stream : Nat) (isNew : Bool) (saved : Saved) : Action Saved := do
  if saved.any (·.1 = stream) then return saved
  else if isNew then return (stream, none) :: saved
  else
    match ← Routine.duplicate stream firstKept false with
    | .ok kept =>
      Routine.close stream
      return (stream, some kept) :: saved
    | .error _ => return (stream, none) :: saved

/-- How the stream is written where another one is to lead. -/
def writtenTarget : Lead → Text
  | .copy _ _ written => written
  | _ => []

/-- Opens a new stream and gives its number to a parameter, or closes the stream with the number that
the parameter has. The result says what is wrong, if anything is. -/
def open_ (name : Text) (lead : Lead) : Action (Option Text) := do
  match lead with
  | .close _ =>
    let state ← get
    let found ←
      match Expand.reference? name with
      | some (name, index) => Expand.find state name index
      | none => pure .none
    match (found.text? state.separator).bind Text.toNat? with
    | some stream =>
      Routine.close stream
      return none
    | none => return some (name ++ ": ambiguous redirect")
  | lead =>
    match ← opened lead with
    | .error words => return some words
    | .ok none => return none
    | .ok (some (source, isNew)) =>
      match ← Routine.duplicate source firstKept true with
      | .error error => return some (writtenTarget lead ++ ": " ++ error.words.toList)
      | .ok stream =>
        if isNew then Routine.close source
        Expand.assignTo name (Text.ofNat stream)
        return none

/-- Leads streams elsewhere. The result says what was kept, and whether all went well; if not, a
complaint was made. -/
def apply : List Lead → Saved → Action (Bool × Saved)
  | [], saved => return (true, saved)
  | .named name lead :: rest, saved => do
    match ← open_ name lead with
    | some words =>
      Action.warn words
      return (false, saved)
    | none => apply rest saved
  | lead :: rest, saved => do
    let stream := streamOf lead
    match ← opened lead with
    | .error words =>
      Action.warn words
      return (false, saved)
    | .ok none =>
      let saved ← keep stream false saved
      Routine.close stream
      apply rest saved
    | .ok (some (source, isNew)) =>
      if source = stream then
        if isNew then apply rest (← keep stream true saved) else apply rest saved
      else
        let saved ← keep stream false saved
        match ← Routine.lead stream source with
        | .ok () =>
          if isNew then Routine.close source
          apply rest saved
        | .error error =>
          Action.warn (writtenTarget lead ++ ": " ++ error.words.toList)
          return (false, saved)

/-- Leads streams back to where they led before. -/
def restore : Saved → Action Unit
  | [] => return ()
  | (stream, none) :: rest => do
    Routine.close stream
    restore rest
  | (stream, some kept) :: rest => do
    let _ ← Routine.lead stream kept
    Routine.close kept
    restore rest

/-- Leaves streams where they lead now. -/
def forget : Saved → Action Unit
  | [] => return ()
  | (_, none) :: rest => forget rest
  | (_, some kept) :: rest => do
    Routine.close kept
    forget rest

/-- Redirections with their words expanded. -/
def expandAll (run : Run) : List Redirect → Action (List Lead)
  | [] => return []
  | redirect :: rest => return (← expand run redirect) ++ (← expandAll run rest)

end Redirection

end AlignmentTally.Shell
