import AlignmentTally.Command.Quoted
import AlignmentTally.Machine.Routine

/-!
# The work of commands

What the commands of the system have in common: a command works under a name, collects what it
writes, complains in its name, and ends with an exit status that remembers whether it complained.
What was collected is written before a complaint, so that both come in the order in which they
arose.
-/

namespace AlignmentTally.Command

open Machine

/-- A command at work. -/
structure Session where
  /-- The name under which it was started. -/
  name : Text
  /-- The values that it was given. -/
  values : Values
  /-- What is to be written, the last piece first. -/
  pieces : List Text := []
  /-- The number of octets to be written. -/
  size : Nat := 0
  /-- The exit status. -/
  status : Nat := 0
  /-- Why nothing more can be written. -/
  broken : Option SystemError := none
  /-- Whether the input was read to its end, or could not be read. -/
  hasRead : Option SystemError := none

/-- A command of the system, which may end before its end with an exit status. -/
abbrev Work := Routine Session Nat

namespace Work

/-- The number of octets that are collected before they are written. -/
def room : Nat := 4096

/-- Writes what was collected. -/
def flush : Work Unit := do
  let session ← get
  if session.pieces.isEmpty then return
  set { session with pieces := [], size := 0 }
  if session.broken.isNone then
    match ← Routine.write 1 session.pieces.reverse.flatten with
    | .ok () => return
    | .error error => modify fun session ↦ { session with broken := some error }

/-- Collects a text to be written. -/
def put (text : Text) : Work Unit := do
  modify fun session ↦
    { session with pieces := text :: session.pieces, size := session.size + text.length }
  if room ≤ (← get).size then flush

/-- Collects a line to be written. -/
def putLine (text : Text) : Work Unit := put (text ++ ['\n'])

/-- Writes a message as it is. -/
def say (text : Text) : Work Unit := do
  flush
  let _ ← Routine.write 2 text
  return ()

/-- Complains. -/
def warn (words : Text) : Work Unit := do say ((← get).name ++ ": " ++ words ++ "\n")

/-- Sets the exit status. -/
def setStatus (status : Nat) : Work Unit := modify fun session ↦ { session with status }

/-- Complains and remembers it. -/
def complain (words : Text) : Work Unit := do
  warn words
  setStatus 1

/-- Complains about a file and remembers it. -/
def complainOf (path : Text) (error : SystemError) : Work Unit :=
  complain (Quoted.name path ++ ": " ++ error.words.toList)

/-- Ends with an exit status. -/
def leave {α : Type} (status : Nat) : Work α := throw status

/-- Complains and ends. -/
def fail {α : Type} (words : Text) (status : Nat) : Work α := do
  warn words
  leave status

/-- Says where to read about the use of the command and ends. -/
def advise {α : Type} (status : Nat) : Work α := do
  say ("Try '" ++ (← get).name ++ " --help' for more information.\n")
  leave status

/-- Complains about the use of the command and ends. -/
def misuse {α : Type} (words : Text) (status : Nat) : Work α := do
  warn words
  advise status

/-! ### Reading -/

/-- Whether a file may be read that has a name for the input. -/
def isInput (path : Text) : Bool := path = ['-']

/-- Opens a file, or the input under its name. -/
def open_ (path : Text) : Work (Except SystemError Nat) :=
  if isInput path then return .ok 0 else Routine.openFile path .read

/-- Closes a stream, unless it is the input. -/
def close (stream : Nat) : Work Unit := if stream = 0 then return () else Routine.close stream

/-- Whether a stream leads to the file, not an empty one, to which the output goes. -/
def isOutput (stream : Nat) : Work Bool := do
  match ← Routine.fileOf? stream, ← Routine.fileOf? 1 with
  | some file, some output =>
    if file ≠ output then return false
    Routine.look fun _ disk ↦
      match (disk.get file).content with
      | .file octets => octets.size ≠ 0
      | _ => false
  | _, _ => return false

/-- Reads a file. A complaint is made if that fails. -/
def readFile? (path : Text) : Work (Option Text) := do
  match ← open_ path with
  | .error error =>
    complainOf path error
    return none
  | .ok stream =>
    let answer ← Routine.readAll stream
    close stream
    match answer with
    | .error error =>
      complainOf path error
      return none
    | .ok text => return some text

/-- Reads files one after another, by default the input. -/
def readFiles (paths : List Text) : Work (List (Text × Text)) := do
  let mut files : List (Text × Text) := []
  for path in if paths.isEmpty then [['-']] else paths do
    match ← readFile? path with
    | some text => files := (path, text) :: files
    | none => pure ()
  return files.reverse

/-- Reads from a stream to its end or at most some octets, in at most some rounds. -/
def readPart (stream : Nat) : Nat → Option Nat → List Text → Work (Except SystemError Text)
  | 0, _, pieces => return .ok pieces.reverse.flatten
  | _, some 0, pieces => return .ok pieces.reverse.flatten
  | rounds + 1, limit, pieces => do
    match ← Routine.read stream (limit.elim 65536 (min 65536)) with
    | .error error => return .error error
    | .ok [] => return .ok pieces.reverse.flatten
    | .ok piece => readPart stream rounds (limit.map (· - piece.length)) (piece :: pieces)

/-! ### Piece by piece -/

/-- Goes through a stream piece by piece, in at most some rounds, until its end, or until it is done,
or nothing more can be written. The result is the last state, and the error that ended it. -/
def foldReads {σ : Type} (stream : Nat) (isDone : σ → Bool) (act : σ → Text → Work σ) :
    Nat → σ → Work (σ × Option SystemError)
  | 0, state => return (state, none)
  | rounds + 1, state => do
    if isDone state || (← get).broken.isSome then return (state, none)
    match ← Routine.read stream 65536 with
    | .error error => return (state, some error)
    | .ok [] => return (state, none)
    | .ok text => foldReads stream isDone act rounds (← act state text)

/-- Goes through a stream in pieces of whole lines, in at most some rounds. `rest` is the start of a
line that was read before. The result has the start of a line that is left, too. -/
def foldWholes {σ : Type} (ending : Char) (stream : Nat) (isDone : σ → Bool)
    (act : σ → Text → Work σ) : Nat → σ → Text → Work (σ × Text × Option SystemError)
  | 0, state, rest => return (state, rest, none)
  | rounds + 1, state, rest => do
    if isDone state || (← get).broken.isSome then return (state, rest, none)
    match ← Routine.read stream 65536 with
    | .error error => return (state, rest, some error)
    | .ok [] => return (state, rest, none)
    | .ok text =>
      let last := text.reverse.takeWhile (· ≠ ending)
      let size := text.length - last.length
      if size = 0 then foldWholes ending stream isDone act rounds state (rest ++ text)
      else
        let state ← act state (rest ++ text.take size)
        foldWholes ending stream isDone act rounds state last.reverse

/-- Goes through a stream in pieces of whole lines. The last line may lack its end. -/
def foldLines {σ : Type} (ending : Char) (stream : Nat) (isDone : σ → Bool)
    (act : σ → Text → Work σ) (state : σ) : Work (σ × Option SystemError) := do
  let (state, rest, error) ← foldWholes ending stream isDone act endless state []
  if rest.isEmpty || isDone state then return (state, error)
  return (← act state rest, error)

/-- Goes through files one after another in pieces of whole lines, by default through the input. A
complaint is made about each file that cannot be read. -/
def foldFiles {σ : Type} (ending : Char) (paths : List Text) (act : σ → Text → Work σ) (state : σ) :
    Work σ := do
  let mut state := state
  for path in if paths.isEmpty then [['-']] else paths do
    match ← open_ path with
    | .error error => complainOf path error
    | .ok stream =>
      let (after, error) ← foldLines ending stream (fun _ ↦ false) act state
      state := after
      close stream
      if let some error := error then complainOf path error
  return state

/-- Writes what is made of the lines of files, by default of the input. -/
def mapFiles (ending : Char) (paths : List Text) (change : Text → Text) : Work Unit := do
  let _ ← foldFiles ending paths (fun _ text ↦ put (change text)) ()
  return ()

/-- The texts that were read from streams and not used yet. -/
abbrev Buffers := List (Nat × Text)

/-- The next piece from a stream that ends in a character, without it, in at most some rounds; `none`
at the end of the stream. -/
def nextPiece (ending : Char) (stream : Nat) :
    Nat → Buffers → Work (Except SystemError (Option Text) × Buffers)
  | 0, buffers => return (.ok none, buffers)
  | rounds + 1, buffers => do
    let buffer := (buffers.lookup stream).getD []
    let others := buffers.filter (·.1 ≠ stream)
    let piece := buffer.takeWhile (· ≠ ending)
    match buffer.drop piece.length with
    | _ :: rest => return (.ok (some piece), (stream, rest) :: others)
    | [] =>
      match ← Routine.read stream 65536 with
      | .error error => return (.error error, others)
      | .ok [] => return (.ok (if piece.isEmpty then none else some piece), others)
      | .ok text => nextPiece ending stream rounds ((stream, buffer ++ text) :: others)

/-- The texts of files, by default of the input, at most some octets in all if there is a limit. -/
def readFirst (limit : Option Nat) (paths : List Text) : Work (List Text) := do
  let mut texts : List Text := []
  let mut left := limit
  for path in if paths.isEmpty then [['-']] else paths do
    match ← open_ path with
    | .error error => complainOf path error
    | .ok stream =>
      let answer ← readPart stream endless left []
      close stream
      match answer with
      | .error error =>
        complainOf path error
        texts := [] :: texts
      | .ok text =>
        texts := text :: texts
        left := left.map (· - text.length)
  return texts.reverse

/-- All of some files as one text. -/
def readTogether (paths : List Text) : Work Text :=
  return ((← readFiles paths).map Prod.snd).flatten

/-! ### The whole command -/

/-- The process that a work is. -/
def toProcess (work : Work Unit) (name : Text) (values : Values) : Process :=
  let finish (status : Nat) (session : Session) : Process :=
    let exit (broken : Option SystemError) : Process :=
      match broken with
      | none => .exit status
      | some error =>
        .write 2 (name ++ ": write error: " ++ error.words ++ "\n") fun _ ↦
          .exit (if status = 0 then 1 else status)
    match session.broken, session.pieces with
    | none, [] => exit none
    | none, pieces =>
      .write 1 pieces.reverse.flatten fun answer ↦
        match answer with
        | .ok () => exit none
        | .error error => exit (some error)
    | broken, _ => exit broken
  Routine.toProcess work { name, values } (fun status session ↦ finish status session)
    fun _ session ↦ finish session.status session

end Work

end AlignmentTally.Command
