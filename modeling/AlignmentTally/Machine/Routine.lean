import AlignmentTally.Machine.Process

/-!
# Routines

A part of a process that works on a state and gives a result or fails. What follows it is a process
for each of the two, so that routines are put together like any other computation, and a process
is what a whole routine comes to: `Routine.toProcess`.
-/

namespace AlignmentTally.Machine

/-- A computation within a process: with the state, and with what follows a failure and a result. -/
def Routine (σ ε α : Type) : Type :=
  σ → (failed : ε → σ → Process) → (done : α → σ → Process) → Process

namespace Routine

variable {σ ε α : Type}

@[always_inline]
instance : Monad (Routine σ ε) where
  pure a := fun state _ done ↦ done a state
  bind routine next := fun state failed done ↦
    routine state failed fun a state ↦ next a state failed done

@[always_inline]
instance : MonadStateOf σ (Routine σ ε) where
  get := fun state _ done ↦ done state state
  set state := fun _ _ done ↦ done () state
  modifyGet change := fun state _ done ↦
    let (a, state) := change state
    done a state

@[always_inline]
instance : MonadExceptOf ε (Routine σ ε) where
  throw error := fun state failed _ ↦ failed error state
  tryCatch routine handle := fun state failed done ↦
    routine state (fun error state ↦ handle error state failed done) done

/-- The process that a routine is, from a state. -/
def toProcess (routine : Routine σ ε α) (state : σ) (failed : ε → σ → Process)
    (done : α → σ → Process) : Process :=
  routine state failed done

/-- Lets the others have their turn. -/
def pause : Routine σ ε Unit := fun state _ done ↦ .pause fun _ ↦ done () state

/-- Reads at most some octets from a stream; none at its end. -/
def read (stream limit : Nat) : Routine σ ε (Except SystemError Text) :=
  fun state _ done ↦ .read stream limit false fun answer ↦ done answer state

/-- Reads from a stream at most up to the next line end. -/
def readLine (stream : Nat) : Routine σ ε (Except SystemError Text) :=
  fun state _ done ↦ .read stream 65536 true fun answer ↦ done answer state

/-- Writes a text to a stream. -/
def write (stream : Nat) (text : Text) : Routine σ ε (Except SystemError Unit) :=
  fun state _ done ↦
    if text.isEmpty then done (.ok ()) state
    else .write stream text fun answer ↦ done answer state

/-- Goes forward or back by some octets in the file to which a stream leads. The result is the place
where it is read or written next. -/
def move (stream : Nat) (distance : Int) : Routine σ ε (Except SystemError Nat) :=
  fun state _ done ↦ .move stream distance fun answer ↦ done answer state

/-- Gives octets back that were read from a stream, if it can take them back. -/
def giveBack (stream count : Nat) : Routine σ ε Unit :=
  if count = 0 then pure () else do
    let _ ← move stream (-count)
    return ()

/-- Opens a file. -/
def openFile (path : Text) (access : Access) : Routine σ ε (Except SystemError Nat) :=
  fun state _ done ↦ .openFile path access fun answer ↦ done answer state

/-- Opens a text to be read. -/
def openText (text : Text) : Routine σ ε Nat :=
  fun state _ done ↦ .openText text fun stream ↦ done stream state

/-- Opens a pipe, to be read on the first stream and written on the second. -/
def pipe : Routine σ ε (Nat × Nat) :=
  fun state _ done ↦ .pipe fun output input ↦ done (output, input) state

/-- Opens one more stream to where a stream leads, which programs are given if it is `shared`. -/
def duplicate (stream least : Nat) (shared : Bool) : Routine σ ε (Except SystemError Nat) :=
  fun state _ done ↦ .duplicate stream least shared fun answer ↦ done answer state

/-- Leads a stream to where another one leads. -/
def lead (stream target : Nat) : Routine σ ε (Except SystemError Unit) :=
  fun state _ done ↦ .lead stream target fun answer ↦ done answer state

/-- Closes a stream. -/
def close (stream : Nat) : Routine σ ε Unit :=
  fun state _ done ↦ .close stream fun _ ↦ done () state

/-- Starts a process that goes through a routine from the same state. -/
def fork {β : Type} (child : Routine σ ε β) (failed : ε → σ → Process) (done : β → σ → Process) :
    Routine σ ε Nat :=
  fun state _ next ↦ .fork (child state failed done) fun process ↦ next process state

/-- Becomes the program at a path. The result is why that cannot be. -/
def exec (path : Text) (arguments : List Text) (values : Values) : Routine σ ε SystemError :=
  fun state _ done ↦ .exec path arguments values fun error ↦ done error state

/-- Waits for a process. -/
def wait (child : Option Nat) (patience : Patience) : Routine σ ε Waited :=
  fun state _ done ↦ .wait child patience fun answer ↦ done answer state

/-- Waits some microseconds. -/
def sleep (duration : Nat) : Routine σ ε Unit :=
  fun state _ done ↦ .sleep duration fun _ ↦ done () state

/-- Sends a signal to a process. -/
def send (process signal : Nat) : Routine σ ε (Except SystemError Unit) :=
  fun state _ done ↦ .send process signal fun answer ↦ done answer state

/-- Makes an arrangement for a signal. -/
def arrange (signal : Nat) (arrangement : Arrangement) : Routine σ ε Unit :=
  fun state _ done ↦ .arrange signal arrangement fun _ ↦ done () state

/-- Takes the signals that arrived. -/
def arrived : Routine σ ε (List Nat) :=
  fun state _ done ↦ .arrived fun signals ↦ done signals state

/-- Looks at the disk from the directory of the process. -/
def look (view : (directory : Nat) → Disk → α) : Routine σ ε α :=
  fun state _ done ↦ .disk fun directory _ disk ↦ (disk, done (view directory disk) state)

/-- Changes the disk, unless that fails. -/
def change (act : (directory now : Nat) → Disk → Except SystemError Disk) :
    Routine σ ε (Except SystemError Unit) :=
  fun state _ done ↦ .disk fun directory now disk ↦
    match act directory now disk with
    | .ok disk => (disk, done (.ok ()) state)
    | .error error => (disk, done (.error error) state)

/-- Goes into a directory. -/
def enter (path : Text) : Routine σ ε (Except SystemError Unit) :=
  fun state _ done ↦ .enter path fun answer ↦ done answer state

/-- Says who may not do what with files that the process makes. -/
def setMask (mask : Nat) : Routine σ ε Unit :=
  fun state _ done ↦ .setMask mask fun answer ↦ done answer state

/-- Says how far the process stands back behind others that want to run. -/
def setNiceness (niceness : Int) : Routine σ ε Unit :=
  fun state _ done ↦ .setNiceness niceness fun answer ↦ done answer state

/-- Asks what a process can know about itself. -/
def self : Routine σ ε Self := fun state _ done ↦ .self fun self ↦ done self state

/-- The file on the disk to which a stream leads, if it leads to one. -/
def fileOf? (stream : Nat) : Routine σ ε (Option Nat) := do
  return (← self).streams.lookup stream |>.bind Target.file?

/-- What stands where a path leads, if anything does. -/
def lookAt? (path : Text) : Routine σ ε (Option DiskFile) := do
  let streams := (← self).streams
  look fun directory disk ↦
    (Target.ofPath? streams disk directory path).map (Target.content disk)

/-- Reads from a stream to its end, in at most some rounds. -/
def readRounds (stream : Nat) : Nat → List Text → Routine σ ε (Except SystemError Text)
  | 0, pieces => return .ok pieces.reverse.flatten
  | rounds + 1, pieces => do
    match ← read stream 65536 with
    | .error error => return .error error
    | .ok [] => return .ok pieces.reverse.flatten
    | .ok piece => readRounds stream rounds (piece :: pieces)

/-- Reads from a stream to its end. -/
def readAll (stream : Nat) : Routine σ ε (Except SystemError Text) := readRounds stream endless []

end Routine

end AlignmentTally.Machine
