import AlignmentTally.Machine.Disk
import AlignmentTally.Machine.Signal

/-!
# Processes

A process is what it asks of the machine next, and how it goes on after each answer. Nothing but
its requests can be seen of it, so a shell, a command and a script are processes alike.
-/

namespace AlignmentTally.Machine

/-- The values that a program is given by name, each under its name. -/
abbrev Values := List (Text × Text)

/-- For what a file is opened. -/
inductive Access where
  /-- To be read. -/
  | read
  /-- To be written from its start, after it has been emptied. -/
  | replace
  /-- To be written at its end. -/
  | append
  /-- To be read and written, from its start. -/
  | update
  deriving DecidableEq, Repr

/-- What a process arranges for a signal. -/
inductive Arrangement where
  /-- The signal has its own effect. -/
  | default
  /-- The signal has no effect. -/
  | ignore
  /-- The signal is kept until the process asks which ones arrived. -/
  | keep
  deriving DecidableEq, Repr

/-- How long a process waits for another one. -/
inductive Patience where
  /-- Not at all. -/
  | none
  /-- Until a signal arrives that it keeps. -/
  | untilSignal
  /-- Until the end. -/
  | endless
  deriving DecidableEq, Repr

/-- What came of waiting for a process. -/
inductive Waited where
  /-- A process has ended. -/
  | ended (process : Nat) (status : ExitStatus)
  /-- All still run. -/
  | running
  /-- A signal arrived. -/
  | signalled
  /-- There is no such process to wait for. -/
  | none
  deriving DecidableEq, Repr

/-- Where a stream leads. -/
inductive Target where
  /-- To whoever looks at the output. -/
  | console
  /-- To the end of a pipe that is read. -/
  | pipeOutput (pipe : Nat)
  /-- To the end of a pipe that is written. -/
  | pipeInput (pipe : Nat)
  /-- To both ends of a pipe. -/
  | pipeEnds (pipe : Nat)
  /-- To a file. -/
  | file (number : Nat)
  /-- To a device. -/
  | device (device : Device)
  /-- To a text that is read. -/
  | text (rest : Text)
  deriving DecidableEq

namespace Target

/-- The number of the file on the disk to which a stream leads, if it leads to one. -/
def file? : Target → Option Nat
  | .file number => some number
  | _ => none

/-- What stands where a stream leads, as if it stood on the disk. -/
def content (disk : Disk) : Target → DiskFile
  | .file number => disk.get number
  | .device answers => { content := .device answers, mode := 438, changed := firstTime }
  | .console | .pipeOutput _ | .pipeInput _ | .pipeEnds _ | .text _ =>
    { content := .fifo, mode := 384, changed := firstTime }

/-- Where a path leads for a process with some streams, which have paths of their own. -/
def ofPath? (streams : List (Nat × Target)) (disk : Disk) (directory : Nat) (path : Text) :
    Option Target := do
  let number ← (disk.find directory path).toOption
  match (disk.get number).content with
  | .stream stream => streams.lookup stream
  | .device answers => some (.device answers)
  | _ => some (.file number)

end Target

/-- What a process can know about itself. -/
structure Self where
  /-- The number of the process. -/
  id : Nat
  /-- The number of the process that made it. -/
  parent : Nat
  /-- The directory it is in. -/
  directory : Nat
  /-- The time in microseconds. -/
  now : Nat
  /-- Who may not do what with files that it makes, as nine bits. -/
  mask : Nat
  /-- How far it stands back behind others that want to run, from -20 to 19. -/
  niceness : Int
  /-- The signals that it ignores. -/
  ignored : List Nat
  /-- Its open streams, and where they lead. -/
  streams : List (Nat × Target)

/-- A process. -/
inductive Process where
  /-- Ends with a code. -/
  | exit (code : Nat)
  /-- Goes on after the others have had their turn. -/
  | pause (next : Unit → Process)
  /-- Reads at most `limit` octets from a stream, or those up to a line end; none at its end. -/
  | read (stream limit : Nat) (toLineEnd : Bool) (next : Except SystemError Text → Process)
  /-- Writes all of a text to a stream. -/
  | write (stream : Nat) (text : Text) (next : Except SystemError Unit → Process)
  /-- Goes forward or back by some octets in the file to which a stream leads. The answer is the place
  where it is read or written next. -/
  | move (stream : Nat) (distance : Int) (next : Except SystemError Nat → Process)
  /-- Opens a file. The answer is its stream. -/
  | openFile (path : Text) (access : Access) (next : Except SystemError Nat → Process)
  /-- Opens a pipe that stands on the disk under a number, as soon as its other end is open. -/
  | openPipe (number : Nat) (access : Access) (next : Except SystemError Nat → Process)
  /-- Opens a text to be read. The answer is its stream. -/
  | openText (text : Text) (next : Nat → Process)
  /-- Opens a pipe. The answers are the streams on which it is read and written. -/
  | pipe (next : Nat → Nat → Process)
  /-- Opens one more stream, numbered at least `least`, to where a stream leads, which programs are
  given only if it is `shared`. -/
  | duplicate (stream least : Nat) (shared : Bool) (next : Except SystemError Nat → Process)
  /-- Leads a stream to where another one leads. -/
  | lead (stream target : Nat) (next : Except SystemError Unit → Process)
  /-- Closes a stream. -/
  | close (stream : Nat) (next : Unit → Process)
  /-- Starts a process that has the same streams. The answer is its number. -/
  | fork (child : Process) (next : Nat → Process)
  /-- Becomes the program at a path, with its name and arguments and values; goes on only if that
  cannot be. -/
  | exec (path : Text) (arguments : List Text) (values : Values) (next : SystemError → Process)
  /-- Waits for a process that it started, or for any. -/
  | wait (child : Option Nat) (patience : Patience) (next : Waited → Process)
  /-- Goes on after some microseconds. -/
  | sleep (duration : Nat) (next : Unit → Process)
  /-- Sends a signal to a process. -/
  | send (process : Nat) (signal : Nat) (next : Except SystemError Unit → Process)
  /-- Makes an arrangement for a signal. -/
  | arrange (signal : Nat) (arrangement : Arrangement) (next : Unit → Process)
  /-- Takes the signals that arrived and were kept. -/
  | arrived (next : List Nat → Process)
  /-- Looks at the disk and changes it, from the directory of the process and at the time. -/
  | disk (act : (directory now : Nat) → Disk → Disk × Process)
  /-- Goes into a directory. -/
  | enter (path : Text) (next : Except SystemError Unit → Process)
  /-- Says who may not do what with files that the process makes. -/
  | setMask (mask : Nat) (next : Unit → Process)
  /-- Says how far the process stands back behind others that want to run. -/
  | setNiceness (niceness : Int) (next : Unit → Process)
  /-- Asks what a process can know about itself. -/
  | self (next : Self → Process)

instance : Inhabited Process := ⟨.exit 0⟩

/-- The programs of the system: the process that a command is under a name with arguments and
values. -/
abbrev Programs := (command : String) → (arguments : List Text) → (values : Values) → Process

end AlignmentTally.Machine
