import AlignmentTally.Machine.Program

/-!
# The machine

Processes share a disk and take their turns by a clock: the one that is behind the others goes on
first, and each request takes its time, so that what runs side by side comes in one order, the same
on every run. Streams lead to files, devices, pipes or the console, where everything is collected
that is written there. A process that asks for what is not there yet waits until it is.
-/

namespace AlignmentTally.Machine

/-- An open file, to which streams of several processes may lead. -/
structure OpenFile where
  /-- Where it leads. -/
  target : Target
  /-- For what it was opened. -/
  access : Access
  /-- The octet at which it is read or written next. -/
  offset : Nat := 0

/-- The octets on their way through a pipe. -/
structure Pipe where
  /-- The pieces that are read first. -/
  front : List Text := []
  /-- The pieces that are read after those, the last one first. -/
  back : List Text := []
  /-- The number of octets. -/
  size : Nat := 0

/-- A process that has not ended. -/
structure Live where
  /-- Its number. -/
  id : Nat
  /-- The number of the process that started it. -/
  parent : Nat
  /-- How far it has come, in microseconds. -/
  time : Nat
  /-- What it asks for. -/
  process : Process
  /-- The open files by stream. -/
  streams : List (Nat × Nat)
  /-- The streams that are closed when it becomes another program. -/
  hidden : List Nat := []
  /-- The directory it is in. -/
  directory : Nat
  /-- Who may not do what with files that it makes. -/
  mask : Nat := 18
  /-- How far it stands back behind others that want to run. -/
  niceness : Int := 0
  /-- Its arrangements for signals. -/
  arrangements : List (Nat × Arrangement) := []
  /-- The signals that arrived and are kept. -/
  kept : List Nat := []
  /-- Whether it stands still. -/
  stopped : Bool := false

/-- A process that has ended and was not waited for. -/
structure Ended where
  /-- Its number. -/
  id : Nat
  /-- The number of the process that started it. -/
  parent : Nat
  /-- How it ended. -/
  status : ExitStatus

/-- The state of the machine. -/
structure State where
  /-- The disk. -/
  disk : Disk
  /-- The time in microseconds. -/
  clock : Nat := firstTime + timeStep
  /-- The open files. -/
  opened : List (Nat × OpenFile) := []
  /-- The pipes. -/
  pipes : List (Nat × Pipe) := []
  /-- The files on the disk that are pipes and were opened, with the numbers of their pipes. -/
  fifos : List (Nat × Nat) := []
  /-- The processes that have not ended. -/
  lives : List Live := []
  /-- The processes that have ended and were not waited for. -/
  ended : List Ended := []
  /-- What was written to the console, the last piece first. -/
  console : List Text := []
  /-- The next number for an open file or a pipe. -/
  next : Nat := 0
  /-- The next number for a process. -/
  nextProcess : Nat := 0
  /-- What the next octets by chance come from. -/
  noise : Nat := 1
  /-- How the first process ended. -/
  result : Option ExitStatus := none

namespace Pipe

/-- The number of octets that a pipe holds. -/
def capacity : Nat := 65536

/-- Puts a piece into a pipe. -/
def push (pipe : Pipe) (piece : Text) (length : Nat) : Pipe :=
  { pipe with back := piece :: pipe.back, size := pipe.size + length }

/-- The part of a text that is read at once: at most some octets, or up to a line end. -/
def cut (limit : Nat) (toLineEnd : Bool) (text : Text) : Text × Text :=
  if toLineEnd then
    let line := text.takeWhile (· ≠ '\n')
    match text.drop line.length with
    | c :: rest => (line ++ [c], rest)
    | [] => (line, [])
  else text.splitAt limit

/-- Takes octets out of pieces, at most some or up to a line end. The results are what was taken and
the pieces that are left. -/
def pullFrom : List Text → Nat → Bool → List Text × List Text
  | [], _, _ => ([], [])
  | piece :: more, limit, toLineEnd =>
    let (read, rest) := cut limit toLineEnd piece
    if ¬ rest.isEmpty then ([read], rest :: more)
    else if (if toLineEnd then read.getLast? = some '\n' else read.length = limit) then
      ([read], more)
    else
      let (others, left) := pullFrom more (limit - read.length) toLineEnd
      (read :: others, left)

/-- Takes octets out of a pipe. -/
def pull (pipe : Pipe) (limit : Nat) (toLineEnd : Bool) : Text × Pipe :=
  let (read, front) := pullFrom pipe.front limit toLineEnd
  let text := read.flatten
  let isEnough := !front.isEmpty || text.length = limit ||
    (toLineEnd && text.getLast? = some '\n')
  if isEnough then (text, { pipe with front, size := pipe.size - text.length })
  else
    let (read, front) := pullFrom pipe.back.reverse (limit - text.length) toLineEnd
    let text := text ++ read.flatten
    (text, ⟨front, [], pipe.size - text.length⟩)

end Pipe

namespace Live

/-- The arrangement for a signal. -/
def arrangement (live : Live) (signal : Nat) : Arrangement :=
  (live.arrangements.lookup signal).getD .default

/-- The least stream from a number on that is not open. -/
def freeStream (live : Live) (least : Nat) : Nat :=
  let taken := live.streams.map Prod.fst
  (List.range (live.streams.length + 1)).foldl
    (fun free _ ↦ if taken.contains free then free + 1 else free) least

/-- Whether a process is about to open a pipe on the disk, to read from it or to write to it. -/
def awaits (live : Live) (number : Nat) (reads : Bool) : Bool :=
  match live.process with
  | .openPipe other access _ => other = number && (access = .read) = reads && !live.stopped
  | _ => false

/-- The process with a stream that leads to an open file. -/
def withStream (live : Live) (stream file : Nat) : Live :=
  { live with
    streams := (stream, file) :: live.streams.filter (·.1 ≠ stream)
    hidden := live.hidden.filter (· ≠ stream) }

/-- The process without a stream. -/
def withoutStream (live : Live) (stream : Nat) : Live :=
  { live with
    streams := live.streams.filter (·.1 ≠ stream)
    hidden := live.hidden.filter (· ≠ stream) }

end Live

/-! ### How long things take -/

/-- The microseconds that a request takes. -/
def requestTime : Nat := 1

/-- The microseconds that starting a process takes the one that starts it. -/
def forkTime : Nat := 50

/-- The microseconds after which a new process begins. -/
def startTime : Nat := 250

/-- The microseconds after which a program begins. -/
def execTime : Nat := 600

namespace State

/-- The time that a file is given that is changed. -/
def stamp (machine : State) : Nat := machine.clock / timeStep * timeStep

/-! ### Open files -/

/-- The open file under a number. -/
def openFile? (machine : State) (live : Live) (stream : Nat) : Option (Nat × OpenFile) := do
  let number ← live.streams.lookup stream
  return (number, ← machine.opened.lookup number)

/-- Where a stream of a process leads. -/
def target? (machine : State) (live : Live) (stream : Nat) : Option Target :=
  (machine.openFile? live stream).map (·.2.target)

/-- Whether any process has a stream to an open file. -/
def isHeld (machine : State) (number : Nat) : Bool :=
  machine.lives.any (·.streams.any (·.2 = number))

/-- Whether a target is still held open. -/
def hasTarget (machine : State) (target : Target) : Bool :=
  machine.opened.any (·.2.target = target)

/-- Whether any stream leads to the end of a pipe that is written. -/
def isWritten (machine : State) (pipe : Nat) : Bool :=
  machine.hasTarget (.pipeInput pipe) || machine.hasTarget (.pipeEnds pipe)

/-- Whether any stream leads to the end of a pipe that is read. -/
def isRead (machine : State) (pipe : Nat) : Bool :=
  machine.hasTarget (.pipeOutput pipe) || machine.hasTarget (.pipeEnds pipe)

/-- The machine with a changed open file. -/
def setFile (machine : State) (number : Nat) (file : OpenFile) : State :=
  { machine with
    opened := machine.opened.map fun (n, old) ↦ (n, if n = number then file else old) }

/-- The machine with one more open file, and its number. -/
def addFile (machine : State) (file : OpenFile) : State × Nat :=
  ({ machine with opened := (machine.next, file) :: machine.opened, next := machine.next + 1 },
    machine.next)

/-- The machine without the open files and pipes that nobody holds any more. -/
def release (machine : State) (numbers : List Nat) : State :=
  let gone := numbers.filter fun number ↦ !machine.isHeld number
  if gone.isEmpty then machine
  else
    let machine := { machine with opened := machine.opened.filter fun f ↦ !gone.contains f.1 }
    let isUsed := fun number : Nat ↦ machine.isRead number || machine.isWritten number
    { machine with
      pipes := machine.pipes.filter fun p ↦ isUsed p.1
      fifos := machine.fifos.filter fun f ↦ isUsed f.2 }

/-- The pipe under a number. -/
def pipe (machine : State) (number : Nat) : Pipe := (machine.pipes.lookup number).getD {}

/-- The machine with a changed pipe. -/
def setPipe (machine : State) (number : Nat) (pipe : Pipe) : State :=
  { machine with
    pipes := machine.pipes.map fun (n, old) ↦ (n, if n = number then pipe else old) }

/-! ### Processes -/

/-- The process with a number. -/
def live? (machine : State) (id : Nat) : Option Live := machine.lives.find? (·.id = id)

/-- The machine with a changed process. -/
def setLive (machine : State) (live : Live) : State :=
  { machine with lives := machine.lives.map fun old ↦ if old.id = live.id then live else old }

/-- The machine after a signal has reached a process that is not ended by it. -/
def note (machine : State) (id signal : Nat) : State :=
  { machine with
    lives := machine.lives.map fun live ↦
      if live.id = id ∧ live.arrangement signal = .keep ∧ ¬ live.kept.contains signal then
        { live with kept := live.kept ++ [signal] }
      else live }

/-- The signal that tells a process that another one ended which it had started. -/
def childSignal : Nat := 17

/-- The number of the first process. -/
def firstProcess : Nat := 4242

/-- The machine after a process has ended. -/
def finish (machine : State) (live : Live) (status : ExitStatus) : State :=
  let hasParent := machine.lives.any (·.id = live.parent)
  let machine : State :=
    { machine with
      lives := machine.lives.filterMap fun other ↦
        if other.id = live.id then none
        else if other.parent = live.id then some { other with parent := 1 }
        else some other
      ended :=
        (if hasParent then [⟨live.id, live.parent, status⟩] else []) ++
          machine.ended.filter (·.parent ≠ live.id)
      result := if live.id = firstProcess then some status else machine.result }
  (machine.note live.parent childSignal).release (live.streams.map Prod.snd)

/-- The machine after a signal has been sent to a process. -/
def signal (machine : State) (live : Live) (number : Nat) : State :=
  let resumed := number = Signal.resume ∨ number = Signal.kill
  let machine := if resumed then machine.setLive { live with stopped := false } else machine
  let arrangement :=
    if number = Signal.kill ∨ number = Signal.stop then .default else live.arrangement number
  match arrangement with
  | .ignore => machine
  | .keep => machine.note live.id number
  | .default =>
    match Signal.effect number with
    | .terminate => machine.finish live (.killed number false)
    | .stop => machine.setLive { live with stopped := true }
    | .nothing | .resume => machine

/-! ### Waiting -/

/-- Whether a process can go on. -/
def isReady (machine : State) (live : Live) : Bool :=
  if live.stopped then false
  else
    match live.process with
    | .read stream _ _ _ =>
      match machine.target? live stream with
      | some (.pipeOutput pipe) | some (.pipeEnds pipe) =>
        (machine.pipe pipe).size ≠ 0 || !machine.isWritten pipe
      | _ => true
    | .write stream _ _ =>
      match machine.target? live stream with
      | some (.pipeInput pipe) | some (.pipeEnds pipe) =>
        (machine.pipe pipe).size < Pipe.capacity || !machine.isRead pipe
      | _ => true
    | .openPipe number access _ =>
      access = .update ||
        (match machine.fifos.lookup number with
        | some pipe => if access = .read then machine.isWritten pipe else machine.isRead pipe
        | none => false) ||
        machine.lives.any fun other ↦ other.id ≠ live.id && other.awaits number (access ≠ .read)
    | .wait child patience _ =>
      let isMeant := fun id : Nat ↦ child.all (· = id)
      patience = .none || machine.ended.any (fun e ↦ e.parent = live.id && isMeant e.id) ||
        !machine.lives.any (fun l ↦ l.parent = live.id && isMeant l.id) ||
        (patience = .untilSignal && !live.kept.isEmpty)
    | _ => true

/-- The process that goes on next: of those that can, the one that is behind the others. -/
def nextLive? (machine : State) : Option Live :=
  machine.lives.foldl
    (fun best live ↦
      match best with
      | none => if machine.isReady live then some live else none
      | some other =>
        if live.time < other.time ∧ machine.isReady live then some live else best)
    none

/-! ### Reading and writing -/

/-- Octets by chance, the last ones first, and what the next ones come from. -/
def noiseFrom : Nat → Nat → Text → Text × Nat
  | 0, state, octets => (octets, state)
  | count + 1, state, octets =>
    let state := (state * 6364136223846793005 + 1442695040888963407) % 18446744073709551616
    noiseFrom count state (Char.ofNat (state / 72057594037927936) :: octets)

/-- What a process reads from an open file, and the machine afterwards. -/
def readFile (machine : State) (number : Nat) (file : OpenFile) (limit : Nat)
    (toLineEnd : Bool) : Except SystemError Text × State :=
  if file.access = .replace ∨ file.access = .append then (.error .badStream, machine)
  else
    match file.target with
    | .console => (.ok [], machine)
    | .device .null | .device .terminal => (.ok [], machine)
    | .device .zero | .device .full => (.ok (List.replicate limit '\x00'), machine)
    | .device .noise =>
      let (octets, noise) := noiseFrom limit machine.noise []
      (.ok octets, { machine with noise })
    | .pipeInput _ => (.error .badStream, machine)
    | .pipeOutput pipe | .pipeEnds pipe =>
      let (text, pulled) := (machine.pipe pipe).pull limit toLineEnd
      (.ok text, machine.setPipe pipe pulled)
    | .text rest =>
      let (text, rest) := Pipe.cut limit toLineEnd rest
      (.ok text, machine.setFile number { file with target := .text rest })
    | .file inode =>
      match (machine.disk.get inode).content with
      | .directory .. => (.error .isADirectory, machine)
      | .file octets =>
        let stop :=
          if toLineEnd then (octets.findIdx? (· = 10) file.offset).elim octets.size (· + 1)
          else file.offset + limit
        let text := Text.ofBytes (octets.extract file.offset stop)
        (.ok text, machine.setFile number { file with offset := file.offset + text.length })
      | _ => (.ok [], machine)

/-- What comes of writing a text to an open file: the failure, or what is left to be written. -/
def writeFile (machine : State) (number : Nat) (file : OpenFile) (text : Text) :
    Except SystemError Text × State :=
  if file.access = .read then (.error .badStream, machine)
  else
    match file.target with
    | .console => (.ok [], { machine with console := text :: machine.console })
    | .device .full => (.error .noSpace, machine)
    | .device _ => (.ok [], machine)
    | .pipeOutput _ | .text _ => (.error .badStream, machine)
    | .pipeInput pipe | .pipeEnds pipe =>
      if machine.isRead pipe then
        let room := Pipe.capacity - (machine.pipe pipe).size
        let (now, rest) := text.splitAt room
        let pushed := (machine.pipe pipe).push now now.length
        (.ok rest, machine.setPipe pipe pushed)
      else (.error .brokenPipe, machine)
    | .file inode =>
      let offset :=
        if file.access = .append then (machine.disk.get inode).octets.size else file.offset
      let clock := machine.clock
      let stamp := machine.stamp
      let ⟨disk, _, opened, pipes, fifos, lives, ended, console, next, nextProcess, noise,
        result⟩ := machine
      let disk := disk.write stamp inode offset text
      let machine : State :=
        ⟨disk, clock, opened, pipes, fifos, lives, ended, console, next, nextProcess, noise,
          result⟩
      (.ok [], machine.setFile number { file with offset := offset + text.length })

/-- The stream that a path names, if it names one of the process itself. -/
def streamOfPath? (machine : State) (live : Live) (path : Text) : Option Nat :=
  match machine.disk.file? live.directory path with
  | some { content := .stream number, .. } => some number
  | _ => none

/-- The end of a pipe that is opened. -/
def endOf (pipe : Nat) (access : Access) : Target :=
  match access with
  | .read => .pipeOutput pipe
  | .replace | .append => .pipeInput pipe
  | .update => .pipeEnds pipe

/-- Opens for a process, once more, that to which an open file leads. A text cannot be opened
again. -/
def reopen (machine : State) (number : Nat) (target : Target) (access : Access) : State × Nat :=
  match target with
  | .text _ => (machine, number)
  | .pipeOutput pipe | .pipeInput pipe | .pipeEnds pipe =>
    machine.addFile { target := endOf pipe access, access }
  | .file inode =>
    let disk :=
      if access = .replace then machine.disk.setOctets machine.stamp inode .empty
      else machine.disk
    { machine with disk }.addFile { target, access }
  | target => machine.addFile { target, access }

/-- What a process finds that opens a file. -/
inductive Found where
  /-- An open file, under a number. -/
  | opened (machine : State) (number : Nat)
  /-- A pipe on the disk. -/
  | pipe (machine : State) (number : Nat)

/-- Opens a file for a process. -/
def openPath (machine : State) (live : Live) (path : Text) (access : Access) :
    Except SystemError Found :=
  match machine.streamOfPath? live path with
  | some stream =>
    match machine.openFile? live stream with
    | some (number, file) =>
      let (machine, number) := machine.reopen number file.target access
      .ok (.opened machine number)
    | none => .error .notFound
  | none => do
    let (disk, inode) ←
      if access = .read then do
        pure (machine.disk, ← machine.disk.find live.directory path)
      else machine.disk.make machine.stamp live.directory path
    match (disk.get inode).content with
    | .fifo => return .pipe { machine with disk } inode
    | .device .terminal => throw .noDevice
    | content =>
      let target :=
        match content with
        | .device device => Target.device device
        | _ => .file inode
      let disk := if access = .replace then disk.setOctets machine.stamp inode .empty else disk
      let (machine, number) := { machine with disk }.addFile { target, access }
      return .opened machine number

/-- The machine with a pipe for a file on the disk, and the number of the pipe. -/
def pipeOf (machine : State) (number : Nat) : State × Nat :=
  match machine.fifos.lookup number with
  | some pipe => (machine, pipe)
  | none =>
    let pipe := machine.next
    ({ machine with
      next := pipe + 1
      pipes := (pipe, {}) :: machine.pipes
      fifos := (number, pipe) :: machine.fifos }, pipe)

/-- The machine in which a process has opened the end of a pipe that it waits for. -/
def openEnd (machine : State) (live : Live) : State :=
  match live.process with
  | .openPipe number access next =>
    let (machine, pipe) := machine.pipeOf number
    let (machine, file) := machine.addFile { target := endOf pipe access, access }
    let stream := live.freeStream 0
    machine.setLive { live.withStream stream file with process := next (.ok stream) }
  | _ => machine

/-! ### Steps -/

/-- The machine after a process has gone on. -/
def step (programs : Programs) (machine : State) (live : Live) : State :=
  let time := (max live.time machine.clock) + requestTime
  let machine := { machine with clock := max live.time machine.clock }
  let live := { live with time }
  let goOn := fun (machine : State) (process : Process) ↦ machine.setLive { live with process }
  match live.process with
  | .exit code => machine.finish live (.exited (code % 256))
  | .pause next => goOn machine (next ())
  | .read stream limit toLineEnd next =>
    match machine.openFile? live stream with
    | none => goOn machine (next (.error .badStream))
    | some (number, file) =>
      let (answer, machine) := machine.readFile number file limit toLineEnd
      goOn machine (next answer)
  | .write stream text next =>
    match machine.openFile? live stream with
    | none => goOn machine (next (.error .badStream))
    | some (number, file) =>
      match machine.writeFile number file text with
      | (.ok [], machine) => goOn machine (next (.ok ()))
      | (.ok rest, machine) => goOn machine (.write stream rest next)
      | (.error .brokenPipe, machine) =>
        if live.arrangement Signal.pipe = .default then
          machine.finish live (.killed Signal.pipe false)
        else goOn machine (next (.error .brokenPipe))
      | (.error error, machine) => goOn machine (next (.error error))
  | .move stream distance next =>
    match machine.openFile? live stream with
    | some (number, file) =>
      match file.target with
      | .file _ =>
        match (file.offset + distance).toNat? with
        | some offset => goOn (machine.setFile number { file with offset }) (next (.ok offset))
        | none => goOn machine (next (.error .invalid))
      | .device _ => goOn machine (next (.ok 0))
      | _ => goOn machine (next (.error .cannotSeek))
    | none => goOn machine (next (.error .badStream))
  | .openFile path access next =>
    let machine := { machine with disk := { machine.disk with mask := live.mask } }
    match machine.openPath live path access with
    | .error error => goOn machine (next (.error error))
    | .ok (.pipe machine number) => goOn machine (.openPipe number access next)
    | .ok (.opened machine number) =>
      let stream := live.freeStream 0
      machine.setLive { live.withStream stream number with process := next (.ok stream) }
  | .openPipe number access _ =>
    -- those who wait for this end open theirs at the same time
    let others := machine.lives.filter fun other ↦
      other.id ≠ live.id && (other.awaits number (access ≠ .read) ||
        (access = .update && other.awaits number false))
    others.foldl openEnd (machine.openEnd live)
  | .openText text next =>
    let (machine, number) := machine.addFile { target := .text text, access := .read }
    let stream := live.freeStream 0
    machine.setLive { live.withStream stream number with process := next stream }
  | .pipe next =>
    let pipe := machine.next
    let machine := { machine with next := pipe + 1, pipes := (pipe, {}) :: machine.pipes }
    let (machine, output) := machine.addFile { target := .pipeOutput pipe, access := .read }
    let (machine, input) := machine.addFile { target := .pipeInput pipe, access := .append }
    let first := live.freeStream 0
    let live := live.withStream first output
    let second := live.freeStream 0
    machine.setLive { live.withStream second input with process := next first second }
  | .duplicate stream least shared next =>
    match live.streams.lookup stream with
    | none => goOn machine (next (.error .badStream))
    | some number =>
      let free := live.freeStream least
      let live := live.withStream free number
      let hidden := if shared then live.hidden else free :: live.hidden
      machine.setLive { live with hidden, process := next (.ok free) }
  | .lead stream target next =>
    match live.streams.lookup target with
    | none => goOn machine (next (.error .badStream))
    | some number =>
      let old := (live.streams.lookup stream).toList
      (machine.setLive { live.withStream stream number with process := next (.ok ()) }).release old
  | .close stream next =>
    let old := (live.streams.lookup stream).toList
    (machine.setLive { live.withoutStream stream with process := next () }).release old
  | .fork child next =>
    let id := machine.nextProcess
    let arrangements := live.arrangements.filter (·.2 = .ignore)
    let machine :=
      machine.setLive { live with time := time + forkTime, process := next id }
    { machine with
      nextProcess := id + 1
      lives := machine.lives ++ [{
        id
        parent := live.id
        time := time + startTime
        process := child
        streams := live.streams
        hidden := live.hidden
        directory := live.directory
        mask := live.mask
        niceness := live.niceness
        arrangements }] }
  | .exec path arguments values next =>
    match Program.find machine.disk live.directory path arguments with
    | .error error => goOn machine (next error)
    | .ok (command, arguments) =>
      let (closed, kept) := live.streams.partition fun s ↦ live.hidden.contains s.1
      (machine.setLive
        { live with
          time := time + execTime
          process := programs command arguments values
          streams := kept
          hidden := []
          kept := []
          arrangements := live.arrangements.filter (·.2 = .ignore) }).release
            (closed.map Prod.snd)
  | .wait child patience next =>
    let isMeant := fun id : Nat ↦ child.all (· = id)
    match machine.ended.reverse.find? fun e ↦ e.parent = live.id && isMeant e.id with
    | some gone =>
      goOn { machine with ended := machine.ended.filter (·.id ≠ gone.id) }
        (next (.ended gone.id gone.status))
    | none =>
      if ¬ machine.lives.any (fun l ↦ l.parent = live.id && isMeant l.id) then
        goOn machine (next .none)
      else if patience = .untilSignal ∧ ¬ live.kept.isEmpty then goOn machine (next .signalled)
      else goOn machine (next .running)
  | .sleep duration next =>
    machine.setLive { live with time := time + duration, process := .pause next }
  | .send id number next =>
    match machine.live? id with
    | some other =>
      let machine := goOn machine (next (.ok ()))
      if number = 0 then machine
      else machine.signal (if id = live.id then { live with process := next (.ok ()) } else other)
        number
    | none =>
      let isThere := id = 1 ∨ machine.ended.any (·.id = id)
      goOn machine (next (if isThere then .ok () else .error .noProcess))
  | .arrange number arrangement next =>
    machine.setLive
      { live with
        process := next ()
        arrangements := (number, arrangement) :: live.arrangements.filter (·.1 ≠ number) }
  | .arrived next => machine.setLive { live with process := next live.kept, kept := [] }
  | .disk act =>
    let stamp := machine.stamp
    let ⟨disk, clock, opened, pipes, fifos, lives, ended, console, next, nextProcess, noise,
      result⟩ := machine
    let (disk, process) := act live.directory stamp { disk with mask := live.mask }
    let machine : State :=
      ⟨disk, clock, opened, pipes, fifos, lives, ended, console, next, nextProcess, noise,
        result⟩
    goOn machine process
  | .enter path next =>
    match machine.disk.find live.directory path with
    | .error error => goOn machine (next (.error error))
    | .ok directory =>
      if (machine.disk.get directory).isDirectory then
        machine.setLive { live with directory, process := next (.ok ()) }
      else goOn machine (next (.error .notADirectory))
  | .setMask mask next => machine.setLive { live with mask, process := next () }
  | .setNiceness niceness next =>
    machine.setLive { live with niceness := max (-20) (min niceness 19), process := next () }
  | .self next =>
    goOn machine (next {
      id := live.id
      parent := live.parent
      directory := live.directory
      now := machine.clock
      mask := live.mask
      niceness := live.niceness
      ignored := (live.arrangements.filter (·.2 = .ignore)).map Prod.fst
      streams := live.streams.filterMap fun (stream, number) ↦
        (machine.opened.lookup number).map fun file ↦ (stream, file.target) })

/-- Whether the run is over: the first process has ended, and nobody can write to the console. -/
def isOver (machine : State) : Bool := machine.result.isSome && !machine.hasTarget .console

/-- The machine after at most some steps, fewer if the run is over or no process can go on. -/
def run (programs : Programs) : Nat → State → State
  | 0, machine => machine
  | steps + 1, machine =>
    if machine.isOver then machine
    else
      match machine.nextLive? with
      | none => machine
      | some live => run programs steps (machine.step programs live)

/-- A machine with one process, whose input is empty and whose output goes to the console. -/
def start (disk : Disk) (directory : Nat) (process : Process) : State where
  disk
  opened := [(0, ⟨.device .null, .read, 0⟩), (1, ⟨.console, .append, 0⟩)]
  next := 2
  nextProcess := firstProcess + 1
  lives := [{
    id := firstProcess, parent := 1, time := firstTime + timeStep, process, directory
    streams := [(0, 0), (1, 1), (2, 1)] }]

/-- What was written to the console. -/
def output (machine : State) : Text := machine.console.reverse.flatten

/-- A run of a process to its end. -/
def runToEnd (programs : Programs) (disk : Disk) (directory : Nat) (process : Process) : State :=
  run programs endless (start disk directory process)

end State

end AlignmentTally.Machine
