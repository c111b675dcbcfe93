import AlignmentTally.Shell.Parser
import AlignmentTally.Shell.State

/-!
# Control

How a shell runs texts of commands, starts parts of itself as processes, waits for them, answers
signals and ends. How a command is run is a parameter, so that what follows can run commands
wherever the language allows them.
-/

namespace AlignmentTally.Shell

open Machine

/-- Where a command stands. -/
structure Context where
  /-- Whether the shell ends after it. -/
  ends : Bool := false
  /-- Whether its exit status is looked at, so that a failure is none. -/
  tested : Bool := false

/-- How a command is run. The result is its exit status. -/
abbrev Run := Command → Context → Action Nat

namespace Control

/-- Remembers an exit status. -/
def setStatus (status : Nat) : Action Unit := modify fun state ↦ { state with status }

/-! ### Texts of commands -/

/-- The text of a line of a script. -/
def lineOf (source : Source) (line : Nat) : Text :=
  (Text.splitOn '\n' source.script).getD (line - source.firstLine) []

/-- Complains on a line of a text of commands, in the extended dialect. -/
def complainOn (line : Nat) (words : Text) : Action Unit := do
  let state ← get
  let front := state.file.getD state.name ++ ": " ++ state.label ++ "line " ++ Text.ofNat line
  let _ ← Routine.write 2 (front ++ ": " ++ words ++ "\n")
  return ()

/-- Says in the extended dialect what is wrong with a script. -/
def explain (source : Source) (fault : Fault) : Action Unit := do
  let say := complainOn fault.line
  match fault.unclosed, fault.unexpected with
  | some c, _ => say ("unexpected EOF while looking for matching \x60" ++ c :: ['\''])
  | none, none => say fault.message
  | none, some token =>
    if ¬ fault.message.isEmpty ∧ fault.explained then say fault.message
    if token = "end of file".toList then say "syntax error: unexpected end of file"
    else
      let near : Text := if fault.explained then "near \x60" else "near unexpected token \x60"
      say ("syntax error " ++ near ++ token ++ "'")
      say ('\x60' :: lineOf source fault.line ++ ['\''])

/-- Complains about a fault of a script. Where the extended dialect goes on, the result is the exit
status of the script. -/
def refuse (source : Source) (fault : Fault) : Action Nat := do
  if (← get).isExtended then
    explain source fault
    setStatus 2
    return 2
  else
    modify fun state ↦ { state with line := fault.line }
    Action.fail fault.message

/-- Warns of inputs that ended with the script. -/
def warnUnended : List (Nat × Nat × Text) → Action Unit
  | [] => return ()
  | (line, asked, last) :: rest => do
    let state ← get
    let front := state.file.getD state.name ++ ": line " ++ Text.ofNat line
    let _ ← Routine.write 2 <| front ++ ": warning: here-document at line " ++ Text.ofNat asked ++
      " delimited by end-of-file (wanted \x60" ++ last ++ "')\n"
    warnUnended rest

/-- Shows the lines that were read between two states of a source, if the shell is asked for that. -/
def echo (source : Source) (rest : Text) : Action Unit := do
  if source.echoes ∧ (← get).has 'v' then
    let _ ← Routine.write 2 (source.rest.take (source.rest.length - rest.length))
    return

/-- Runs a command of a source. In the extended dialect an error ends only the command, unless a part
of the shell runs it. -/
def runOne (run : Run) (command : Command) (context : Context) : Action Nat := do
  let before ← get
  try run command context
  catch halt =>
    if halt ≠ .exit ∧ before.isExtended ∧ ¬ before.isInner then
      modify fun state ↦ { state with loops := before.loops }
      return (← get).status
    else throw halt

/-- Whether the program that a command runs last may take the place of the shell, which it may not
if it has redirections. -/
def yieldsShell : Command → Bool
  | .simple _ _ _ redirects _ => redirects.isEmpty
  | .sequence _ second | .andThen _ second | .orElse _ second => yieldsShell second
  | _ => true

/-- Runs the commands of a source one after another, in at most some rounds. -/
def runSource (run : Run) (ends : Bool) : Nat → Source → Nat → Action Nat
  | 0, _, status => return status
  | rounds + 1, source, status => do
    let state ← get
    let aliases :=
      if ¬ state.isExtended ∨ state.features.contains "expand_aliases".toList then state.aliases
      else []
    let groups := state.hasFeature "extglob"
    match Parser.commands { source with aliases, groups } with
    | .error fault =>
      echo source []
      refuse source fault
    | .ok (none, _) => return status
    | .ok (some command, left) =>
      echo source left.rest
      if (← get).isExtended then warnUnended left.unended.reverse
      let source := left
      let ran ← runOne run command { ends := ends && Parser.isAtEnd source && yieldsShell command }
      let status := match command with
        | .skip => status
        | _ => ran
      if (← get).skip.isSome then return status
      else runSource run ends rounds source status

/-- The source of a text that begins on a line. In the extended dialect its last line has an end. -/
def sourceOf (dialect : Dialect) (line : Nat) (text : Text) : Source :=
  let lacksEnd := dialect = .extended ∧ ¬ text.isEmpty ∧ text.getLast? ≠ some '\n'
  { rest := if lacksEnd then text ++ ['\n'] else text
    line
    firstLine := line
    dialect }

/-- Runs a text of commands that begins on a line, and that complaints call by a name. -/
def runText (run : Run) (ends : Bool) (label : Text) (line : Nat) (text : Text) : Action Nat := do
  let before ← get
  modify fun state ↦ { state with label }
  let status ← runSource run ends endless (sourceOf before.dialect line text) 0
  modify fun state ↦ { state with label := before.label }
  return status

/-- Runs the commands of a text whose lines are shown if the shell is asked for that. -/
def runLines (run : Run) (text : Text) : Action Nat := do
  let before ← get
  modify fun state ↦ { state with label := [] }
  let status ←
    runSource run false endless { sourceOf before.dialect 1 text with echoes := true } 0
  modify fun state ↦ { state with label := before.label }
  return status

/-- Runs the commands of a file, up to its end or to where it says to go back. -/
def runFile (run : Run) (text : Text) : Action Nat := do
  let status ← runLines run text
  modify fun state ↦
    { state with skip := if state.skip = some .back then none else state.skip }
  return status

/-! ### Signals -/

/-- What commands can be for besides signals, in the extended dialect, under numbers above those of
signals. -/
def events : List (String × Nat) := [("DEBUG", 65), ("ERR", 66), ("RETURN", 67)]

/-- The event that comes before each simple command. -/
def step : Nat := 65

/-- The event of a failure. -/
def failure : Nat := 66

/-- The event of the end of a function or a file of commands. -/
def leaving : Nat := 67

/-- Runs the command for a signal or an event. The commands for an event go on with the lines of the
script. -/
def answer (run : Run) (signal : Nat) : Action Unit := do
  let state ← get
  match state.traps.lookup signal with
  | none | some [] => return
  | some text =>
    let before := state.status
    modify fun state ↦ { state with beforeTrap := some before, inTrap := true }
    let _ ← runText run false [] (if Signal.last < signal then state.line else 1) text
    modify fun after ↦
      { after with
        status := if after.skip = some .back then after.status else before
        beforeTrap := state.beforeTrap
        inTrap := state.inTrap
        line := state.line
        partStatuses := state.partStatuses }

/-- Notes the command that is run next and runs what comes before each command. -/
def announce (run : Run) (line : Nat) (command : Text) : Action Unit := do
  if ¬ (← get).isExtended then return
  modify fun state ↦
    { state with line, shown := if state.inTrap then state.shown else command }
  let state ← get
  if ¬ state.inStep ∧ (state.traps.lookup step).isSome then
    set { state with inStep := true }
    answer run step
    modify fun state ↦ { state with inStep := false }

/-- The commands for signals and events that a part of a shell, or a function, does not share. -/
def unshared (state : State) : List Nat :=
  (if state.has 'T' then [] else [step, leaving]) ++ if state.has 'E' then [] else [failure]

/-- Runs the commands for some signals, as long as none of them asks for commands to be skipped. -/
def answerAll (run : Run) : List Nat → Action Unit
  | [] => return ()
  | signal :: others => do
    if (← get).skip.isSome then
      modify fun state ↦ { state with pending := signal :: others }
    else
      answer run signal
      answerAll run others

/-- Runs the commands for the signals that arrived. -/
def answerSignals (run : Run) : Action Unit := do
  let state ← get
  if state.pending.isEmpty ∧ state.traps.all fun trap ↦ trap.1 = 0 ∨ trap.2.isEmpty then return
  let signals := state.pending ++ (← Routine.arrived)
  if signals.isEmpty then return
  set { state with pending := [] }
  answerAll run (signals.mergeSort (· ≤ ·))

/-! ### The end -/

/-- Runs the command for the end of the shell. -/
def runLast (run : Run) : Action Unit := do
  let state ← get
  match state.traps.lookup 0 with
  | none | some [] => return
  | some text =>
    let before := state.status
    let traps := state.traps.filter (·.1 ≠ 0)
    set { state with traps, skip := none, beforeTrap := some before, inTrap := true }
    let _ ← runText run false "exit trap: " 1 text
    setStatus before

/-- The process that is left of a shell when it ends. -/
def ending (run : Run) (state : State) : Process :=
  (runLast run).toProcess state (fun _ state ↦ .exit state.status) fun _ state ↦
    .exit state.status

/-! ### Processes -/

/-- Starts a part of the shell as a process of its own. The result is its number. -/
def start (run : Run) (body : Action Unit) : Action Nat := do
  let inner : Action Unit := do
    let own ← if (← get).isExtended then some <$> (·.id) <$> Routine.self else pure none
    modify fun state ↦
      { state with
        traps := state.traps.filter fun (signal, text) ↦
          text.isEmpty || (Signal.last < signal && !(unshared state).contains signal)
        jobs := []
        pathStreams := []
        coprocess := none
        isInner := true
        isPart := false
        outer := state.outer + 1
        own }
    body
  Routine.fork inner (fun _ state ↦ ending run state) fun _ state ↦ ending run state

/-- Leads the input to where nothing is read. -/
def withoutInput : Action Unit := do
  Routine.close 0
  let _ ← Routine.openFile "/dev/null" .read
  return ()

/-- Moves a stream to the highest number below 64 that is free. Programs are given it if it is
`shared`. -/
def moveUp (stream : Nat) (shared : Bool) : Action Nat := do
  let taken := (← Routine.self).streams.map Prod.fst
  let free := ((List.range 64).map (63 - ·)).find? (!taken.contains ·)
  match ← Routine.duplicate stream (free.getD 63) shared with
  | .ok high =>
    Routine.close stream
    return high
  | .error _ => return stream

/-- Closes streams. -/
def closeAll : List Nat → Action Unit
  | [] => return ()
  | stream :: rest => do
    Routine.close stream
    closeAll rest

/-- Notes how a process ended that runs beside the script. If it had pipes from it and to it, these
are closed. -/
def noteEnd (process : Nat) (status : ExitStatus) : Action Unit := do
  match (← get).coprocess with
  | none => pure ()
  | some coprocess =>
    if coprocess.process = process then
      closeAll coprocess.streams
      modify fun state ↦
        { (state.erase coprocess.name).erase (coprocess.name ++ "_PID") with coprocess := none }
  modify fun state ↦
    { state with
      jobs := state.jobs.map fun job ↦
        { job with
          members := job.members.map fun (id, old) ↦
            (id, if id = process then some status else old) } }

/-- The state with a process beside the script that is no job. -/
def withProcess (process : Nat) (state : State) : State :=
  { state with
    jobs := state.jobs ++ [{ number := process, members := [(process, none)], listed := false }]
    last := some process }

/-- The state with one more job beside the script. Jobs that are over and were waited for go. -/
def withJob (members : List Nat) (written : Text) (state : State) : State :=
  let isGone (job : Job) : Bool := job.waited && job.status?.isSome
  let jobs := state.jobs.filter (!isGone ·)
  let taken := (jobs.filter (·.listed)).map (·.number)
  let number := ((List.range (jobs.length + 1)).map (· + 1)).find? (!taken.contains ·)
  { state with
    jobs := {
      number := number.getD 1
      members := members.map fun id ↦ (id, none)
      written } :: jobs
    last := members.getLast? }

/-- Reports that a process was ended by a signal, if that is worth a report. -/
def reportEnd (status : ExitStatus) : Action Unit := do
  match status with
  | .killed signal _ =>
    if signal ≠ Signal.interrupt ∧ signal ≠ Signal.pipe then
      let _ ← Routine.write 2 ((Signal.report signal).toList ++ ['\n'])
  | .exited _ => return

/-- Waits for processes that the script depends on, in at most some rounds. The result is how each of
them ended. -/
def waitRounds : Nat → List Nat → List (Nat × ExitStatus) → Action (List (Nat × ExitStatus))
  | 0, _, ended => return ended
  | _ + 1, [], ended => return ended
  | rounds + 1, process :: others, ended => do
    let processes := process :: others
    match ← Routine.wait none .endless with
    | .ended process how =>
      if processes.contains process then
        reportEnd how
        waitRounds rounds (processes.filter (· ≠ process)) ((process, how) :: ended)
      else
        noteEnd process how
        waitRounds rounds processes ended
    | _ => return ended

/-- Waits for processes that the script depends on. The result are their exit statuses. -/
def waitForEach (processes : List Nat) : Action (List Nat) := do
  let ended ← waitRounds endless processes []
  return processes.map fun process ↦ ((ended.lookup process).getD (.exited 0)).number

/-- Waits for processes that the script depends on. The result is the exit status of the last. -/
def waitFor (processes : List Nat) : Action Nat := do
  return (← waitForEach processes).getLast?.getD 0

end Control

end AlignmentTally.Shell
