import AlignmentTally.Shell.Arguments
import AlignmentTally.Shell.Control
import AlignmentTally.Shell.Output

/-!
# Jobs and signals

The commands of a shell on processes: waiting for those beside the script, sending signals, and
saying what is to be done when a signal arrives or the shell ends.
-/

namespace AlignmentTally.Shell

open Machine

namespace Jobs

/-! ### Jobs beside the script -/

/-- Takes note of the processes that have ended, in at most some rounds. -/
def takeNote : Nat → Action Unit
  | 0 => return ()
  | rounds + 1 => do
    match ← Routine.wait none .none with
    | .ended process status =>
      Control.noteEnd process status
      takeNote rounds
    | _ => return ()

/-- How a job stands, in words. -/
def describe (job : Job) : Text :=
  match job.status? with
  | none => "Running"
  | some (.exited 0) => "Done"
  | some (.exited code) => "Done(" ++ Text.ofNat code ++ ")"
  | some (.killed signal _) => (Signal.report signal).toList

/-- The line about a job that has a place among all jobs. -/
def line (place : Nat) (job : Job) : Text :=
  let mark := if place = 0 then '+' else if place = 1 then '-' else ' '
  let front := '[' :: Text.ofNat job.number ++ [']', ' ', mark, ' ']
  let text := front ++ describe job
  text ++ List.replicate (max 1 (33 - text.length)) ' ' ++ ['\n']

/-- The job that an argument names. -/
def find? (argument : Text) : Action (Option Job) := do
  let jobs := (← get).jobs
  let listed := jobs.filter (·.listed)
  let extended := (← get).isExtended
  match argument with
  | '%' :: text =>
    let isCurrent : Bool := text.isEmpty || text = ['%'] || text = ['+']
    let isPrevious : Bool := text = ['-']
    let job? : Option Job :=
      if isCurrent then listed.head?
      else if isPrevious then if extended then listed[1]? <|> listed.head? else listed[1]?
      else
        match Text.toNat? text with
        | some n => listed.find? (·.number = n)
        | none =>
          if extended then listed.find? fun job ↦ job.written.take text.length = text else none
    if job?.isNone then
      if extended then Action.warn (argument ++ ": no such job")
      else if isCurrent then Action.fail "No current job"
      else if isPrevious then Action.fail "No previous job"
      else Action.fail ("No such job: " ++ argument)
    return job?
  | argument =>
    if (← get).isExtended ∧ (Text.toNat? argument).isNone then return none
    let process ← Arguments.number argument
    return jobs.find? fun job ↦ (job.members.getLast?.map Prod.fst) = some process

/-- The line about a running job in the extended dialect. -/
def longLine (withProcess : Bool) (mark : Char) (job : Job) : Text :=
  let process : Text :=
    if withProcess then Text.ofNat ((job.members.head?.map Prod.fst).getD 0) ++ [' '] else [' ']
  '[' :: Text.ofNat job.number ++ ']' :: mark :: ' ' ::
    process ++ Text.padRight 24 "Running" ++ job.written ++ " &\n"

/-- Lists the jobs that run, in the extended dialect. -/
def listRunning (arguments : List Text) : Action Nat := do
  let (options, operands) ← Arguments.options "lnprsx" arguments
  let has (letter : Char) : Bool := options.any (·.1 = letter)
  takeNote endless
  let running := (← get).jobs.filter fun job ↦ job.listed && job.status?.isNone
  let mark (job : Job) : Char :=
    if (running.head?.map (·.number)) = some job.number then '+'
    else if (running[1]?.map (·.number)) = some job.number then '-'
    else ' '
  let mut chosen := running.mergeSort fun a b ↦ a.number ≤ b.number
  let mut status := 0
  if ¬ operands.isEmpty then
    chosen := []
    for operand in operands do
      match ← find? operand with
      | some job => chosen := chosen ++ [job].filter (·.status?.isNone)
      | none => status := 1
  if has 's' then chosen := []
  Output.finish status <| chosen.flatMap fun job ↦
    if has 'p' then Text.ofNat ((job.members.head?.map Prod.fst).getD 0) ++ ['\n']
    else longLine (has 'l') (mark job) job

/-- The lines about jobs, of which as many come before the first one as `place` says. Each that is
over is forgotten after its line. -/
def lines (place : Nat) : List Job → Text
  | [] => []
  | job :: rest => line place job ++ lines (if job.status?.isSome then place else place + 1) rest

/-- Lists the jobs. Those that are over are forgotten. -/
def list (arguments : List Text) : Action Nat := do
  if (← get).isExtended then return ← listRunning arguments
  let (options, _) ← Arguments.options "lp" arguments
  takeNote endless
  let jobs := (← get).jobs
  if options.any (·.1 = 'p') then
    Output.finish 0
      (jobs.flatMap fun job ↦ Text.ofNat ((job.members.head?.map Prod.fst).getD 0) ++ ['\n'])
  else
    modify fun state ↦ { state with jobs := state.jobs.filter (·.status?.isNone) }
    Output.finish 0 (lines 0 jobs)

/-- Waits until a job is over, in at most some rounds. The result is whether it is. -/
def waitForJob (isOver : List Job → Bool) : Nat → Action Bool
  | 0 => return false
  | rounds + 1 => do
    if isOver (← get).jobs then return true
    match ← Routine.wait none .untilSignal with
    | .ended process status =>
      Control.noteEnd process status
      waitForJob isOver rounds
    | .signalled => return false
    | _ => return true

/-- The exit status of a command that a signal has interrupted. -/
def interrupted : Action Nat := do
  let signals ← Routine.arrived
  modify fun state ↦ { state with pending := state.pending ++ signals }
  return 128 + (signals.getLast?.getD 0)

/-- Marks a job as one for which the script has waited. -/
def setWaited (number : Nat) : Action Unit :=
  modify fun state ↦
    { state with
      jobs := state.jobs.map fun job ↦
        if job.number = number then { job with waited := true } else job }

/-- Waits for one job after another. The result is the exit status of the last. -/
def waitForEach : List Text → Nat → Action Nat
  | [], status => return status
  | argument :: rest, _ => do
    match ← find? argument with
    | none =>
      if (← get).isExtended ∧ (Text.toNat? argument).isNone then
        if argument.head? ≠ some '%' then
          Action.warn ('\x60' :: argument ++ "': not a pid or valid job spec")
        return ← waitForEach rest (if argument.head? = some '%' then 127 else 1)
      if (← get).isExtended ∧ argument.head? ≠ some '%' then
        let parent : Text := "pid " ++ argument ++ " is not a child of this shell"
        Action.warn parent
      waitForEach rest 127
    | some job =>
      let isOver (jobs : List Job) : Bool :=
        (jobs.find? (·.number = job.number)).all (·.status?.isSome)
      let wasOver := isOver (← get).jobs
      if ← waitForJob isOver endless then
        setWaited job.number
        match ((← get).jobs.find? (·.number = job.number)).bind (·.status?) with
        | some status =>
          if ¬ wasOver ∧ ¬ (← get).isExtended then Control.reportEnd status
          waitForEach rest status.number
        | none => waitForEach rest 127
      else interrupted

/-- Waits for jobs, by default for all. -/
def wait (arguments : List Text) : Action Nat := do
  let (_, operands) ← Arguments.options (if (← get).isExtended then "nfp:" else "") arguments
  if operands.isEmpty then
    if ← waitForJob (fun jobs ↦ jobs.all (·.status?.isSome)) endless then
      modify fun state ↦ { state with jobs := state.jobs.map fun job ↦ { job with waited := true } }
      return 0
    else interrupted
  else waitForEach operands 0

/-- Complains that jobs stay where they are. -/
def move (arguments : List Text) : Action Nat := do
  if (← get).isExtended then
    Action.warn "no job control"
    return 1
  let operands ← Arguments.operands arguments
  let refuse (name : Text) : Action Nat :=
    Action.fail ("job " ++ name ++ " not created under job control")
  match operands with
  | [] => if (← get).jobs.isEmpty then Action.fail "No current job" else refuse "(null)"
  | name :: _ =>
    if name.head? ≠ some '%' then Action.fail ("No such job: " ++ name)
    let _ ← find? name
    refuse name

/-! ### Signals -/

/-- The name of a signal as it is listed. -/
def nameOf (number : Nat) : Text :=
  if number = 0 then "EXIT"
  else if number = 16 then "16"
  else
    match Signal.name? number with
    | some name => name.toList
    | none =>
      let first := Signal.firstRealTime
      if number < first then Text.ofNat number
      else if number = first then "RTMIN"
      else if number ≤ 49 then "RTMIN+" ++ Text.ofNat (number - first)
      else if number < Signal.last then "RTMAX-" ++ Text.ofNat (Signal.last - number)
      else "RTMAX"

/-- The name of a signal; those without a name of their own are counted from their two ends. -/
def fullNameOf (number : Nat) : Text :=
  let first := Signal.firstRealTime
  if number < first then nameOf number
  else if number = first then "RTMIN"
  else if number = Signal.last then "RTMAX"
  else if number ≤ first + 15 then "RTMIN+" ++ Text.ofNat (number - first)
  else "RTMAX-" ++ Text.ofNat (Signal.last - number)

/-- The signal that a text names, by number or by name; the least number that counts is given. -/
def signal? (extended : Bool) (least : Nat) (text : Text) : Option Nat :=
  let event? := if extended ∧ least = 0 then Control.events.lookup (String.ofList text) else none
  match event? <|> Text.toNat? text with
  | some n =>
    if n ≤ Signal.last ∨ event?.isSome then some n else none
  | none =>
    let name := text.map Char.toUpper
    let name := if extended ∧ Text.beginsWith name "SIG" then name.drop 3 else name
    ((List.range (Signal.last + 1)).drop least).find? fun n ↦ nameOf n = name

/-- The signals by number and name, in columns. -/
def signalTable : Text :=
  let numbers := ((List.range (Signal.last + 1)).drop 1).filter fun n ↦ n < 32 || 34 ≤ n
  let cells := numbers.mapIdx fun i n ↦
    let isLast : Bool := i % 5 = 4 || i + 1 = numbers.length
    Text.padLeft ' ' 2 (Text.ofNat n) ++ ") SIG" ++ fullNameOf n ++ (if isLast then "\n" else "\t")
  cells.flatten

/-- How signals are sent, as a reminder. -/
def usage : Text :=
  "Usage: kill [-s sigspec | -signum | -sigspec] [pid | job]... or\nkill -l [exitstatus]"

/-- Sends a signal to processes. The result is the exit status. -/
def sendTo (signal : Nat) : List Text → Nat → Action Nat
  | [], status => return status
  | target :: rest, status => do
    let extended := (← get).isExtended
    let complain (error : SystemError) : Action Unit :=
      if extended then
        Action.warn ('(' :: target ++ ") - ".toList ++ error.words.toList)
      else Action.warn (error.words.toList ++ ['\n'])
    let process? ←
      match target with
      | '%' :: _ =>
        match ← find? target with
        | some job =>
          pure (if extended then job.members.head?.map Prod.fst else none)
        | none => return ← sendTo signal rest 1
      | '-' :: number =>
        let _ ← Arguments.number number
        pure none
      | number => do
        if extended ∧ (Text.toNat? number).isNone then
          Action.warn (target ++ ": arguments must be process or job IDs")
          return ← sendTo signal rest 1
        pure (some (← Arguments.number number))
    match process? with
    | none =>
      complain .noProcess
      sendTo signal rest 1
    | some process =>
      match ← Routine.send process signal with
      | .ok () => sendTo signal rest status
      | .error error =>
        complain error
        sendTo signal rest 1

/-- Lists the names of signals, or the name of one. -/
def listSignals (arguments : List Text) : Action Nat := do
  match arguments with
  | [] =>
    if (← get).isExtended then return ← Output.finish 0 signalTable
    let names := ((List.range (Signal.last + 1)).drop 1).flatMap fun n ↦ nameOf n ++ ['\n']
    Output.finish 0 ("0\n" ++ names)
  | argument :: _ =>
    if (← get).isExtended ∧ (Text.toNat? argument).isNone then
      match signal? true 1 argument with
      | some n => return ← Output.finish 0 (Text.ofNat n ++ ['\n'])
      | none =>
        Action.warn (argument ++ ": invalid signal specification")
        return 1
    let n ← Arguments.number argument
    let n := if 128 < n then n - 128 else n
    if 0 < n ∧ n ≤ Signal.last then Output.finish 0 (nameOf n ++ ['\n'])
    else Action.fail ("invalid signal number or exit status: " ++ argument)

/-- Sends a signal. -/
def kill (arguments : List Text) : Action Nat := do
  let extended := (← get).isExtended
  let remind : Action Nat := do
    if extended then Arguments.remind else Action.fail usage
  let send (signal : Nat) (targets : List Text) : Action Nat :=
    if targets.isEmpty then remind else sendTo signal targets 0
  match arguments with
  | [] => remind
  | ('-' :: text) :: targets =>
    if text = ['-'] then send Signal.terminate targets
    else
      match signal? extended 1 text with
      | some signal => send signal targets
      | none =>
        if extended ∧ text.head? ≠ some 's' ∧ text.head? ≠ some 'l' ∧ text.head? ≠ some 'n' then
          Action.warn (text ++ ": invalid signal specification")
          return 1
        let (options, targets) ← Arguments.options (if extended then "ls:n:" else "ls:") arguments
        let signal? := options.reverse.findSome? fun (letter, text) ↦
          if letter = 'l' then none else some text
        let lists := options.any (·.1 = 'l')
        match signal? with
        | some name =>
          match Jobs.signal? extended 1 name with
          | some signal => if lists then remind else send signal targets
          | none =>
            if extended then
              Action.warn (name ++ ": invalid signal specification")
              return 1
            else Action.fail ("invalid signal number or name: " ++ name)
        | none => if lists then listSignals targets else send Signal.terminate targets
  | targets => send Signal.terminate targets

/-! ### Traps -/

/-- Lists what is done for signals. -/
def listTraps : Action Nat := do
  let state ← get
  let traps := state.traps.mergeSort fun a b ↦ a.1 ≤ b.1
  Output.finish 0 <| traps.flatMap fun (signal, text) ↦
    let isSignal := signal ≠ 0 ∧ signal ≤ Signal.last
    let front : Text := if state.isExtended ∧ isSignal then "SIG" else []
    let event? := Control.events.find? fun (_, number) ↦ number = signal
    let name := (event?.map fun (name, _) ↦ name.toList).getD (nameOf signal)
    "trap -- ".toList ++ Arguments.quote text ++ ' ' :: front ++ name ++ ['\n']

/-- Says what is to be done for signals; `none` leaves them their own effect. -/
def setTraps (action : Option Text) : List Text → Action Nat
  | [] => return 0
  | name :: rest => do
    let state ← get
    match signal? state.isExtended 0 name with
    | none =>
      if state.isExtended then
        Action.warn (name ++ ": invalid signal specification")
      else
        let _ ← Routine.write 2 ("trap: " ++ name ++ ": bad trap\n")
      return 1
    | some signal =>
      let others := state.traps.filter (·.1 ≠ signal)
      let own := (action.toList.map fun text ↦ (signal, text))
      set { state with traps := others ++ own }
      if signal ≠ 0 ∧ signal ≤ Signal.last ∧ ¬ state.ignored.contains signal then
        Routine.arrange signal <|
          match action with
          | none => .default
          | some [] => .ignore
          | some _ => .keep
      setTraps action rest

/-- Lists what is done for signals, or says it. -/
def trap (arguments : List Text) : Action Nat := do
  let extended := (← get).isExtended
  let (options, operands) ← Arguments.options (if extended then "lp" else "") arguments
  if options.any (·.1 = 'l') then return ← Output.finish 0 signalTable
  match operands with
  | [] => listTraps
  | first :: rest =>
    if ¬ options.isEmpty then listTraps
    else
      let isSignal : Bool :=
        rest.isEmpty || (Text.toNat? first).any (· ≤ Signal.last)
      if isSignal then setTraps none operands
      else setTraps (if first = ['-'] then none else some first) rest

/-! ### Limits and times -/

/-- Shows the time that the shell has used. -/
def times (_ : List Text) : Action Nat := do
  let spent : Text := if (← get).isExtended then "0m0.000s 0m0.000s\n" else "0m0.000000s 0m0.000000s\n"
  Output.finish 0 (spent ++ spent)

/-- Shows a limit; none is kept. -/
def ulimit (arguments : List Text) : Action Nat := do
  let (options, operands) ← Arguments.options "HSatfdscmlpnvwr" arguments
  if ¬ operands.isEmpty then return 0
  match (options.filter fun o ↦ o.1 ≠ 'H' && o.1 ≠ 'S').getLast? with
  | some ('c', _) => Output.finish 0 "0\n"
  | _ => Output.finish 0 "unlimited\n"

end Jobs

end AlignmentTally.Shell
