import AlignmentTally.Command.Lines
import AlignmentTally.Command.Simple
import AlignmentTally.Machine.Program

/-!
# Commands that start others

Commands that run another one: with other values, under other conditions, for some time only, or
once for some of the words of the input.
-/

namespace AlignmentTally.Command

open Machine

namespace Starting

/-- The exit status of a command that cannot start another one for a reason of its own. -/
def ownFault : Nat := 125

/-- The exit status of a command that cannot start another one. -/
def statusOf (error : SystemError) : Nat := if error = .notFound then 127 else 126

/-- The program that runs files of commands which do not name one. -/
def scriptProgram : Text := "/bin/sh"

/-- The value of a name. -/
def valueOf? (values : Values) (name : String) : Option Text := values.lookup name.toList

/-- Becomes the program at one of some paths. The result is why that cannot be. -/
def becomeAt (arguments : List Text) (values : Values) :
    List Text → SystemError → Work SystemError
  | [], error => return error
  | path :: paths, error => do
    match ← Routine.exec path arguments values with
    | .notAProgram => Routine.exec scriptProgram (scriptProgram :: path :: arguments.drop 1) values
    | .notFound => becomeAt arguments values paths error
    | .notADirectory => becomeAt arguments values paths error
    | .permissionDenied => becomeAt arguments values paths .permissionDenied
    | other => return other

/-- Becomes a program by its name. The result is why that cannot be. -/
def become (arguments : List Text) (values : Values) : Work SystemError := do
  Work.flush
  let name := arguments.headD []
  if name.isEmpty then return .notFound
  else if name.contains '/' then becomeAt arguments values [name] .notFound
  else
    let search := (valueOf? values "PATH").getD Program.defaultSearchPath
    becomeAt arguments values ((Program.searchPath search).map (Program.pathIn · name)) .notFound

/-- Becomes a program or ends with a complaint that begins with some words. -/
def becomeOr (words : Text) (quote : Text → Text) (arguments : List Text) (values : Values) :
    Work Unit := do
  let error ← become arguments values
  Work.fail (words ++ quote (arguments.headD []) ++ ": " ++ error.words) (statusOf error)

/-! ### Other values -/

/-- The words of a text with quotes and escapes, and with values by name. -/
def wordsOf (values : Values) : Nat → Text → Option Text → Option Char → List Text →
    Except Text (List Text)
  | 0, _, _, _, words => .ok words.reverse
  | rounds + 1, text, word, quote, words =>
    let finished := word.toList.map List.reverse ++ words
    let add (c : Char) (rest : Text) : Except Text (List Text) :=
      wordsOf values rounds rest (some (c :: word.getD [])) quote words
    match text, quote with
    | [], some _ => .error "no terminating quote in -S string".toList
    | [], none => .ok finished.reverse
    | '\\' :: rest, some '\'' =>
      match rest with
      | '\\' :: rest => add '\\' rest
      | '\'' :: rest => add '\'' rest
      | rest => add '\\' rest
    | '\\' :: c :: rest, quote =>
      match c with
      | '_' => if quote.isSome then add ' ' rest else wordsOf values rounds rest none none finished
      | 'c' => if quote.isSome then .error "'\\c' must not appear in double-quoted -S string".toList
        else .ok finished.reverse
      | 'f' => add '\x0c' rest
      | 'n' => add '\n' rest
      | 'r' => add '\r' rest
      | 't' => add '\t' rest
      | 'v' => add '\x0b' rest
      | c =>
        if "\"'#$\\".toList.contains c then add c rest
        else .error ("invalid sequence '\\" ++ c :: "' in -S".toList)
    | ['\\'], _ => .error "invalid backslash at end of string in -S".toList
    | '$' :: rest, some '\'' => add '$' rest
    | '$' :: rest, quote =>
      match rest with
      | '{' :: rest =>
        let name := rest.takeWhile (· ≠ '}')
        let value := (values.lookup name).getD []
        let word := if word.isNone ∧ value.isEmpty then none
          else some (value.reverse ++ word.getD [])
        wordsOf values rounds (rest.drop (name.length + 1)) word quote words
      | _ => .error ("only $\x7bVARNAME\x7d expansion is supported, error at: $".toList ++ rest)
    | c :: rest, some mark =>
      if c = mark then wordsOf values rounds rest word none words else add c rest
    | c :: rest, none =>
      if c = '"' ∨ c = '\'' then
        wordsOf values rounds rest (some (word.getD [])) (some c) words
      else if " \t\n\r\x0b\x0c".toList.contains c then wordsOf values rounds rest none none finished
      else if c = '#' ∧ word.isNone then .ok finished.reverse
      else add c rest

/-- Arguments with the words of a text in the place of the option that has the text. -/
def splitArguments (values : Values) : Nat → List Text → Except Text (List Text)
  | 0, arguments => .ok arguments
  | rounds + 1, arguments =>
    let split (text : Text) (rest : List Text) : Except Text (List Text) := do
      let words ← wordsOf values (text.length + 1) text none none []
      splitArguments values rounds (words ++ rest)
    match arguments with
    | ('-' :: 'S' :: text) :: rest =>
      match text, rest with
      | [], text :: rest => split text rest
      | [], [] => .ok arguments
      | text, rest => split text rest
    | ('-' :: 'v' :: 'S' :: text) :: rest => split text rest
    | ('-' :: 'i' :: 'S' :: text) :: rest =>
      (split text rest).map ("-i".toList :: ·)
    | argument :: rest =>
      let word : Text := "--split-string="
      if Text.beginsWith argument word then split (argument.drop word.length) rest
      else .ok arguments
    | [] => .ok []

/-- Values with one of them changed or added. -/
def withValue (values : Values) (name value : Text) : Values :=
  if (values.lookup name).isSome then
    values.map fun (other, old) ↦ if other = name then (other, value) else (other, old)
  else values ++ [(name, value)]

/-- Starts a command with other values, or writes the values. -/
def env (arguments : List Text) : Work Unit := do
  let values := (← get).values
  match splitArguments values 8 arguments with
  | .error words => Work.fail words ownFault
  | .ok arguments =>
    let (chosen, others) ← Choices.take
      { letters := "C:iS:u:v0"
        words := [("ignore-environment", 'i'), ("null", '0'), ("unset=", 'u'), ("chdir=", 'C'),
          ("split-string=", 'S'), ("debug", 'v'), ("default-signal?", 'd'),
          ("ignore-signal?", 'd'), ("block-signal?", 'd'), ("list-signal-handling", 'd')]
        anywhere := false, status := ownFault } arguments
    let startsEmpty := has chosen 'i' || others.head? = some ['-']
    let others := if others.head? = some ['-'] then others.drop 1 else others
    let tell (words : Text) : Work Unit := do
      if has chosen 'v' then Work.say (words ++ ['\n'])
    if startsEmpty then tell "cleaning environ"
    let mut values := if startsEmpty then [] else values
    for (letter, name) in chosen do
      if letter = 'u' then
        tell ("unset:    " ++ name)
        if name.isEmpty ∨ name.contains '=' then
          Work.fail ("cannot unset " ++ Quoted.word name ++ ": Invalid argument") ownFault
        values := values.filter (·.1 ≠ name)
    let settings := others.takeWhile (·.contains '=')
    for setting in settings do
      tell ("setenv:   " ++ setting)
      let name := setting.takeWhile (· ≠ '=')
      values := withValue values name (setting.drop (name.length + 1))
    let command := others.drop settings.length
    if command.isEmpty then
      if has chosen 'C' then Work.misuse "must specify command with --chdir (-C)" ownFault
      let ending := if has chosen '0' then '\x00' else '\n'
      for (name, value) in values do
        Work.put (name ++ '=' :: value ++ [ending])
    else
      if has chosen '0' then Work.misuse "cannot specify --null (-0) with command" ownFault
      match last? chosen 'C' with
      | some path =>
        tell ("chdir:    " ++ Quoted.between path)
        match ← Routine.enter path with
        | .ok () => pure ()
        | .error error =>
          Work.fail ("cannot change directory to " ++ Quoted.between path ++ ": " ++ error.words) ownFault
      | none => pure ()
      tell ("executing: " ++ command.headD [])
      for (argument, n) in command.zipIdx do
        tell ("   arg[" ++ Text.ofNat n ++ "]= " ++ Quoted.word argument)
      let error ← become command values
      let name := command.headD []
      Work.warn (Quoted.word name ++ ": " ++ error.words)
      if error = .notFound ∧ name.any fun c ↦ " \t\n".toList.contains c then
        Work.warn "use -[v]S to pass options in shebang lines"
      Work.leave (statusOf error)

/-! ### Other conditions -/

/-- Options of `nice` in the old form, a number after a dash, as options of its own. -/
def niceArguments : List Text → List Text
  | [] => []
  | ('-' :: rest) :: others =>
    let digits := if rest.head? = some '-' ∨ rest.head? = some '+' then rest.drop 1 else rest
    if digits.head?.any Char.isDigit then "-n".toList :: rest :: niceArguments others
    else ('-' :: rest) :: others
  | arguments => arguments

/-- Starts a command at another priority, or writes the priority. -/
def nice (arguments : List Text) : Work Unit := do
  let (chosen, command) ← Choices.take
    { letters := "n:", words := [("adjustment=", 'n')], anywhere := false, status := ownFault }
    (niceArguments arguments)
  let niceness := (← Routine.self).niceness
  let adjustment ←
    match last? chosen 'n' with
    | some text =>
      match Text.toInt? (text.dropWhile (· = ' ')) with
      | some n => pure n
      | none => Work.fail ("invalid adjustment " ++ Quoted.word text) ownFault
    | none => pure 10
  if command.isEmpty then
    if ¬ chosen.isEmpty then Work.misuse "a command must be given with an adjustment" ownFault
    Work.putLine (Text.ofInt niceness)
  else
    Routine.setNiceness (niceness + adjustment)
    becomeOr [] Quoted.word command (← get).values

/-- Starts a command that goes on when its terminal is gone. -/
def nohup (arguments : List Text) : Work Unit := do
  let (_, command) ← Choices.take { letters := "", anywhere := false, status := ownFault } arguments
  if command.isEmpty then Work.misuse "missing operand" ownFault
  Routine.arrange 1 .ignore
  becomeOr "failed to run command " Quoted.between command (← get).values

/-- Starts a command with other ways of collecting its output. -/
def stdbuf (arguments : List Text) : Work Unit := do
  let (chosen, command) ← Choices.take
    { letters := "i:o:e:"
      words := [("input=", 'i'), ("output=", 'o'), ("error=", 'e')]
      anywhere := false, status := ownFault } arguments
  if command.isEmpty then Work.misuse "missing operand" ownFault
  for (letter, mode) in chosen do
    if letter = 'i' ∧ mode = ['L'] then
      Work.misuse "line buffering stdin is meaningless" ownFault
    if mode ≠ ['L'] ∧ (Amount.size? mode).isNone then
      Work.fail ("invalid mode " ++ Quoted.word mode) ownFault
  if chosen.isEmpty then Work.misuse "you must specify a buffering mode option" ownFault
  becomeOr "failed to run command " Quoted.word command (← get).values

/-! ### For some time -/

/-- The number of the signal that a text names. -/
def signal? (text : Text) : Option Nat :=
  match Text.toNat? text with
  | some n => if n ≤ Signal.last then some n else none
  | none =>
    let name := String.ofList (text.map Char.toUpper)
    Signal.ofName? (if name.startsWith "SIG" then (name.drop 3).toString else name)

/-- Starts a process beside this one that ends after some time. -/
def startClock (duration : Nat) : Work Nat :=
  Routine.fork (Routine.sleep duration : Work Unit) (fun status _ ↦ .exit status)
    fun _ _ ↦ .exit 0

/-- Waits until a process has ended. -/
def waitFor (process : Nat) : Work ExitStatus := do
  match ← Routine.wait (some process) .endless with
  | .ended _ status => return status
  | _ => return .exited 0

/-- Ends by a signal. -/
def dieOf (signal : Nat) : Work Unit := do
  Routine.arrange signal .default
  let _ ← Routine.send (← Routine.self).id signal
  return ()

/-- Waits for a process for some time and ends it after that, by a signal or, if it goes on for
some more time, by force. The result is how it ended and whether it took too long. -/
def waitAtMost (process duration signal : Nat) (more : Option Nat) (report : Nat → Work Unit) :
    Work (ExitStatus × Bool) := do
  let clock ← startClock duration
  match ← Routine.wait none .endless with
  | .ended ended status =>
    if ended = process then
      let _ ← Routine.send clock Signal.kill
      return (status, false)
    report signal
    let _ ← Routine.send process signal
    let _ ← Routine.send process Signal.resume
    if signal = Signal.kill then dieOf signal
    match more with
    | none => return (← waitFor process, true)
    | some more =>
      let clock ← startClock more
      match ← Routine.wait none .endless with
      | .ended ended status =>
        if ended = process then
          let _ ← Routine.send clock Signal.kill
          return (status, true)
        report Signal.kill
        let _ ← Routine.send process Signal.kill
        dieOf Signal.kill
        return (← waitFor process, true)
      | _ => return (.exited 0, true)
  | _ => return (.exited 0, false)

/-- The exit status of a command that took too long. -/
def tooLong : Nat := 124

/-- Starts a command and ends it after some time. -/
def timeout (arguments : List Text) : Work Unit := do
  let (chosen, others) ← Choices.take
    { letters := "k:s:vfp"
      words := [("kill-after=", 'k'), ("signal=", 's'), ("verbose", 'v'), ("foreground", 'f'),
        ("preserve-status", 'p')]
      anywhere := false, status := ownFault } arguments
  let hint : Work Unit := do
    Work.say ("Try '" ++ (← get).name ++ " --help' for more information.\n")
    Work.leave ownFault
  let durationOf (text : Text) : Work Nat := do
    match Simple.duration? text with
    | some duration => return duration
    | none => Work.misuse ("invalid time interval " ++ Quoted.word text) ownFault
  let more ← (last? chosen 'k').mapM durationOf
  let signal ←
    match last? chosen 's' with
    | none => pure Signal.terminate
    | some text =>
      match signal? text with
      | some n => pure n
      | none => Work.misuse (Quoted.word text ++ ": invalid signal") ownFault
  match others with
  | [] => hint
  | [_] => hint
  | time :: command =>
    let duration ← durationOf time
    let values := (← get).values
    let name := (← get).name
    let start : Work Unit := becomeOr "failed to run command " Quoted.word command values
    let process ← Routine.fork start
      (fun status session ↦
        .write 2 session.pieces.reverse.flatten fun _ ↦ .exit status) fun _ _ ↦ .exit 0
    let report (signal : Nat) : Work Unit :=
      if has chosen 'v' then
        Work.say (name ++ ": sending signal " ++ ((Signal.name? signal).getD "") ++
          " to command " ++ Quoted.word (command.headD []) ++ "\n")
      else return ()
    let (status, isLate) ←
      if duration = 0 then do pure (← waitFor process, false)
      else waitAtMost process duration signal more report
    match status with
    | .killed n _ => if ¬ isLate then dieOf n
    | .exited _ => pure ()
    Work.setStatus (if isLate ∧ ¬ has chosen 'p' then tooLong else status.number)

/-! ### Where commands are -/

/-- Writes where commands are. -/
def which (arguments : List Text) : Work Unit := do
  let values := (← get).values
  let flags := arguments.takeWhile (·.head? = some '-')
  match flags.flatten.find? fun c ↦ !"-as".toList.contains c with
  | some c =>
    Work.say ("Illegal option -" ++ c :: "\nUsage: /usr/bin/which [-as] args\n".toList)
    Work.leave 2
  | none => pure ()
  let names := arguments.drop flags.length
  if names.isEmpty then Work.leave 1
  let search := Program.searchPath ((valueOf? values "PATH").getD [])
  for name in names do
    let paths := if name.contains '/' then [name] else search.map (Program.pathIn · name)
    let found ← Routine.look fun directory disk ↦
      paths.filter (Program.isCandidate disk directory)
    if found.isEmpty then Work.setStatus 1
    let shown := if flags.flatten.contains 'a' then found else found.take 1
    if ¬ flags.flatten.contains 's' then shown.forM Work.putLine

end Starting

end AlignmentTally.Command
