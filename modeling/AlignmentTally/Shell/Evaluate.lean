import AlignmentTally.Shell.Declare
import AlignmentTally.Shell.Features
import AlignmentTally.Shell.Invoke
import AlignmentTally.Shell.Lines
import AlignmentTally.Shell.Test

/-!
# Running commands

What each command does. A command that is a program runs in a process of its own, unless the shell
would end after it anyway. A failure ends a script that asks for that, except where the exit status
is looked at.
-/

namespace AlignmentTally.Shell

open Machine

namespace Evaluate

/-- Does something last, whether what comes before it fails or not. -/
def finally_ {α : Type} (body : Action α) (last : Action Unit) : Action α := do
  try
    let result ← body
    last
    return result
  catch halt =>
    last
    throw halt

/-! ### Assignments -/

/-- The text that a parameter is given for a text: the value of it, if it is to be an expression. -/
def textFor (entry : Variable) (text : Text) : Action Text := do
  if entry.isInteger then return Text.ofInt (← Expand.calculate text) else return text

/-- Gives items of a parameter their texts, from a number on. -/
def itemsOf (run : Run) (entry : Variable) : List (Option Word × Word) → Nat → Value → Action Value
  | [], _, value => return value
  | (some index, word) :: rest, next, value => do
    let key ← Expand.keyOf value (← Expand.plainText run index)
    let text ← textFor entry (← Expand.valueText run word)
    let next := if value.isTable then next else Text.natOfDigits 10 key + 1
    itemsOf run entry rest next (value.setItem key (entry.recased text))
  | (none, word) :: rest, next, value => do
    let mut value := value
    let mut next := next
    for text in ← Expand.fields run word do
      value := value.setItem (Text.ofNat next) (entry.recased (← textFor entry text))
      next := next + 1
    itemsOf run entry rest next value

/-- A value as a trace shows it. -/
def shownValue (text : Text) : Action Text := do
  return if (← get).isExtended then Trace.quotedValue text else text

/-- Makes an assignment. The result is how a trace shows it. -/
def assign (run : Run) (exported : Bool) (assignment : Assignment) : Action Text := do
  let old (name : Text) : Action Variable := return ((← get).lookup? name).getD {}
  match assignment with
  | .text name atEnd value =>
    let text ← Expand.valueText run value
    let entry ← old name
    let before := if atEnd then (entry.value.text?).getD [] else []
    let text ←
      if ¬ entry.isInteger then pure (before ++ text)
      else textFor entry (if atEnd then before ++ '+' :: text else text)
    Action.assign name text exported
    return name ++ '=' :: (← shownValue text)
  | .item name index atEnd value =>
    let entry ← old name
    let key ← Expand.keyOf entry.value (← Expand.plainText run index)
    let text ← Expand.valueText run value
    if entry.readOnly then Action.refuseChange name
    let before := if atEnd then (entry.value.item? key).getD [] else []
    let text ←
      if ¬ entry.isInteger then pure (before ++ text)
      else textFor entry (if atEnd then before ++ '+' :: text else text)
    modify (·.putItem name key text)
    return name ++ '[' :: key ++ ']' :: '=' :: (← shownValue text)
  | .items name atEnd values written =>
    let entry ← old name
    if entry.readOnly then Action.refuseChange name
    let before : Value :=
      if entry.value.isTable then if atEnd then entry.value else .table []
      else .items (if atEnd then entry.value.toItems else [])
    let value ← itemsOf run entry values before.size before
    modify (·.setVariable name { entry with value })
    return name ++ (if atEnd then "+=" else "=").toList ++ written

/-- The name that an assignment is about. -/
def nameOf : Assignment → Text
  | .text name .. | .item name .. | .items name .. => name

/-- Makes assignments one after another. -/
def assignAll (run : Run) (exported keeps : Bool) : List Assignment → Action (List Text)
  | [] => return []
  | assignment :: rest => do
    let name := nameOf assignment
    if keeps ∧ (← get).isExtended then
      -- what cannot be assigned for a command alone is left out
      let isItem : Bool :=
        match assignment with
        | .item .. => true
        | _ => false
      if isItem then
        Action.warn ('\x60' :: name ++ "[]': not a valid identifier")
        return ← assignAll run exported keeps rest
      if ((← get).lookup? name).any (·.readOnly) then
        Action.warnAs none (name ++ ": readonly variable")
        return ← assignAll run exported keeps rest
    if keeps then Parameters.keepLocal name
    let shown ← assign run exported assignment
    return shown :: (← assignAll run exported keeps rest)

/-! ### Words -/

/-- Whether the arguments of the command that some fields begin may be assignments. -/
def isAssigning : List Text → Bool
  | [] => false
  | name :: rest =>
    if name = "command".toList then
      match rest.dropWhile fun field ↦ field.head? = some '-' with
      | [] => false
      | name :: _ => Lookup.assigningNames.contains (String.ofList name)
    else Lookup.assigningNames.contains (String.ofList name)

/-- The fields of the words of a command. -/
def fieldsOf (run : Run) : List Word → List Text → Action (List Text)
  | [], fields => return fields
  | word :: rest, fields => do
    let extended := (← get).isExtended
    let assigned? := if isAssigning fields then Parser.assignment? extended word else none
    match word, assigned? with
    | [.compound assignment], _ => fieldsOf run rest (fields ++ [nameOf assignment])
    | _, some (.text name atEnd value) =>
      let sign : Text := if atEnd then "+=" else "="
      let text ← Expand.valueText run value
      fieldsOf run rest (fields ++ [name ++ sign ++ text])
    | _, _ => fieldsOf run rest (fields ++ (← Expand.fields run word))

/-- The fields of words that are not those of a command. -/
def allFieldsOf (run : Run) : List Word → List (List Text) → Action (List Text)
  | [], fields => return fields.reverse.flatten
  | word :: rest, fields => do allFieldsOf run rest ((← Expand.fields run word) :: fields)

/-! ### Commands by name -/

/-- Fields without the `command` in front of them, and what that asks for. -/
structure Stripped where
  /-- The name of the command and its arguments. -/
  fields : List Text
  /-- Whether functions count. -/
  functions : Bool := true
  /-- Whether commands are looked up in the directories of the system. -/
  inSystem : Bool := false

/-- Whether a field is a group of options that only say where to look. -/
def isPlaceOption (field : Text) : Bool :=
  match field with
  | '-' :: c :: letters => (c :: letters).all (· = 'p')
  | _ => false

/-- Takes the `command` off that stands in front of fields, in at most some rounds. -/
def strip : Nat → Stripped → Stripped
  | 0, stripped => stripped
  | rounds + 1, stripped =>
    match stripped.fields with
    | name :: rest =>
      if name ≠ "command".toList then stripped
      else
        let options := rest.takeWhile isPlaceOption
        let inSystem := stripped.inSystem || !options.isEmpty
        match rest.drop options.length with
        | ['-', '-'] :: fields =>
          if fields.isEmpty then stripped else strip rounds ⟨fields, false, inSystem⟩
        | ('-' :: _ :: _) :: _ => stripped
        | [] => stripped
        | fields => strip rounds ⟨fields, false, inSystem⟩
    | [] => stripped

/-- The `command` of the shell itself, which tells what a name stands for. -/
def tell (arguments : List Text) : Action Nat := do
  let (options, names) ← Arguments.options "pvV" arguments
  let search :=
    if options.any (·.1 = 'p') then some (Program.searchPath Program.defaultSearchPath) else none
  match (options.filter (·.1 ≠ 'p')).getLast? with
  | some ('v', _) => Lookup.tell false search names
  | some ('V', _) => Lookup.tell true search names
  | _ => return 0

/-- Computes expressions. The exit status tells whether the last one is zero. -/
def calculateAll : List Text → Int → Action Nat
  | [], value => return if value = 0 then 1 else 0
  | expression :: rest, _ => do calculateAll rest (← Expand.calculate expression)

/-- Runs a command of the shell itself. -/
def runOwn (run : Run) (context : Context) (name : Text) (arguments : List Text) :
    Action Nat := do
  let extended := (← get).isExtended
  match String.ofList name with
  | ":" | "true" => return 0
  | "caller" => Invoke.caller arguments
  | "shopt" => Features.shopt arguments
  | "builtin" =>
    match ← Arguments.operands arguments with
    | [] => return 0
    | name :: rest =>
      if Lookup.isOwn true name then
        let words := ("command".toList :: name :: rest).map fun text ↦ [Part.literal true text]
        run (.simple (← get).line [] words [] []) context
      else Action.fail (name ++ ": not a shell builtin")
  | "false" => return 1
  | "." | "source" => Invoke.source run arguments
  | "[" | "test" => Condition.test name arguments
  | "alias" => Parameters.alias_ arguments
  | "bg" | "fg" => Jobs.move arguments
  | "break" => Invoke.leave true arguments
  | "continue" => Invoke.leave false arguments
  | "cd" | "chdir" => Directory.change arguments
  | "command" => tell arguments
  | "declare" | "typeset" => Declare.declare arguments
  | "dirs" => Stack.list arguments {} none false
  | "echo" => Output.echo arguments
  | "eval" => Invoke.eval run arguments
  | "exec" =>
    let (options, arguments) ←
      if extended then Arguments.options "cla:" arguments else pure ([], arguments)
    match arguments with
    | [] => return 0
    | name :: rest =>
      let state ← get
      let paths :=
        if name.contains '/' then [name] else state.searchPath.map (Program.pathIn · name)
      let how : Invoke.Replacement :=
        { name := options.lookup 'a'
          begins := options.any (·.1 = 'l')
          alone := options.any (·.1 = 'c') }
      Invoke.replaceBy how (extended && !state.isInner) (name :: rest) paths
      return 0
  | "exit" => Invoke.exit arguments
  | "export" => if extended then Declare.export_ arguments else Parameters.export_ false arguments
  | "getopts" => Parameters.getopts arguments
  | "hash" => Lookup.hash arguments
  | "jobs" => Jobs.list arguments
  | "kill" => Jobs.kill arguments
  | "let" =>
    if arguments.isEmpty then Action.fail "expression expected" else calculateAll arguments 0
  | "local" => if extended then Declare.local_ arguments else Parameters.local_ arguments
  | "printf" =>
    if ¬ extended then Output.printf (← Arguments.operands arguments)
    else
      let (options, operands) ← Arguments.options "v:" arguments
      match options.lookup 'v', operands with
      | some name, format :: values =>
        if (Expand.reference? name).isNone then
          Action.warn ('\x60' :: name ++ "': not a valid identifier")
          return 2
        Output.writeFormatted (some (Expand.assignTo name)) format values
      | none, format :: values => Output.writeFormatted none format values
      | _, [] => Arguments.remind
  | "popd" => Stack.pop arguments false none
  | "pushd" => Stack.pushCommand arguments
  | "pwd" => Directory.show_ arguments
  | "read" => Lines.read arguments
  | "mapfile" | "readarray" => Lines.readAll arguments
  | "readonly" =>
    if extended then Declare.readonly_ arguments else Parameters.export_ true arguments
  | "return" => Invoke.back arguments
  | "set" => Parameters.setCommand arguments
  | "shift" => Parameters.shift arguments
  | "times" => Jobs.times arguments
  | "trap" => Jobs.trap arguments
  | "type" => Lookup.type arguments
  | "ulimit" => Jobs.ulimit arguments
  | "umask" => Parameters.umask arguments
  | "unalias" => Parameters.unalias arguments
  | "unset" => if extended then Declare.unset arguments else Parameters.unset arguments
  | "wait" => Jobs.wait arguments
  | _ => return 127

/-- Runs a command of the shell itself under its name. Unless it is a special one, its errors end
only itself. -/
def runNamed (run : Run) (context : Context) (special : Bool) (name : Text)
    (arguments : List Text) : Action Nat := do
  let before := (← get).command
  modify fun state ↦ { state with command := some name }
  let body :=
    finally_ (runOwn run context name arguments) <|
      modify fun state ↦ { state with command := before }
  try body
  catch halt =>
    if halt = .error ∧ ¬ special then return (← get).status
    throw halt

/-- Runs a function with arguments. -/
def runFunction (run : Run) (context : Context) (name : Text) (definition : Definition)
    (arguments : List Text) : Action Nat := do
  let before ← get
  let unshared := if before.isExtended then Control.unshared before else []
  set
    { before with
      arguments
      file := definition.file
      frames := ⟨name, before.line, definition.file⟩ :: before.frames
      traps := before.traps.filter fun (signal, _) ↦ !unshared.contains signal
      optionIndex := 1
      optionPlace := none
      loops := 0
      depth := before.depth + 1 }
  let body : Action Nat := do
    if before.isExtended then Control.announce run definition.line (← get).shown
    let status ← run definition.body { tested := context.tested }
    if before.isExtended then
      let state ← get
      let isTold : Bool := state.skip = some .back
      set { state with
        status := if isTold then state.beforeBack else status
        skip := if isTold then none else state.skip }
      Control.answer run Control.leaving
    return status
  finally_ body <| modify fun state ↦
    { state with
      arguments := before.arguments
      file := before.file
      line := before.line
      frames := before.frames
      traps := state.traps ++ before.traps.filter fun (signal, _) ↦
        unshared.contains signal && !state.traps.any (·.1 = signal)
      optionIndex := before.optionIndex
      optionPlace := before.optionPlace
      loops := before.loops
      depth := before.depth
      skip := if state.skip = some .back then none else state.skip }

/-- Shows the assignments and the fields of a command before it is run, on the stream for messages
that the shell has kept. In the extended dialect each assignment has a line of its own. -/
def trace (run : Run) (saved : Saved) (assignments fields : List Text) : Action Unit := do
  let state ← get
  if ¬ state.has 'x' then return
  let stream :=
    match saved.lookup 2 with
    | some (some kept) => kept
    | _ => 2
  if state.isExtended then
    for text in assignments do
      Trace.show_ run stream text
    if ¬ fields.isEmpty then
      Trace.show_ run stream (Text.join [' '] (fields.map Trace.quoted))
  else Trace.show_ run stream (Text.join [' '] (assignments ++ fields))

/-- Runs a command that has a name, or none, after its redirections have been made. -/
def runStripped (run : Run) (context : Context) (special : Bool) (stripped : Stripped) :
    Action Nat := do
  match stripped.fields with
  | [] => return (← get).substituted
  | name :: arguments =>
    let state ← get
    let search :=
      if stripped.inSystem then Program.searchPath Program.defaultSearchPath else state.searchPath
    match ← Lookup.find state stripped.functions search name with
    | .function definition => runFunction run context name definition arguments
    | .own => runNamed run context special name arguments
    | .program paths =>
      if ¬ name.contains '/' then Lookup.remember name (paths.headD [])
      Invoke.runProgram run context.ends stripped.fields paths
    | .nothing error =>
      Action.warn (Invoke.refusal state.isExtended name error)
      return 127

/-- How a simple command is run. -/
structure Manner where
  /-- Whether it is a special one of the shell itself. -/
  special : Bool
  /-- Whether the assignments in front of it end with it. -/
  keeps : Bool
  /-- Whether its redirections last. -/
  execs : Bool

/-- Runs a simple command whose fields are known. -/
def runFields (run : Run) (context : Context) (manner : Manner)
    (assignments late : List Assignment) (fields : List Text) (stripped : Stripped) (redirects : List Redirect) : Action Nat := do
  let leads ← Redirection.expandAll run redirects
  let (ok, saved) ← Redirection.apply leads []
  let body : Action Nat := do
    if ¬ ok then
      let status := if (← get).isExtended then 1 else 2
      Control.setStatus status
      if manner.special then throw .error
      Redirection.restore saved
      return status
    else
      let exported := manner.keeps || (manner.execs && 1 < stripped.fields.length)
      let shown ← assignAll run exported manner.keeps assignments
      trace run saved shown fields
      let status ← runStripped run context manner.special stripped
      let _ ← assignAll run false false late
      if manner.execs then Redirection.forget saved else Redirection.restore saved
      return status
  try body
  catch halt =>
    Redirection.restore saved
    throw halt

/-- Runs a simple command. -/
def runSimple (run : Run) (context : Context) (assignments : List Assignment)
    (words : List Word) (redirects : List Redirect) : Action Nat := do
  modify fun state ↦ { state with substituted := 0 }
  let fields ← fieldsOf run words []
  let stripped := strip (fields.length + 1) { fields }
  let state ← get
  let name := fields.headD []
  let isFunction := (state.functions.lookup name).isSome
  let special := !state.isExtended && !isFunction && Lookup.isSpecial name
  let keeps := !fields.isEmpty && !special
  let execs := stripped.fields.head? = some "exec".toList
  let late := words.filterMap fun word ↦
    match word with
    | [.compound assignment] => some assignment
    | _ => none
  let manner : Manner := ⟨special, keeps, execs⟩
  let body := runFields run context manner assignments late fields stripped redirects
  let status ←
    if keeps ∧ (¬ assignments.isEmpty ∨ isFunction) then
      modify fun state ↦ { state with locals := [] :: state.locals }
      finally_ body <| modify fun state ↦
        match state.locals with
        | frame :: frames => { Parameters.restore frame state with locals := frames }
        | [] => state
    else body
  modify fun state ↦ { state with lastField := fields.getLast?.getD [] }
  return status

/-! ### Compound commands -/

/-- Whether a repetition goes on after a round, in view of what is skipped. -/
def goesOn : Action Bool := do
  match (← get).skip with
  | none => return true
  | some (.leave n) =>
    modify fun state ↦ { state with skip := if n ≤ 1 then none else some (.leave (n - 1)) }
    return false
  | some (.next n) =>
    modify fun state ↦ { state with skip := if n ≤ 1 then none else some (.next (n - 1)) }
    return n ≤ 1
  | some .back => return false

/-- Runs a command again and again while, or until, a condition holds. -/
def runLoop (run : Run) (onFailure : Bool) (condition body : Command) (tested : Bool) :
    Nat → Nat → Action Nat
  | 0, status => return status
  | rounds + 1, status => do
    let held ← run condition { tested := true }
    let wasSkipping := (← get).skip.isSome
    if ¬ (← goesOn) then
      return if (← get).skip = some .back then held else status
    else if wasSkipping then runLoop run onFailure condition body tested rounds status
    else if (held = 0) = onFailure then return status
    else
      let status ← run body { tested }
      if ← goesOn then runLoop run onFailure condition body tested rounds status
      else return status

/-- Runs a command for each of some texts. -/
def runEach (run : Run) (line : Nat) (name written : Text) (body : Command) (tested : Bool) :
    List Text → Nat → Action Nat
  | [], status => return status
  | text :: rest, _ => do
    if (← get).isExtended then
      Control.announce run line ("for " ++ name ++ " in " ++ written)
      Trace.show_ run 2 ("for " ++ name ++ " in " ++ written)
      if ((← get).lookup? name).any (·.readOnly) then
        Action.warn (name ++ ": readonly variable")
        return 1
    match (← get).own? name with
    | some entry =>
      -- a name that refers to another one refers to each in turn
      if entry.isReference then modify (·.setOwn name { entry with value := .text text })
      else Action.assign name text false
    | none => Action.assign name text false
    let status ← run body { tested }
    if ← goesOn then runEach run line name written body tested rest status else return status

/-- Runs something as one more repetition around. -/
def asLoop (body : Action Nat) : Action Nat := do
  modify fun state ↦ { state with loops := state.loops + 1 }
  let status ← body
  modify fun state ↦ { state with loops := state.loops - 1 }
  return status

/-- Whether a text fits one of some patterns. -/
def fitsAny (run : Run) (text : Text) : List Word → Action Bool
  | [] => return false
  | pattern :: rest => do
    if Place.fits (← Expand.pattern run pattern) text then return true else fitsAny run text rest

/-- Runs the first of some commands with a pattern that a text fits, and those that go on from it.
`status` is the exit status of the last one, if there was one. -/
def runChoice (run : Run) (context : Context) (text : Text) :
    Bool → Option Nat → List (List Word × Text × Command × Continuation) → Action Nat
  | _, status, [] => return status.getD 0
  | isChosen, status, (patterns, _, body, next) :: rest => do
    if isChosen || (← fitsAny run text patterns) then
      let status ←
        match body, next with
        | .skip, _ => pure 0
        | body, .stop => run body context
        | body, _ => run body { tested := context.tested }
      match next with
      | .stop => return status
      | _ =>
        if (← get).skip.isSome then return status
        runChoice run context text (next = .runNext) (some status) rest
    else runChoice run context text false status rest

/-- The width of the screen on which words to choose from are shown. -/
def screenWidth : Nat := 80

/-- Words to choose from as they are shown: numbered, in columns if there are many. -/
def shownMenu (words : List Text) : Text :=
  let digits := (Text.ofNat words.length).length
  let entry (i : Nat) (word : Text) : Text :=
    Text.padLeft ' ' digits (Text.ofNat (i + 1)) ++ ")".toList ++ ' ' :: word
  let width := (words.map fun word ↦ word.length + digits + 4).foldl max 0
  let columns := max 1 (screenWidth / max 1 width)
  let rows := (words.length + columns - 1) / columns
  let rows := if rows = 1 then words.length else rows
  let entries := words.mapIdx entry
  let lines := (List.range rows).map fun row ↦
    let line := (List.range columns).filterMap fun column ↦ entries[column * rows + row]?
    match line.reverse with
    | last :: before => (before.reverse.map (Text.padRight width)).flatten ++ last ++ ['\n']
    | [] => []
  lines.flatten

/-- Lets words be chosen until none is left to be read, and runs a command for each choice. -/
def runMenu (run : Run) (name : Text) (words : List Text) (body : Command) (tested : Bool) :
    Nat → Bool → Nat → Action Nat
  | 0, _, status => return status
  | rounds + 1, shows, status => do
    let mark := ((← get).value? "PS3").getD "#? "
    if shows then
      let _ ← Routine.write 2 (shownMenu words)
    let _ ← Routine.write 2 mark
    if (← Lines.read ["REPLY"]) ≠ 0 then
      let _ ← Routine.write 2 "\n"
      return 1
    let reply := (← get).value "REPLY"
    if reply.isEmpty then runMenu run name words body tested rounds true status
    else
      let chosen := (Text.toNat? reply).bind fun n ↦ if n = 0 then none else words[n - 1]?
      Action.assign name (chosen.getD []) false
      let status ← run body { tested }
      if ← goesOn then runMenu run name words body tested rounds false status else return status

/-- Looks up the name of a command before it is run beside others, so that the shell knows it later
on. -/
def lookAhead (command : Command) : Action Unit := do
  match command with
  | .simple _ _ (word :: _) _ _ =>
    match (plain? word).filter isName with
    | none => return
    | some name =>
      let state ← get
      match ← Lookup.find state true state.searchPath name with
      | .program (path :: _) => Lookup.remember name path
      | _ => return
  | _ => return

/-- Starts the parts of a pipeline. The result are their processes, the last one first. -/
def startParts (run : Run) (tested inBackground : Bool) :
    List Command → Option Nat → List Nat → Action (List Nat)
  | [], _, processes => return processes
  | part :: rest, input, processes => do
    if ¬ inBackground ∧ ¬ (← get).isExtended then lookAhead part
    let pipe? ← if rest.isEmpty then pure none else some <$> Routine.pipe
    let isPart := pipe?.isSome || input.isSome
    match part with
    | .simple line _ _ _ written => Control.announce run line written
    | _ => pure ()
    let process ← Control.start run do
      modify fun state ↦ { state with isPart }
      if inBackground then
        Routine.arrange Signal.interrupt .ignore
        Routine.arrange Signal.quit .ignore
      match input with
      | some input =>
        let _ ← Routine.lead 0 input
        Routine.close input
      | none => if inBackground then Control.withoutInput
      match pipe? with
      | some (output, next) =>
        Routine.close output
        if next ≠ 1 then
          let _ ← Routine.lead 1 next
          Routine.close next
      | none => pure ()
      Control.setStatus (← run part { ends := true, tested := tested && !inBackground })
    match input with
    | some input => Routine.close input
    | none => pure ()
    match pipe? with
    | some (_, next) => Routine.close next
    | none => pure ()
    startParts run tested inBackground rest (pipe?.map Prod.fst) (process :: processes)

/-- Runs the parts of a pipeline side by side. The exit status is that of the last part, or of the
last one that failed, if the shell is asked for that. -/
def runPipeline (run : Run) (tested : Bool) (parts : List Command) : Action Nat := do
  let processes ← startParts run tested false parts none []
  let statuses ← Control.waitForEach processes.reverse
  modify fun state ↦ { state with partStatuses := statuses }
  let last := statuses.getLast?.getD 0
  if (← get).has '|' then return (statuses.reverse.find? (· ≠ 0)).getD last else return last

/-- Runs a command beside the script. -/
def runBackground (run : Run) (written : Text) (body : Command) : Action Nat := do
  let parts :=
    match body with
    | .pipeline parts => parts
    | body => [body]
  let processes ← startParts run false true parts none []
  modify (Control.withJob processes.reverse written)
  return 0

/-- Runs a command as a part of the shell whose effects end with it. -/
def runSubshell (run : Run) (context : Context) (body : Command) (redirects : List Redirect) :
    Action Nat := do
  let leads ← Redirection.expandAll run redirects
  let inside : Action Unit := do
    let (ok, saved) ← Redirection.apply leads []
    Redirection.forget saved
    if ok then Control.setStatus (← run body { context with ends := true })
    else Action.giveUp
  if context.ends ∧ ¬ (← get).isExtended ∧ ¬ (← Invoke.hasTraps) then
    modify fun state ↦ { state with isInner := true, jobs := [] }
    inside
    throw .exit
  else
    let process ← Control.start run inside
    Control.waitFor [process]

/-- Runs a command with redirections. The result is its exit status, or `none` if they fail. -/
def runRedirected (run : Run) (context : Context) (body : Command) (redirects : List Redirect) :
    Action (Option Nat) := do
  let leads ← Redirection.expandAll run redirects
  let (ok, saved) ← Redirection.apply leads []
  if ok then
    some <$> finally_ (run body { tested := context.tested }) (Redirection.restore saved)
  else
    Redirection.restore saved
    return none

/-- Runs a command beside the script, with a pipe from it and a pipe to it, whose streams a parameter
is given. -/
def runCoprocess (run : Run) (name : Text) (body : Command) : Action Nat := do
  if ¬ isName name then
    Action.warn ('\x60' :: name ++ "': not a valid identifier")
    return 1
  let (output, next) ← Routine.pipe
  let output ← Control.moveUp output false
  let next ← Control.moveUp next false
  let (input, feed) ← Routine.pipe
  let input ← Control.moveUp input false
  let feed ← Control.moveUp feed false
  let process ← Control.start run do
    Control.closeAll [output, feed]
    let _ ← Routine.lead 0 input
    let _ ← Routine.lead 1 next
    Control.closeAll [input, next]
    Control.setStatus (← run body { ends := true })
  Control.closeAll [input, next]
  let streams := [output, feed]
  modify fun state ↦
    let state := Control.withJob [process] (Writing.text .together 0 (.coprocess 0 name body)) state
    let state := state.setVariable name { value := State.itemsOf (streams.map Text.ofNat) }
    { state.put (name ++ "_PID") (Text.ofNat process) false with
      coprocess := some ⟨process, name, streams⟩ }
  return 0

/-- Computes an expression with parameters in it, which is shown before. -/
def calculate (run : Run) (expression : Word) : Action Int := do
  let text ← Expand.plainText run expression
  Trace.show_ run 2 ("(( " ++ text ++ " ))")
  Expand.calculateFor "((: " text

/-- Runs a command for each round of an expression that counts. `step` computes one of the
expressions, by its place. -/
def runCount (run : Run) (step : Nat → Word → Action Int) (test next : Word) (body : Command)
    (tested : Bool) : Nat → Nat → Action Nat
  | 0, status => return status
  | rounds + 1, status => do
    let holds ←
      if test.isEmpty then pure true
      else do
        pure ((← step 1 test) ≠ 0)
    if ¬ holds then return status
    let status ← run body { tested }
    if ← goesOn then
      let _ ← if next.isEmpty then pure 0 else step 2 next
      runCount run step test next body tested rounds status
    else return status

/-- Computes an expression that is a command. The exit status tells whether it is zero. -/
def runExpression (run : Run) (expression : Word) : Action Nat := do
  try
    return if (← calculate run expression) = 0 then 1 else 0
  catch halt =>
    if halt = .error then return 1 else throw halt

/-- Tests a condition. The exit status tells whether it holds. -/
def runTest (run : Run) (test : Test) : Action Nat := do
  try
    return if ← Test.holds run endless false test then 0 else 1
  catch halt =>
    if halt = .error then return (← get).status else throw halt

/-- What a command comes to: its exit status, and whether a failure ends the shell. -/
structure Outcome where
  /-- The exit status. -/
  status : Nat
  /-- Whether a failure ends the shell, if it asks for that. -/
  checked : Bool := false

/-- Notes the line of the script. -/
def goToLine (line : Nat) : Action Unit := modify fun state ↦ { state with line }

/-- Runs a command whose parts are run by `run`. -/
def outcome (run : Run) (command : Command) (context : Context) : Action Outcome := do
  let tested := context.tested
  match command with
  | .skip => return ⟨(← get).status, false⟩
  | .simple line assignments words redirects written =>
    goToLine line
    Control.announce run line written
    return ⟨← runSimple run context assignments words redirects, true⟩
  | .redirected line body redirects _ =>
    goToLine line
    match ← runRedirected run context body redirects with
    | some status => return ⟨status, false⟩
    | none => return ⟨if (← get).isExtended then 1 else 2, true⟩
  | .subshell line body redirects written =>
    goToLine line
    modify fun state ↦
      if state.inTrap then state
      else { state with shown := Writing.text .together 0 (.subshell line body redirects written) }
    return ⟨← runSubshell run context body redirects, true⟩
  | .background line written body =>
    goToLine line
    return ⟨← runBackground run written body, true⟩
  | .pipeline parts => return ⟨← runPipeline run tested parts, true⟩
  | .sequence first second =>
    let status ← run first { tested }
    if (← get).skip.isSome then return ⟨status, false⟩
    return ⟨← run second context, false⟩
  | .andThen first second =>
    let status ← run first { tested := true }
    if status ≠ 0 ∨ (← get).skip.isSome then return ⟨status, false⟩
    return ⟨← run second context, false⟩
  | .orElse first second =>
    let status ← run first { tested := true }
    if status = 0 ∨ (← get).skip.isSome then return ⟨status, false⟩
    return ⟨← run second context, false⟩
  | .negated body =>
    let status ← run body { tested := true }
    return ⟨if status = 0 then 1 else 0, false⟩
  | .branch condition yes no =>
    let status ← run condition { tested := true }
    let context := { context with ends := context.ends && !(← get).isExtended }
    if (← get).skip.isSome then return ⟨status, false⟩
    else if status = 0 then return ⟨← run yes context, false⟩
    else
      match no with
      | .skip => return ⟨0, false⟩
      | no => return ⟨← run no context, false⟩
  | .loop onFailure condition body =>
    return ⟨← asLoop (runLoop run onFailure condition body tested endless 0), false⟩
  | .each line name words written body =>
    goToLine line
    let texts ←
      match words with
      | none => pure (← get).arguments
      | some words => allFieldsOf run words []
    if ¬ isName name then
      Action.warn ('\x60' :: name ++ "': not a valid identifier")
      return ⟨1, true⟩
    return ⟨← asLoop (runEach run line name written body tested texts 0), false⟩
  | .menu line name words written body =>
    goToLine line
    let texts ←
      match words with
      | none => pure (← get).arguments
      | some words => allFieldsOf run words []
    Control.announce run line ("select " ++ name ++ " in " ++ written)
    if texts.isEmpty then return ⟨0, false⟩
    return ⟨← asLoop (runMenu run name texts body tested endless true 0), false⟩
  | .timed brief body =>
    let status ←
      match body with
      | .skip => pure 0
      | body => run body { tested }
    let line (name : String) : Text :=
      name.toList ++ (if brief then " 0.00\n" else "\t0m0.000s\n").toList
    let start : Text := if brief then [] else "\n"
    let _ ← Routine.write 2 (start ++ line "real" ++ line "user" ++ line "sys")
    return ⟨status, false⟩
  | .select line word written choices =>
    goToLine line
    Control.announce run line ("case " ++ written ++ " in ")
    if (← get).isExtended then Trace.show_ run 2 ("case " ++ written ++ " in")
    let text ← Expand.text run word
    let context := { context with ends := context.ends && !(← get).isExtended }
    return ⟨← runChoice run context text false none choices, false⟩
  | .define line name body =>
    modify fun state ↦
      let outside : Option Text :=
        if ¬ state.isExtended then none
        else if state.fromArgument then some "environment"
        else if state.has 's' then some "main"
        else none
      let file := if state.file.isSome then state.file else outside
      let exported := (state.functions.lookup name).any (·.exported)
      { state with
        functions := (name, ⟨body, line, file, exported⟩) :: state.functions.filter (·.1 ≠ name) }
    return ⟨0, false⟩
  | .condition line test written =>
    goToLine line
    Control.announce run line ("[[ " ++ written ++ " ]]")
    return ⟨← runTest run test, true⟩
  | .calculate line expression written =>
    goToLine line
    Control.announce run line ("((" ++ written ++ "))")
    return ⟨← runExpression run expression, true⟩
  | .coprocess line name body =>
    goToLine line
    return ⟨← runCoprocess run name body, true⟩
  | .count line first test next written body =>
    goToLine line
    let step (i : Nat) (expression : Word) : Action Int := do
      Control.announce run line ("((" ++ written.getD i [] ++ "))")
      calculate run expression
    let _ ← if first.isEmpty then pure 0 else step 0 first
    return ⟨← asLoop (runCount run step test next body tested endless 0), false⟩

/-- Notes the exit status of a command that is not a pipeline as that of the only part of one. -/
def notePart (command : Command) (status : Nat) : Action Unit :=
  match command with
  | .pipeline _ => return ()
  | _ => modify fun state ↦ { state with partStatuses := [status] }

/-- Runs a command whose parts are run by `run`, with the signals that arrive before and after. -/
def evaluate (run : Run) (command : Command) (context : Context) : Action Nat := do
  Routine.pause
  if (← get).has 'n' then return 0
  Control.answerSignals run
  let before := (← get).pathStreams
  let ⟨status, checked⟩ ← outcome run command context
  let paths := (← get).pathStreams
  if paths.length ≠ before.length then
    Control.closeAll (paths.take (paths.length - before.length))
    modify fun state ↦ { state with pathStreams := before }
  Control.setStatus status
  let checked := checked && (← get).skip ≠ some .back
  if checked then
    notePart command status
    if status ≠ 0 ∧ ¬ context.tested then Control.answer run Control.failure
  Control.answerSignals run
  let state ← get
  if checked ∧ ¬ context.tested ∧ status ≠ 0 ∧ state.has 'e' then throw .exit
  return state.status

end Evaluate

/-- Runs a command, with commands at most some levels deep inside of it. -/
def runWithin : Nat → Run
  | 0, _, _ => return 0
  | depth + 1, command, context => Evaluate.evaluate (runWithin depth) command context

/-- Runs a command. -/
def runCommand : Run := runWithin endless

end AlignmentTally.Shell
