import AlignmentTally.Machine.Routine
import AlignmentTally.Shell.Source
import AlignmentTally.Shell.Value
import AlignmentTally.Shell.Writing

/-!
# The state of a shell

What a shell keeps between commands: parameters, functions, options, traps, jobs, and how far it
is in skipping commands. A part of a shell is a routine on this state, which may fail when the shell
ends or finds an error.
-/

namespace AlignmentTally.Shell

open Machine

/-- Why commands are skipped. -/
inductive Skip where
  /-- A number of repetitions ends. -/
  | leave (levels : Nat)
  /-- A round of a repetition ends, which is a number of levels up. -/
  | next (levels : Nat)
  /-- A function or a file of commands ends. -/
  | back
  deriving DecidableEq, Repr

/-- Why a shell does not go on. -/
inductive Halt where
  /-- It ends. -/
  | exit
  /-- It has found an error. -/
  | error
  /-- It gives up the commands on a line. -/
  | abandon
  deriving DecidableEq, Repr, Inhabited

/-- What a name was made to do. -/
structure Definition where
  /-- The command that is run. -/
  body : Command
  /-- The line of the script on which it begins. -/
  line : Nat := 1
  /-- The file in which the name was given its meaning, if it was in one. -/
  file : Option Text := none
  /-- Whether programs are given it. -/
  exported : Bool := false
  deriving Inhabited

/-- A function, or a file of commands, that is being run. -/
structure Frame where
  /-- Its name. -/
  name : Text
  /-- The line on which it was asked for. -/
  line : Nat
  /-- The file in which it is, if it is not the script. -/
  file : Option Text
  deriving Inhabited

/-- Processes that were started together. -/
structure Job where
  /-- The number of the job. -/
  number : Nat
  /-- The processes, and how those ended that did. -/
  members : List (Nat × Option ExitStatus)
  /-- How it is written. -/
  written : Text := []
  /-- Whether the script has waited for it. -/
  waited : Bool := false
  /-- Whether it is shown among the jobs. -/
  listed : Bool := true
  deriving Inhabited

/-- How a job ended, which is how its last process did. -/
def Job.status? (job : Job) : Option ExitStatus := do
  if job.members.any (·.2.isNone) then Option.none
  else (← job.members.getLast?).2

/-- A command beside the script, with pipes from it and to it. -/
structure Coprocess where
  /-- Its process. -/
  process : Nat
  /-- The name of the parameter that holds its streams. -/
  name : Text
  /-- The streams on which its output is read and its input is written. -/
  streams : List Nat
  deriving Inhabited

/-- The state of a shell. -/
structure State where
  /-- The dialect of its scripts. -/
  dialect : Dialect := .plain
  /-- The name of the script. -/
  name : Text := "sh"
  /-- The arguments of the script or function. -/
  arguments : List Text := []
  /-- The parameters with names. -/
  parameters : List (Text × Variable) := []
  /-- The parameters that functions have made their own, with what they stood for before, the
  innermost function first. -/
  locals : List (List (Text × Option Variable)) := []
  /-- The functions. -/
  functions : List (Text × Definition) := []
  /-- The functions and files around, the innermost one first. -/
  frames : List Frame := []
  /-- Whether the commands are those of a file that is the script. -/
  isScript : Bool := false
  /-- How the command is written that is run, outside of the commands for signals and events. -/
  shown : Text := []
  /-- Whether the commands for a signal or an event are being run. -/
  inTrap : Bool := false
  /-- Whether what comes before each command is being run. -/
  inStep : Bool := false
  /-- The names that stand for other texts. -/
  aliases : List (Text × Text) := []
  /-- The options that are set, by letter. -/
  options : Text := []
  /-- The features that are on, by name. -/
  features : List Text := []
  /-- The exit status of the last command. -/
  status : Nat := 0
  /-- The exit status of the last command whose output was used. -/
  substituted : Nat := 0
  /-- The exit statuses of the parts of the last pipeline. -/
  partStatuses : List Nat := [0]
  /-- The line of the script. -/
  line : Nat := 1
  /-- The file whose commands are being run, if it is not the script. -/
  file : Option Text := Option.none
  /-- What the text of commands is called that is being read, in complaints about it. -/
  label : Text := []
  /-- The command in whose name the shell complains. -/
  command : Option Text := Option.none
  /-- Why commands are skipped. -/
  skip : Option Skip := Option.none
  /-- The exit status from before a function or a file of commands was told to end. -/
  beforeBack : Nat := 0
  /-- The number of repetitions around. -/
  loops : Nat := 0
  /-- The number of functions around. -/
  depth : Nat := 0
  /-- Whether the commands of another file are being run. -/
  inFile : Bool := false
  /-- The commands for signals, and for the end under 0. -/
  traps : List (Nat × Text) := []
  /-- The signals that arrived and are still to be answered. -/
  pending : List Nat := []
  /-- The signals that had no effect when the shell began. -/
  ignored : List Nat := []
  /-- The exit status from before a trap, while it runs. -/
  beforeTrap : Option Nat := Option.none
  /-- The number of the shell. -/
  process : Nat := 0
  /-- The number of the process that started the shell. -/
  parent : Nat := 1
  /-- The last process that was started beside the script. -/
  last : Option Nat := Option.none
  /-- The jobs beside the script, the last one first. -/
  jobs : List Job := []
  /-- The command beside the script that has pipes from it and to it. -/
  coprocess : Option Coprocess := Option.none
  /-- The streams that have paths as long as the command is run that asked for them. -/
  pathStreams : List Nat := []
  /-- The path of the directory that the shell is in. -/
  directory : Text := []
  /-- The argument from which options are taken next. -/
  optionIndex : Nat := 1
  /-- How far options have been taken from the argument before it. -/
  optionPlace : Option Nat := Option.none
  /-- The commands that were looked up, with their paths, the first one first. -/
  located : List (Text × Text) := []
  /-- Who may not do what with new files. -/
  mask : Nat := 18
  /-- Whether the shell is a part of another one. -/
  isInner : Bool := false
  /-- The number of shells around of which it is a part. -/
  outer : Nat := 0
  /-- Whether it is one of several parts of a pipeline. -/
  isPart : Bool := false
  /-- The last field of the last simple command. -/
  lastField : Text := []
  /-- The number of commands around whose output is used. -/
  nesting : Nat := 0
  /-- The number of the process that runs this part of the shell, if it is not the shell. -/
  own : Option Nat := Option.none
  /-- The directories to go back to, the last one first. -/
  stack : List Text := []
  /-- Whether the script was given as an argument. -/
  fromArgument : Bool := false
  deriving Inhabited

/-- A part of a shell. -/
abbrev Action := Routine State Halt

namespace State

/-- Whether an option is set. -/
def has (state : State) (option : Char) : Bool := state.options.contains option

/-- Whether the dialect is the extended one. -/
def isExtended (state : State) : Bool := state.dialect = .extended

/-- Whether a feature of the extended dialect is on. -/
def hasFeature (state : State) (feature : String) : Bool :=
  state.isExtended && state.features.contains feature.toList

/-- The parameter with a name, even if it only refers to another one. -/
def own? (state : State) (name : Text) : Option Variable := state.parameters.lookup name

/-- The name that a parameter refers to, if it does. -/
def referred? (state : State) (name : Text) : Option Text := do
  let entry ← state.own? name
  if entry.isReference then entry.value.text? else none

/-- The name of the parameter that is meant by a name, after at most some references. -/
def follow (state : State) : Nat → Text → Text
  | 0, name => name
  | rounds + 1, name =>
    match state.referred? name with
    | some other => follow state rounds other
    | none => name

/-- The name of the parameter that is meant by a name. -/
def meant (state : State) (name : Text) : Text :=
  if (state.referred? name).isSome then state.follow (state.parameters.length + 1) name else name

/-- The parameter that is meant by a name. -/
def lookup? (state : State) (name : Text) : Option Variable := state.own? (state.meant name)

/-- The names of the parameters, in order. -/
def names (state : State) : List Text :=
  (state.parameters.filter fun (_, entry) ↦ entry.value ≠ .none).map Prod.fst
    |>.mergeSort fun a b ↦ !Text.before b a

/-- The text of the parameter with a name. -/
def value? (state : State) (name : Text) : Option Text :=
  (state.lookup? name).bind (·.value.text?)

/-- The text of the parameter with a name, empty if it has none. -/
def value (state : State) (name : Text) : Text := (state.value? name).getD []

/-- The characters at which fields are cut. -/
def separators (state : State) : Text := (state.value? "IFS").getD " \t\n"

/-- What stands between arguments that are put together. -/
def separator (state : State) : Text := state.separators.take 1

/-- The options in the order in which they are shown. -/
def shownOptions (state : State) : Text :=
  let order := if state.isExtended then "abefhimnuvxBCc" else "pubaCEVvxsnmiIfe"
  order.toList.filter state.has

/-- A value with some texts under numbers from 0 on. -/
def itemsOf (texts : List Text) : Value := .items (texts.mapIdx fun i text ↦ (i, text))

/-- What stands under the key in brackets after a name, which is written out. -/
def writtenItem? (state : State) (name : Text) : Option Value := do
  let other := name.takeWhile isNameChar
  match name.drop other.length with
  | '[' :: key => some (((← state.own? other).value.item? key.dropLast).elim .none Value.text)
  | _ => none

/-- The options of the extended dialect by name, each with its letter, or with a sign in the place of
one. -/
def extendedOptionNames : List (String × Char) :=
  [("allexport", 'a'), ("braceexpand", 'B'), ("emacs", '('), ("errexit", 'e'), ("errtrace", 'E'),
    ("functrace", 'T'), ("hashall", 'h'), ("histexpand", 'H'), ("history", '^'),
    ("ignoreeof", '='), ("interactive-comments", '#'), ("keyword", 'k'), ("monitor", 'm'),
    ("noclobber", 'C'), ("noexec", 'n'), ("noglob", 'f'), ("nolog", '~'), ("notify", 'b'),
    ("nounset", 'u'), ("onecmd", 't'), ("physical", 'P'), ("pipefail", '|'), ("posix", ':'),
    ("privileged", 'p'), ("verbose", 'v'), ("vi", ')'), ("xtrace", 'x')]

/-- Names put together, each but the first after a colon. -/
def joined (names : List Text) : Value := .text (Text.join [':'] names)

/-- What a named parameter stands for. Some change by themselves, in the extended dialect. -/
def valueOf (state : State) (name : Text) : Value :=
  let name := state.meant name
  let own := (state.writtenItem? name).getD ((state.own? name).getD {}).value
  if ¬ state.isExtended then own
  else
    match String.ofList name with
    | "LINENO" => .text (Text.ofNat state.line)
    | "FUNCNAME" =>
      if state.depth = 0 then .none
      else itemsOf (state.frames.map (·.name) ++ if state.isScript then ["main".toList] else [])
    | "BASH_LINENO" =>
      itemsOf (state.frames.map (Text.ofNat ·.line) ++ if state.isScript then [['0']] else [])
    | "BASH_SOURCE" =>
      let files := state.frames.map (·.file.getD state.name)
      itemsOf (files ++ if state.isScript then [state.name] else [])
    | "BASH_COMMAND" => .text state.shown
    | "SHELLOPTS" =>
      let isOn (entry : String × Char) : Bool := state.has entry.2
      joined ((extendedOptionNames.filter isOn).map (·.1.toList))
    | "BASHOPTS" => joined (state.features.mergeSort fun a b ↦ !Text.before b a)
    | "BASH_ALIASES" => .table state.aliases
    | "BASH_CMDS" => .table state.located
    | "GROUPS" => itemsOf [['0']]
    | "PIPESTATUS" => itemsOf (state.partStatuses.map Text.ofNat)
    | "SECONDS" => .text ['0']
    | "BASHPID" => .text (Text.ofNat (state.own.getD state.process))
    | "_" => .text state.lastField
    | "BASH_SUBSHELL" => .text (Text.ofNat state.outer)
    | "DIRSTACK" => itemsOf (state.directory :: state.stack)
    | _ => own

/-- What a parameter stands for; the arguments together are given by `joinedWith`. -/
def parameter? (state : State) (name joinedWith : Text) : Option Text :=
  match name with
  | ['#'] => some (Text.ofNat state.arguments.length)
  | ['?'] => some (Text.ofNat state.status)
  | ['$'] => some (Text.ofNat state.process)
  | ['!'] => state.last.map Text.ofNat
  | ['-'] => some state.shownOptions
  | ['0'] => some state.name
  | ['@'] | ['*'] =>
    if state.arguments.isEmpty then Option.none else some (Text.join joinedWith state.arguments)
  | c :: _ =>
    if c.isDigit then state.arguments[Text.natOfDigits 10 name - 1]?
    else (state.valueOf name).text?
  | [] => Option.none

/-- The state with another variable under a name, even if the name referred to another one. -/
def setOwn (state : State) (name : Text) (entry : Variable) : State :=
  if state.parameters.any (·.1 = name) then
    { state with
      parameters := state.parameters.map fun old ↦ if old.1 = name then (name, entry) else old }
  else { state with parameters := state.parameters ++ [(name, entry)] }

/-- The state with another variable under the name that is meant by a name. -/
def setVariable (state : State) (name : Text) (entry : Variable) : State :=
  state.setOwn (state.meant name) entry

/-- The state with a text for a name, which is exported if that is asked for. -/
def put (state : State) (name text : Text) (exported : Bool) : State :=
  let old := (state.lookup? name).getD {}
  let value := old.value.setText (old.recased text)
  let exported := exported || old.exported || state.has 'a'
  state.setVariable name { old with value, exported }

/-- The state with a text for an item of a parameter. -/
def putItem (state : State) (name key text : Text) : State :=
  let old := (state.lookup? name).getD {}
  state.setVariable name { old with value := old.value.setItem key (old.recased text) }

/-- The state without a variable. -/
def erase (state : State) (name : Text) : State :=
  { state with parameters := state.parameters.filter (·.1 ≠ name) }

/-- The place of a name in lists of names, which are kept in this many parts. -/
def placeOf (name : Text) : Nat :=
  (((name.head?.map Char.toNat).getD 0) * 16 + name.foldl (fun sum c ↦ sum + c.toNat) 0) % 39

/-- Exported values in the order of the extended dialect: first what belongs to commands and
functions, in a table of four places for each, and then everything else. -/
def arranged (frames : List (List Text)) (entries : Values) : Values :=
  match frames with
  | [] => entries.reverse.mergeSort fun a b ↦ Value.placeOf a.1 ≤ Value.placeOf b.1
  | frame :: frames =>
    let (own, others) := entries.partition fun (name, _) ↦ frame.contains name
    (own.reverse.mergeSort fun a b ↦ Value.placeOf a.1 % 4 ≤ Value.placeOf b.1 % 4) ++
      arranged frames others

/-- The values that programs are given for the functions that they are given. -/
def exportedFunctions (state : State) : Values :=
  (state.functions.filter (·.2.exported)).map fun (name, definition) ↦
    ("BASH_FUNC_" ++ name ++ "%%", Writing.exported definition.body)

/-- The values that programs are given. -/
def exports (state : State) : Values :=
  let entries := state.parameters.filterMap fun (name, entry) ↦
    if entry.exported then (entry.value.text?).map fun text ↦ (name, text) else Option.none
  if state.isExtended then
    arranged (state.locals.map fun frame ↦ frame.map Prod.fst) entries ++ state.exportedFunctions
  else entries.mergeSort fun a b ↦ placeOf a.1 ≤ placeOf b.1

/-- How deep shells may be in one another. -/
def depthLimit : Nat := 1000

/-- The depth of the shell in others as its parameter writes it, or zero. -/
def level (state : State) : Int :=
  let text := state.value "SHLVL"
  let digits := text.dropWhile (· = '-')
  match Text.toNat? digits with
  | some n => if text = '-' :: digits then -(n : Int) else if text = digits then n else 0
  | none => 0

/-- The state with a depth that is one more, or one less. -/
def deepen (state : State) (isMore : Bool) : State :=
  let level := (state.level + (if isMore then 1 else -1)).toNat
  state.put "SHLVL" (Text.ofNat (if depthLimit ≤ level then 1 else level)) true

/-- The directories in which commands are looked up. -/
def searchPath (state : State) : List Text :=
  match state.value? "PATH" with
  | some path => Text.splitOn ':' path
  | Option.none => []

end State

namespace Action

/-- Complains, with the name of the script, the line and the command. -/
def warn (words : Text) : Action Unit := do
  let state ← get
  let line : Text := (if state.isExtended then "line " else "") ++ Text.ofNat state.line
  let command : Text := state.command.elim [] fun command ↦ command ++ ": "
  let name := state.file.getD state.name
  let _ ← Routine.write 2 (name ++ ": " ++ line ++ ": " ++ command ++ words ++ "\n")
  return ()

/-- Complains in the name of another command, or of none. -/
def warnAs (command : Option Text) (words : Text) : Action Unit := do
  let before := (← get).command
  modify fun state ↦ { state with command }
  warn words
  modify fun state ↦ { state with command := before }

/-- Gives up what the shell is doing. -/
def giveUp {α : Type} : Action α := do
  modify fun state ↦ { state with status := if state.isExtended then 1 else 2 }
  throw .error

/-- Complains, and gives up what the shell is doing. -/
def fail {α : Type} (words : Text) : Action α := do
  warn words
  giveUp

/-- Complains and ends the shell, in the extended dialect. -/
def quit {α : Type} (words : Text) : Action α := do
  warn words
  modify fun state ↦ { state with status := if state.fromArgument ∧ ¬ state.isInner then 127 else 1 }
  throw .exit

/-- Gives up what the shell is doing, with an exit status. -/
def giveUpWith {α : Type} (status : Nat) : Action α := do
  modify fun state ↦ { state with status }
  throw .error

/-- Complains that a text is not the name of a parameter. -/
def refuseName {α : Type} (text : Text) : Action α := do
  if (← get).isExtended then fail ('\x60' :: text ++ "': not a valid identifier")
  else fail (text ++ ": bad variable name")

/-- Complains that a parameter stays as it is. -/
def refuseChange {α : Type} (name : Text) : Action α := do
  if (← get).isExtended then
    warnAs none (name ++ ": readonly variable")
    giveUp
  else fail (name ++ ": is read only")

/-- Gives a parameter a text. -/
def assign (name text : Text) (exported : Bool) : Action Unit := do
  let state ← get
  if ¬ isName name then refuseName name
  let name := state.meant name
  if (state.own? name).any (·.readOnly) then refuseChange name
  let state :=
    match (name.drop (name.takeWhile isNameChar).length) with
    | '[' :: key => state.putItem (name.takeWhile isNameChar) key.dropLast text
    | _ => state.put name text exported
  if name = "OPTIND".toList then
    let index := max 1 ((Text.toNat? text).getD 1)
    set { state with optionIndex := index, optionPlace := Option.none }
  else if name = "PATH".toList then set { state with located := [] }
  else set state

end Action

end AlignmentTally.Shell
