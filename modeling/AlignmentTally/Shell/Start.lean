import AlignmentTally.Shell.Evaluate

/-!
# The shell as a program

A shell is started with options and arguments. Its script is an argument, a file, or else what it
reads; whatever is left of the arguments belongs to the script.
-/

namespace AlignmentTally.Shell

open Machine

namespace Start

/-- The parameters with which a shell begins, with those that it is given. -/
def parameters (dialect : Dialect) (values : Values) : List (Text × Variable) :=
  let own (name text : String) : Text × Variable := (name, { value := .text text })
  let given := (values.filter fun (name, _) ↦ isName name).map fun (name, text) ↦
    (name, ({ value := .text text, exported := true } : Variable))
  let fixed := [own "IFS" " \t\n", own "OPTIND" "1"]
  let usual := [own "PATH" (String.ofList Program.defaultSearchPath), own "PS4" "+ "]
  let prompts := if dialect = .plain then [own "PS1" "# ", own "PS2" "> "] else []
  let names := given.map Prod.fst
  let isGiven (entry : Text × Variable) : Bool := names.contains entry.1
  (usual ++ prompts).filter (!isGiven ·) ++
    given.filter (fun entry ↦ !(fixed.map Prod.fst).contains entry.1) ++ fixed

/-- The path of the shell itself. -/
def ownPath : Action Text := do
  let state ← get
  if state.name.contains '/' then
    return if state.name.head? = some '/' then state.name
      else Directory.resolve state.directory state.name
  else
    let paths := state.searchPath.map (Program.pathIn · state.name)
    Routine.look fun directory disk ↦
      (paths.find? (Program.isCandidate disk directory)).getD state.name

/-- Gives functions their meanings that values hold. -/
def takeFunctions : Values → Action Unit
  | [] => return ()
  | (key, text) :: rest => do
    let name := (key.drop 10).dropLast.dropLast
    if Text.beginsWith key "BASH_FUNC_" ∧ key.drop (name.length + 10) = "%%".toList ∧
        Text.beginsWith text "() \x7b" then
      match Parser.commands { rest := name ++ ' ' :: text ++ ['\n'], dialect := .extended } with
      | .ok (some (.define line name body), _) =>
        let definition : Definition := ⟨body, line, some "environment", true⟩
        modify fun state ↦
          { state with functions := (name, definition) :: state.functions }
      | _ => pure ()
    takeFunctions rest

/-- The parameters that the extended dialect adds. -/
def addExtended : Action Unit := do
  let own (name text : Text) : Action Unit := modify (·.put name text false)
  let keep (name : Text) (entry : Variable) : Action Unit :=
    modify (·.setVariable name { entry with readOnly := true })
  own "BASH" (← ownPath)
  own "BASH_VERSION" "5.2.15(1)-release"
  keep "BASH_VERSINFO"
    { value := State.itemsOf ["5", "2", "15", "1", "release", "x86_64-pc-linux-gnu"] }
  own "HOSTTYPE" "x86_64"
  own "MACHTYPE" "x86_64-pc-linux-gnu"
  own "OSTYPE" "linux-gnu"
  own "OPTERR" "1"
  own "PS4" "+ "
  if ((← get).lookup? "OLDPWD").isNone then
    modify (·.setVariable "OLDPWD" { exported := true })
  keep "UID" { value := .text ['0'], isInteger := true }
  keep "EUID" { value := .text ['0'], isInteger := true }
  keep "PPID" { value := .text ((← get).value "PPID"), isInteger := true }
  let level := ((← get).level + 1).toNat
  if State.depthLimit ≤ level then
    let words : Text := ": warning: shell level (" ++ Text.ofNat level
    let _ ← Routine.write 2 ((← get).name ++ words ++ ") too high, resetting to 1\n")
  modify fun state ↦
    { state.deepen true with
      lastField := (state.value? "_").getD state.name
      parameters := (state.deepen true).parameters.filter (·.1 ≠ "_".toList) }

/-- Finds out where the shell is and which process it is. -/
def orient (values : Values) : Action Unit := do
  let self ← Routine.self
  let given := (values.lookup "PWD".toList).getD []
  let (isSame, physical) ← Routine.look fun directory disk ↦
    (given.head? = some '/' && (disk.find directory given).toOption = some directory,
      disk.pathOf directory)
  let path := if isSame then given else physical
  modify fun state ↦
    { state with
      process := self.id
      parent := self.parent
      ignored := self.ignored
      mask := self.mask
      directory := path }
  modify (·.put "PPID" (Text.ofNat self.parent) false)
  modify (·.put "PWD" path true)

/-- Complains before any line of a script. -/
def refuse (words : Text) (status : Nat) : Action Unit := do
  let state ← get
  let line : Text := if state.isExtended then [] else "0: "
  let _ ← Routine.write 2 (state.name ++ ": " ++ line ++ words ++ "\n")
  Control.setStatus status
  throw .exit

/-! ### Options of the extended dialect -/

/-- The long options that are followed by nothing. -/
def longOptions : List String :=
  ["debug", "debugger", "dump-po-strings", "dump-strings", "help", "login", "noediting", "noprofile",
    "norc", "posix", "pretty-print", "restricted", "verbose", "version"]

/-- The long options that are followed by a path. -/
def pathOptions : List String := ["init-file", "rcfile"]

/-- Complains about an option and ends. How options are to be given is shown, unless the shell ends
at the first failure. -/
def refuseOption (option : Text) : Action Unit := do
  let state ← get
  let name := state.name
  let long := (longOptions ++ pathOptions).mergeSort fun a b ↦ a ≤ b
  let usage : Text :=
    "Usage:\t" ++ name ++ " [GNU long option] [option] ...\n\t" ++ name ++
      " [GNU long option] [option] script-file ...\nGNU long options:\n" ++
      (long.flatMap fun option ↦ ("\t--" ++ option ++ "\n").toList) ++
      "Shell options:\n\t-ilrsD or -c command or -O shopt_option\t\t(invocation only)\n" ++
      "\t-abefhkmnptuvxBCEHPT or -o option\n"
  let complaint := name ++ ": " ++ option ++ ": invalid option\n"
  let endsAtOnce := state.has 'e'
  let _ ← Routine.write 2 (if endsAtOnce then complaint else complaint ++ usage)
  Control.setStatus (if endsAtOnce then 1 else 2)
  throw .exit

/-- Turns a feature on or off. -/
def setFeature (name : Text) (on : Bool) : Action Unit :=
  modify fun state ↦
    let others := state.features.filter (· ≠ name)
    { state with features := if on then name :: others else others }

/-- Takes long options from the start of arguments; the result is what follows them. -/
def takeLong : List Text → Action (List Text)
  | [] => return []
  | argument :: rest => do
    let isLong := Text.beginsWith argument "--"
    let name := String.ofList (argument.drop (if isLong then 2 else 1))
    if argument.head? ≠ some '-' ∨ name.isEmpty then return argument :: rest
    if pathOptions.contains name then
      match rest with
      | [] =>
        refuse (name.toList ++ ": option requires an argument") 2
        return []
      | _ :: rest => takeLong rest
    else if longOptions.contains name then
      match name with
      | "verbose" => Parameters.setOption 'v' true
      | "restricted" => Parameters.setOption 'r' true
      | "posix" => Parameters.setOption ':' true
      | "login" => setFeature "login_shell" true
      | "dump-strings" | "dump-po-strings" => Parameters.setOption 'n' true
      | _ => pure ()
      takeLong rest
    else
      if isLong then refuseOption argument
      return argument :: rest

/-- Takes the letters of one argument; the result says which arguments are left. -/
def takeLetters (on : Bool) : Text → List Text → Parameters.Options →
    Action (List Text × Parameters.Options)
  | [], arguments, options => return (arguments, options)
  | letter :: letters, arguments, options => do
    match letter, arguments with
    | 'c', _ => takeLetters on letters arguments { options with hasCommand := true }
    | 'l', _ =>
      setFeature "login_shell" true
      takeLetters on letters arguments options
    | 'D', _ =>
      Parameters.setOption 'n' true
      takeLetters on letters arguments options
    | 'o', [] => takeLetters on letters [] { options with lists := some !on }
    | 'o', name :: arguments =>
      match State.extendedOptionNames.lookup (String.ofList name) with
      | some option => Parameters.setOption option on
      | none =>
        Action.warn ((← get).name ++ ": " ++ name ++ ": invalid option name")
        Control.setStatus 2
        throw .exit
      takeLetters on letters arguments options
    | 'O', [] =>
      let _ ← Features.shopt (if on then [] else ["-p"])
      takeLetters on letters [] options
    | 'O', name :: arguments =>
      if (Features.table.lookup (String.ofList name)).isNone then
        Action.warn (name ++ ": invalid shell option name")
        Control.setStatus 2
        throw .exit
      setFeature name on
      takeLetters on letters arguments options
    | letter, _ =>
      let known : Bool := letter = 's' || letter = 'r' || letter = 'i' ||
        (letter.isAlpha && State.extendedOptionNames.any (·.2 = letter))
      if known then Parameters.setOption letter on
      else refuseOption [if on then '-' else '+', letter]
      takeLetters on letters arguments options

/-- Takes options from the start of arguments, in at most some rounds. -/
def takeShort : Nat → List Text → Parameters.Options → Action Parameters.Options
  | 0, _, options => return options
  | rounds + 1, arguments, options => do
    match arguments with
    | ['-'] :: rest | ['-', '-'] :: rest => return { options with arguments := some rest }
    | ('-' :: letters) :: rest =>
      let (rest, options) ← takeLetters true letters rest options
      takeShort rounds rest options
    | ('+' :: letters) :: rest =>
      let (rest, options) ← takeLetters false letters rest options
      takeShort rounds rest options
    | arguments => return { options with arguments := some arguments }

/-! ### Scripts -/

/-- Gives the script its name and its arguments. -/
def setArguments (name : Text) (arguments : List Text) : Action Unit := do
  modify fun state ↦ { state with name, arguments }
  if (← get).isExtended then
    let count := State.itemsOf [Text.ofNat arguments.length]
    modify (·.setVariable "BASH_ARGC" { value := count })
    modify (·.setVariable "BASH_ARGV" { value := State.itemsOf arguments.reverse })

/-- Runs the script that options and arguments ask for. -/
def runScript (options : Parameters.Options) : Action Unit := do
  let state ← get
  let arguments := options.arguments.getD []
  let go (status : Action Nat) : Action Unit := do
    let _ ← status
    return ()
  if options.hasCommand then
    match arguments with
    | [] =>
      refuse (if state.isExtended then "-c: option requires an argument"
        else "-c requires an argument") 2
    | text :: rest =>
      setArguments (rest.headD state.name) (rest.drop 1)
      modify fun state ↦
        { state with
          fromArgument := true
          options := if state.isExtended then 'c' :: state.options else state.options }
      if state.isExtended then
        modify (·.put "BASH_EXECUTION_STRING" text false)
      go (Control.runText runCommand state.isExtended "-c: " 1 text)
  else
    match if state.has 's' then [] else arguments with
    | path :: rest =>
      match ← Routine.openFile path .read with
      | .error error =>
        if state.isExtended then refuse (path ++ ": " ++ error.words.toList) 127
        else refuse (Redirection.openingFault false false path error) 2
      | .ok stream =>
        setArguments path rest
        modify fun state ↦ { state with isScript := true }
        match ← Routine.readAll stream with
        | .error error =>
          if state.isExtended then refuse (path ++ ": " ++ error.words.toList) 126
        | .ok text =>
          Routine.close stream
          go (Control.runLines runCommand text)
    | [] =>
      setArguments state.name arguments
      modify fun state ↦ { state with options := 's' :: state.options.filter (· ≠ 's') }
      let text := (← Routine.readAll 0).toOption.getD []
      go (Control.runLines runCommand text)

/-- Runs the shell with options and arguments. -/
def runWith (arguments : List Text) (values : Values) : Action Unit := do
  orient values
  let state ← get
  if state.isExtended then
    addExtended
    takeFunctions values
    modify fun state ↦ { state with options := "hB#", features := Features.initial }
  set { ← get with line := 0 }
  let rounds := arguments.length + 1
  let options ←
    if state.isExtended then takeShort rounds (← takeLong arguments) {}
    else Parameters.takeOptions true rounds arguments {}
  modify fun state ↦ { state with line := 1 }
  match options.lists with
  | some asCommands =>
    let _ ← Parameters.listOptions asCommands
  | none => pure ()
  runScript options

end Start

/-- A shell as a process. -/
def program (dialect : Dialect) (arguments : List Text) (values : Values) : Process :=
  let name := arguments.headD "sh"
  let state : State := { dialect, name, parameters := Start.parameters dialect values }
  let end_ (state : State) : Process := Control.ending runCommand state
  (Start.runWith (arguments.drop 1) values).toProcess state (fun _ state ↦ end_ state) fun _ state ↦
    end_ state

end AlignmentTally.Shell
