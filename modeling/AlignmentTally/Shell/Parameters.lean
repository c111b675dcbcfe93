import AlignmentTally.Shell.Arguments
import AlignmentTally.Shell.Control
import AlignmentTally.Shell.Declaration
import AlignmentTally.Shell.Output
import AlignmentTally.Shell.Pattern

/-!
# Commands on parameters

The commands of a shell that change its parameters, its options and its aliases: among them those
that take options from arguments and that read lines into parameters.
-/

namespace AlignmentTally.Shell

open Machine

namespace Parameters

/-! ### Options of the shell -/

/-- The options by name, each with its letter if it has one. -/
def optionNames : List (String × Option Char) :=
  [("errexit", some 'e'), ("noglob", some 'f'), ("ignoreeof", some 'I'), ("interactive", some 'i'),
    ("monitor", some 'm'), ("noexec", some 'n'), ("stdin", some 's'), ("xtrace", some 'x'),
    ("verbose", some 'v'), ("vi", some 'V'), ("emacs", some 'E'), ("noclobber", some 'C'),
    ("allexport", some 'a'), ("notify", some 'b'), ("nounset", some 'u'), ("privileged", some 'p'),
    ("nolog", none), ("debug", none)]

/-- The letter of an option with a name, if there is one. -/
def letter? (extended : Bool) (name : Text) : Option (Option Char) :=
  if extended then (State.extendedOptionNames.lookup (String.ofList name)).map some
  else optionNames.lookup (String.ofList name)

/-- Sets an option or takes it back. -/
def setOption (letter : Char) (on : Bool) : Action Unit :=
  modify fun state ↦
    let others := state.options.filter (· ≠ letter)
    { state with options := if on then letter :: others else others }

/-- Sets the option with a letter, or takes it back. -/
def setLetter (letter : Char) (on : Bool) : Action Unit := do
  let extended := (← get).isExtended
  let isKnown : Bool :=
    if extended then letter.isAlpha && State.extendedOptionNames.any (·.2 = letter)
    else optionNames.any (·.2 = some letter)
  if isKnown then setOption letter on
  else if extended then
    Arguments.misuse ((if on then ['-'] else ['+']) ++ letter :: ": invalid option".toList)
  else Action.fail ("Illegal option -" ++ [letter])

/-- Sets the option with a name, or takes it back. -/
def setNamed (name : Text) (on : Bool) : Action Unit := do
  let extended := (← get).isExtended
  match letter? extended name with
  | some (some letter) => setOption letter on
  | some none => return ()
  | none =>
    if extended then
      Action.warn (name ++ ": invalid option name")
      Action.giveUpWith 2
    else Action.fail ("Illegal option -o " ++ name)

/-- The options with their states, as they are listed. -/
def listOptions (asCommands : Bool) : Action Nat := do
  let state ← get
  let extended := state.isExtended
  let names :=
    if extended then State.extendedOptionNames.map fun (name, letter) ↦ (name, some letter)
    else optionNames
  let lines := names.map fun (name, letter) ↦
    let isOn := letter.any state.has
    let name := name.toList
    if asCommands then
      "set ".toList ++ (if isOn then ['-'] else ['+']) ++ "o ".toList ++ name ++ ['\n']
    else
      let front := if extended then Text.padRight 15 name ++ ['\t'] else Text.padRight 16 name
      front ++ (if isOn then "on\n" else "off\n").toList
  let title : Text := if asCommands ∨ extended then [] else "Current option settings\n"
  Output.finish 0 (title ++ lines.flatten)

/-- What is left of arguments after options. -/
structure Options where
  /-- The other arguments, if there were any or a sign that they are none. -/
  arguments : Option (List Text) := none
  /-- Whether a command is among the arguments. -/
  hasCommand : Bool := false
  /-- Whether the options are to be listed, perhaps as commands. -/
  lists : Option Bool := none

/-- Takes the letters of one argument; the result says which arguments are left. -/
def takeLetters (atStart on : Bool) : Text → List Text → Options →
    Action (List Text × Options)
  | [], arguments, options => return (arguments, options)
  | 'o' :: letters, arguments, options => do
    match arguments with
    | [] => takeLetters atStart on letters [] { options with lists := some !on }
    | name :: arguments =>
      setNamed name on
      takeLetters atStart on letters arguments options
  | letter :: letters, arguments, options => do
    if atStart ∧ letter = 'c' then
      takeLetters atStart on letters arguments { options with hasCommand := true }
    else if atStart ∧ letter = 'l' then takeLetters atStart on letters arguments options
    else
      setLetter letter on
      takeLetters atStart on letters arguments options

/-- Takes options from the start of arguments, in at most some rounds. -/
def takeOptions (atStart : Bool) : Nat → List Text → Options → Action Options
  | 0, _, options => return options
  | rounds + 1, arguments, options => do
    match arguments with
    | [] => return options
    | ['-'] :: rest =>
      if ¬ atStart then
        setOption 'x' false
        setOption 'v' false
      return { options with arguments := if rest.isEmpty ∧ ¬ atStart then none else some rest }
    | ['-', '-'] :: rest => return { options with arguments := some rest }
    | ('-' :: letters) :: rest =>
      let (rest, options) ← takeLetters atStart true letters rest options
      takeOptions atStart rounds rest options
    | ('+' :: letters) :: rest =>
      let (rest, options) ← takeLetters atStart false letters rest options
      takeOptions atStart rounds rest options
    | arguments => return { options with arguments := some arguments }

/-! ### Listing -/

/-- The parameters with a property, as commands that would make them. -/
def listed (front : Text) (p : Variable → Bool) : Action Nat := do
  let state ← get
  let lines := (Arguments.sorted state.parameters).filterMap fun (name, entry) ↦
    if ¬ p entry then none
    else
      match entry.value.text? with
      | some text => some (front ++ name ++ '=' :: Arguments.quote text ++ ['\n'])
      | none => if front.isEmpty then none else some (front ++ name ++ ['\n'])
  Output.finish 0 lines.flatten

/-- Lists the parameters and the functions as commands that would make them, in the extended
dialect. -/
def listAll : Action Nat := do
  let state ← get
  let lines := (Arguments.sorted state.parameters).filterMap fun (name, entry) ↦
    match entry.value with
    | .none => none
    | .text text => some (name ++ '=' :: Arguments.quote text ++ ['\n'])
    | value => some (name ++ Declaration.shownValue value ++ ['\n'])
  let functions := (Arguments.sorted state.functions).map fun (name, definition) ↦
    Writing.definition name definition.body ++ ['\n']
  Output.finish 0 (lines.flatten ++ if state.has ':' then [] else functions.flatten)

/-- Sets options and arguments, or lists the parameters. -/
def setCommand (arguments : List Text) : Action Nat := do
  if arguments.isEmpty then
    return ← if (← get).isExtended then listAll else listed [] fun _ ↦ true
  let options ← takeOptions false (arguments.length + 1) arguments {}
  match options.arguments with
  | some arguments => modify fun state ↦ { state with arguments, optionIndex := 1 }
  | none => pure ()
  match options.lists with
  | some asCommands => listOptions asCommands
  | none => return 0

/-- Takes arguments away. -/
def shift (arguments : List Text) : Action Nat := do
  let state ← get
  if state.isExtended ∧ 1 < arguments.length then
    Action.warn "too many arguments"
    modify fun state ↦ { state with status := 1 }
    throw .abandon
  let n ←
    match arguments with
    | [] => pure 1
    | text :: _ =>
      if state.isExtended ∧ (Condition.integer? text).any (· < 0) then
        Action.fail (text ++ ": shift count out of range")
      else Arguments.number text
  if state.arguments.length < n then
    if state.isExtended then return 1
    Action.fail "can't shift that many"
  set
    { state with
      arguments := state.arguments.drop n
      optionIndex := 1
      optionPlace := none }
  return 0

/-- The name and the text of an argument that is an assignment. -/
def assignment? (argument : Text) : Option (Text × Text) :=
  let name := argument.takeWhile (· ≠ '=')
  match argument.drop name.length with
  | _ :: text => some (name, text)
  | [] => none

/-- Changes what is known of a parameter. -/
def mark (name : Text) (change : Variable → Variable) : Action Unit := do
  if ¬ isName name then Action.refuseName name
  modify fun state ↦ state.setVariable name (change ((state.lookup? name).getD {}))

/-- Gives parameters to programs, or keeps them as they are. -/
def export_ (readOnly : Bool) (arguments : List Text) : Action Nat := do
  let (options, names) ← Arguments.options "p" arguments
  if options.any (·.1 = 'p') ∨ names.isEmpty then
    if readOnly then listed "readonly " (·.readOnly) else listed "export " (·.exported)
  else
    for argument in names do
      let name ←
        match assignment? argument with
        | some (name, text) => do
          Action.assign name text false
          pure name
        | none => pure argument
      mark name fun entry ↦
        if readOnly then { entry with readOnly := true } else { entry with exported := true }
    return 0

/-- Removes parameters or functions. -/
def unset (arguments : List Text) : Action Nat := do
  let (options, names) ← Arguments.options "vf" arguments
  let functionsOnly := (options.getLast?.map Prod.fst) = some 'f'
  for name in names do
    let state ← get
    if functionsOnly then
      set { state with functions := state.functions.filter (·.1 ≠ name) }
    else
      if ¬ isName name then Action.refuseName name
      if (state.lookup? name).any (·.readOnly) then Action.fail (name ++ ": is read only")
      set (state.erase name)
      if name = "PATH".toList then modify fun state ↦ { state with located := [] }
  return 0

/-- Keeps what a parameter stands for until the function ends. -/
def keepLocal (name : Text) : Action Unit :=
  modify fun state ↦
    match state.locals with
    | frame :: frames =>
      if frame.any (·.1 = name) then state
      else { state with locals := ((name, state.own? name) :: frame) :: frames }
    | [] => state

/-- The name under which the options are kept by a function. -/
def optionsName : Text := ['-']

/-- Makes parameters the function's own. -/
def local_ (arguments : List Text) : Action Nat := do
  let state ← get
  if state.depth = 0 then Action.fail "not in a function"
  for argument in arguments do
    if argument = ['-'] then
      let kept : Variable := { value := .text (← get).options }
      modify fun state ↦
        match state.locals with
        | frame :: frames =>
          { state with locals := ((optionsName, some kept) :: frame) :: frames }
        | [] => state
    else
      match assignment? argument with
      | some (name, text) =>
        keepLocal name
        Action.assign name text false
      | none =>
        if ¬ isName argument then Action.refuseName argument
        keepLocal argument
  return 0

/-- Gives parameters back what they stood for before. -/
def restore (frame : List (Text × Option Variable)) (state : State) : State :=
  frame.foldl
    (fun state (name, old) ↦
      match old with
      | some entry =>
        if name = optionsName then { state with options := (entry.value.text?).getD [] }
        else state.setOwn name entry
      | none => state.erase name)
    state

/-! ### Aliases -/

/-- An alias as it is listed. -/
def listedAlias (extended : Bool) (entry : Text × Text) : Text :=
  (if extended then "alias ".toList else []) ++ entry.1 ++ '=' :: Arguments.quote entry.2 ++ ['\n']

/-- Lists and makes aliases. -/
def alias_ (arguments : List Text) : Action Nat := do
  let extended := (← get).isExtended
  let arguments ←
    if extended then do pure (← Arguments.options "p" arguments).2 else pure arguments
  if arguments.isEmpty then
    let aliases := (← get).aliases
    let entries :=
      if extended then Arguments.sorted aliases
      else aliases.mergeSort fun a b ↦ State.placeOf a.1 ≤ State.placeOf b.1
    return ← Output.finish 0 (entries.map (listedAlias extended)).flatten
  let mut status := 0
  let mut lines : List Text := []
  for argument in arguments do
    match assignment? argument with
    | some (name, text) =>
      modify fun state ↦
        { state with
          aliases :=
            if state.aliases.any (·.1 = name) then
              state.aliases.map fun old ↦ if old.1 = name then (name, text) else old
            else state.aliases ++ [(name, text)] }
    | none =>
      match (← get).aliases.lookup argument with
      | some text => lines := listedAlias extended (argument, text) :: lines
      | none =>
        if (← get).isExtended then Action.warn (argument ++ ": not found")
        else
          let _ ← Routine.write 2 ("alias: " ++ argument ++ " not found\n")
        status := 1
  Output.finish status lines.reverse.flatten

/-- Removes aliases. -/
def unalias (arguments : List Text) : Action Nat := do
  let (options, names) ← Arguments.options "a" arguments
  if (← get).isExtended ∧ arguments.isEmpty then Arguments.remind
  if ¬ options.isEmpty then modify fun state ↦ { state with aliases := [] }
  let mut status := 0
  for name in names do
    let state ← get
    if state.aliases.any (·.1 = name) then
      set { state with aliases := state.aliases.filter (·.1 ≠ name) }
    else
      if state.isExtended then Action.warn (name ++ ": not found")
      else
        let _ ← Routine.write 2 ("unalias: " ++ name ++ " not found\n")
      status := 1
  return status

/-! ### Taking options from arguments -/

/-- Takes the next option from arguments into a parameter. `silent` says that complaints are left
to the script. -/
def nextOption (letters name : Text) (arguments : List Text) : Action Nat := do
  let state ← get
  let (silent, letters) :=
    match letters with
    | ':' :: letters => (true, letters)
    | letters => (false, letters)
  let index := if arguments.length + 1 < state.optionIndex then 1 else state.optionIndex
  let place := if arguments.length + 1 < state.optionIndex then none else state.optionPlace
  -- what is left of the argument from which an option was taken before
  let rest : Text :=
    match place with
    | some n => (arguments.getD (index - 2) []).drop n
    | none => []
  let finish (index : Nat) (place : Option Nat) (option : Char) (status : Nat) : Action Nat := do
    Action.assign "OPTIND" (Text.ofNat index) false
    if state.isExtended ∧ (state.lookup? name).any (·.readOnly) then
      Action.warnAs none (name ++ ": readonly variable")
      return 2
    Action.assign name [option] false
    modify fun state ↦ { state with optionIndex := index, optionPlace := place }
    return status
  let fresh := rest.isEmpty
  let current := if fresh then arguments.getD (index - 1) [] else arguments.getD (index - 2) []
  let isOption : Bool :=
    !fresh || (index ≤ arguments.length && current.head? = some '-' && 2 ≤ current.length)
  if ¬ isOption then finish index none '?' 1
  else if fresh ∧ current = ['-', '-'] then finish (index + 1) none '?' 1
  else
    let rest := if fresh then current.drop 1 else rest
    let index := if fresh then index + 1 else index
    let option := rest.headD '?'
    let after := rest.drop 1
    let place (after : Text) : Option Nat :=
      if after.isEmpty then none else some (current.length - after.length)
    let complain (words : Text) (option : Char) (seen : Char) : Action Char := do
      if silent then
        Action.assign "OPTARG" [seen] false
        return option
      else
        let front : Text := if state.isExtended then state.name ++ ": " else []
        let _ ← Routine.write 2 (front ++ words ++ "\n")
        modify (·.erase "OPTARG")
        return '?'
    match Arguments.takesText? letters option with
    | none =>
      let words : Text :=
        if state.isExtended then "illegal option -- " ++ [option]
        else "Illegal option -" ++ [option]
      let shown ← complain words '?' option
      finish index (place after) shown 0
    | some false =>
      if state.isExtended then modify (·.erase "OPTARG")
      else Action.assign "OPTARG" [] false
      finish index (place after) option 0
    | some true =>
      if ¬ after.isEmpty then
        Action.assign "OPTARG" after false
        finish index none option 0
      else if index ≤ arguments.length then
        Action.assign "OPTARG" (arguments.getD (index - 1) []) false
        finish (index + 1) none option 0
      else
        let words : Text :=
          if state.isExtended then "option requires an argument -- " ++ [option]
          else "No arg for -" ++ option :: " option".toList
        let shown ← complain words ':' option
        finish index none shown 0

/-- Takes the next option from the arguments of the script or from others. -/
def getopts (arguments : List Text) : Action Nat := do
  match ← Arguments.operands arguments with
  | letters :: name :: others =>
    let own := (← get).arguments
    nextOption letters name (if others.isEmpty then own else others)
  | _ =>
    if (← get).isExtended then Arguments.remind else Action.fail "Usage: getopts optstring var [arg...]"

/-! ### Who may do what with new files -/

/-- A number in base eight, with four digits. -/
def octal (n : Nat) : Text := Text.padLeft '0' 4 (Nat.toDigits 8 n)

/-- The bits that letters stand for. -/
def bitsOf (letters : Text) : Nat :=
  (if letters.contains 'r' then 4 else 0) + (if letters.contains 'w' then 2 else 0) +
    (if letters.contains 'x' then 1 else 0)

/-- What is allowed after a change that is written in letters, if it is one. -/
def changedBy (allowed : Nat) (change : Text) : Option Nat :=
  let who := change.takeWhile "ugoa".toList.contains
  let factor (c : Char) : Nat :=
    match c with
    | 'u' => 64
    | 'g' => 8
    | 'o' => 1
    | _ => 73
  let factors := if who.isEmpty then 73 else (who.map factor).foldl (· ||| ·) 0
  match change.drop who.length with
  | operator :: letters =>
    if ¬ letters.all "rwx".toList.contains then none
    else
      let bits := bitsOf letters * factors
      let full := 7 * factors
      match operator with
      | '+' => some (allowed ||| bits)
      | '-' => some (allowed - (allowed &&& bits))
      | '=' => some ((allowed - (allowed &&& full)) ||| bits)
      | _ => none
  | [] => none

/-- What is allowed, in letters. -/
def inLetters (allowed : Nat) : Text :=
  let letters (bits : Nat) : Text :=
    (if bits &&& 4 ≠ 0 then ['r'] else []) ++ (if bits &&& 2 ≠ 0 then ['w'] else []) ++
      (if bits &&& 1 ≠ 0 then ['x'] else [])
  "u=" ++ letters (allowed / 64) ++ ",g=" ++ letters (allowed / 8 % 8) ++ ",o=" ++
    letters (allowed % 8)

/-- Changes who may not do what with new files. -/
def setMask (mask : Nat) : Action Unit := do
  modify fun state ↦ { state with mask }
  Routine.setMask mask

/-- Shows or changes who may not do what with new files. -/
def umask (arguments : List Text) : Action Nat := do
  let (options, operands) ← Arguments.options (if (← get).isExtended then "Sp" else "S") arguments
  let mask := (← get).mask
  match operands with
  | [] =>
    if options.isEmpty then Output.finish 0 (octal mask ++ ['\n'])
    else Output.finish 0 (inLetters (511 - mask) ++ ['\n'])
  | change :: _ =>
    if change.head?.any Char.isDigit then
      if ¬ change.all Escape.isOctal then
        if (← get).isExtended then Action.fail (change ++ ": octal number out of range")
        else Action.fail ("Illegal number: " ++ change)
      setMask (Scanned.digits 8 change % 512)
      return 0
    else
      let allowed? := (Text.splitOn ',' change).foldl
        (fun allowed? change ↦ allowed?.bind (changedBy · change)) (some (511 - mask))
      match allowed? with
      | some allowed =>
        setMask (511 - allowed)
        return 0
      | none =>
        if (← get).isExtended then
          let operator := change.drop (change.takeWhile "ugoa".toList.contains).length
          Action.fail ('\x60' :: operator.take 1 ++ "': invalid symbolic mode operator")
        else Action.fail ("Illegal mode: " ++ change)

end Parameters

end AlignmentTally.Shell
