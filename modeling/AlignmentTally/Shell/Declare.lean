import AlignmentTally.Shell.Declaration
import AlignmentTally.Shell.Expand
import AlignmentTally.Shell.Parameters
import AlignmentTally.Shell.Trace

/-!
# Declaring parameters

The commands of the extended dialect that give parameters properties: that they have items, are
integers, are given to programs, stay as they are, or belong to a function. What was declared can be
shown as the commands that would declare it.
-/

namespace AlignmentTally.Shell

open Machine

namespace Declare

/-! ### Showing what was declared -/

/-- Shows the parameters with a property. -/
def list (p : Variable → Bool) : Action Nat := do
  let entries := (Arguments.sorted (← get).parameters).filter fun (_, entry) ↦ p entry
  Output.finish 0 (entries.flatMap fun (name, entry) ↦ Declaration.shown name entry)

/-- Shows parameters by name. -/
def show_ (names : List Text) : Action Nat := do
  let state ← get
  let mut status := 0
  for name in names do
    match state.own? name with
    | some entry => status := ← Output.finish status (Declaration.shown name entry)
    | none =>
      Action.warn (name ++ ": not found")
      status := 1
  return status

/-- Shows functions, all or some: their names, or what they stand for. -/
def showFunctions (onlyNames : Bool) (p : Definition → Bool) (names : List Text) : Action Nat := do
  let functions := (Arguments.sorted (← get).functions).filter fun (_, entry) ↦ p entry
  let front (entry : Definition) : Text := if entry.exported then "declare -fx " else "declare -f "
  let body (name : Text) (entry : Definition) : Text :=
    Writing.definition name entry.body ++ ['\n']
  if names.isEmpty then
    Output.finish 0 <| functions.flatMap fun (name, entry) ↦
      if onlyNames then front entry ++ name ++ ['\n']
      else body name entry ++ if entry.exported then front entry ++ name ++ ['\n'] else []
  else
    let found := names.filterMap fun name ↦ (functions.lookup name).map fun entry ↦
      if onlyNames then name ++ ['\n'] else body name entry
    Output.finish (if found.length = names.length then 0 else 1) found.flatten

/-- Gives functions to programs, or no longer. The result is the exit status. -/
def exportFunctions (exported : Bool) : List Text → Nat → Action Nat
  | [], status => return status
  | name :: rest, status => do
    let state ← get
    match state.functions.lookup name with
    | none =>
      Action.warn (name ++ ": not a function")
      exportFunctions exported rest 1
    | some _ =>
      let mark (entry : Text × Definition) : Text × Definition :=
        if entry.1 = name then (name, { entry.2 with exported }) else entry
      set { state with functions := state.functions.map mark }
      exportFunctions exported rest status

/-! ### Declaring -/

/-- The properties that letters give and take. -/
structure Properties where
  /-- The letters of those that are given. -/
  given : Text := []
  /-- The letters of those that are taken. -/
  taken : Text := []

/-- Takes the letters of properties from the start of arguments, in at most some rounds. -/
def readProperties (known : Text) : Nat → List Text → Properties → Action (Properties × List Text)
  | 0, arguments, properties => return (properties, arguments)
  | rounds + 1, arguments, properties => do
    match arguments with
    | ['-', '-'] :: rest => return (properties, rest)
    | (sign :: c :: letters) :: rest =>
      if sign ≠ '-' ∧ sign ≠ '+' then return (properties, arguments)
      match (c :: letters).find? (!known.contains ·) with
      | some letter => Arguments.misuse (sign :: letter :: ": invalid option".toList)
      | none =>
        let properties :=
          if sign = '-' then { properties with given := properties.given ++ c :: letters }
          else { properties with taken := properties.taken ++ c :: letters }
        readProperties known rounds rest properties
    | _ => return (properties, arguments)

/-- A parameter with properties given and taken, except that it stays as it is. -/
def Properties.apply (properties : Properties) (entry : Variable) : Variable :=
  let has (letter : Char) (before : Bool) : Bool :=
    (before || properties.given.contains letter) && !properties.taken.contains letter
  let value :=
    if properties.given.contains 'A' ∧ ¬ entry.value.isTable then .table []
    else if properties.given.contains 'a' ∧ ¬ entry.value.hasItems then .items entry.value.toItems
    else entry.value
  let upper :=
    if properties.given.contains 'u' then some true
    else if properties.given.contains 'l' then some false
    else if properties.taken.contains 'u' ∨ properties.taken.contains 'l' then none
    else entry.upper
  { entry with
    value
    upper
    isInteger := has 'i' entry.isInteger
    exported := has 'x' entry.exported }

/-- The name, the index and the value of an argument that declares a parameter, and whether the value
goes to the end. -/
structure Argument where
  /-- The name. -/
  name : Text
  /-- The index of an item. -/
  index : Option Text := none
  /-- The value. -/
  value : Option Text := none
  /-- Whether the value goes to the end of the one there is. -/
  atEnd : Bool := false

/-- The parts of an argument that declares a parameter. -/
def Argument.read (argument : Text) : Argument :=
  let name := argument.takeWhile isNameChar
  let rest := argument.drop name.length
  let (index, after) :=
    match rest with
    | '[' :: inside =>
      let index := inside.takeWhile (· ≠ ']')
      (some index, inside.drop (index.length + 1))
    | after => (none, after)
  match after with
  | [] => { name, index }
  | '=' :: value => { name, index, value := some value }
  | '+' :: '=' :: value => { name, index, value := some value, atEnd := true }
  | _ => { name := argument }

/-- Gives a parameter the value of an argument. -/
def give (argument : Argument) : Action Unit := do
  let entry := ((← get).lookup? argument.name).getD {}
  match argument.value with
  | none => return
  | some text =>
    let key? ← argument.index.mapM (Expand.keyOf entry.value)
    let old := match key? with
      | some key => entry.value.item? key
      | none => entry.value.text?
    let before := if argument.atEnd then old.getD [] else []
    let text ←
      if ¬ entry.isInteger then pure (before ++ text)
      else do
        let sum := if argument.atEnd then before ++ '+' :: text else text
        pure (Text.ofInt (← Expand.calculate sum))
    match key? with
    | some key => modify (·.putItem argument.name key text)
    | none => Action.assign argument.name text false

/-- Makes a name refer to another one, or no longer. The result tells whether that was possible. -/
def refer (argument : Argument) (refers isLocal : Bool) : Action Bool := do
  let name := argument.name
  match argument.value with
  | some target =>
    if target = name ∧ ¬ isLocal then
      Action.warn (name ++ ": nameref variable self references not allowed")
      return false
    if (Expand.reference? target).isNone then
      Action.warn ('\x60' :: target ++ "': invalid variable name for name reference")
      return false
    modify (·.setOwn name { isReference := refers, value := .text target })
  | none =>
    modify fun state ↦ state.setOwn name { (state.own? name).getD {} with isReference := refers }
  return true

/-- Declares a parameter. The result tells whether that was possible. -/
def declareOne (properties : Properties) (isLocal : Bool) (text : Text) : Action Bool := do
  let argument := Argument.read text
  if ¬ isName argument.name then
    Action.warn ('\x60' :: text ++ "': not a valid identifier")
    return false
  let name := argument.name
  let old := ((← get).lookup? name).getD {}
  if old.readOnly ∧ argument.value.isSome then
    let command := (← get).command
    let isBrief : Bool := command = some "export".toList || command = some "readonly".toList
    if isBrief then Action.warnAs none (name ++ ": readonly variable")
    else Action.warn (name ++ ": readonly variable")
    return false
  if isLocal then
    let isNew := (← get).locals.head?.all fun frame ↦ !frame.any (·.1 = name)
    Parameters.keepLocal name
    if isNew then modify (·.setOwn name {})
  if properties.given.contains 'n' then return ← refer argument true isLocal
  if properties.taken.contains 'n' then return ← refer argument false isLocal
  modify fun state ↦
    state.setVariable name (properties.apply ((state.lookup? name).getD {}))
  give argument
  if properties.given.contains 'r' then
    modify fun state ↦
      state.setVariable name { (state.lookup? name).getD {} with readOnly := true }
  return true

/-- Declares parameters one after another. The result is the exit status. -/
def declareAll (properties : Properties) (isLocal : Bool) : List Text → Nat → Action Nat
  | [], status => return status
  | argument :: rest, status => do
    let went ← declareOne properties isLocal argument
    declareAll properties isLocal rest (if went then status else 1)

/-- Declares parameters, or shows what was declared. -/
def declare (arguments : List Text) : Action Nat := do
  let (properties, names) ←
    readProperties "aAfFgiIlnrtuxp" (arguments.length + 1) arguments {}
  let asks (letter : Char) : Bool := properties.given.contains letter
  if asks 'f' ∨ asks 'F' then
    if asks 'x' ∧ ¬ names.isEmpty then return ← exportFunctions true names 0
    showFunctions (asks 'F') (fun entry ↦ !asks 'x' || entry.exported) names
  else if names.isEmpty then
    list fun entry ↦
      (!asks 'x' || entry.exported) && (!asks 'r' || entry.readOnly) &&
        (!asks 'n' || entry.isReference) && (!asks 'i' || entry.isInteger) && (!asks 'A' || entry.value.isTable) &&
        (!asks 'a' || entry.value.hasItems && !entry.value.isTable)
  else if asks 'p' then show_ names
  else declareAll properties ((← get).depth ≠ 0 && !asks 'g') names 0

/-- Makes parameters the function's own. -/
def local_ (arguments : List Text) : Action Nat := do
  if (← get).depth = 0 then
    Action.warn "can only be used in a function"
    return 1
  let (properties, names) ← readProperties "aAfFgiIlnrtux" (arguments.length + 1) arguments {}
  declareAll properties true names 0

/-- Shows the arguments that are assignments. -/
def trace (arguments : List Text) : Action Unit := do
  for text in arguments do
    match Argument.read text with
    | { name, value := some value, .. } => Trace.showPlain (name ++ '=' :: Trace.quotedValue value)
    | _ => pure ()

/-- Gives parameters to programs, or no longer. -/
def export_ (arguments : List Text) : Action Nat := do
  let (options, names) ← Arguments.options "pfn" arguments
  let has (letter : Char) : Bool := options.any (·.1 = letter)
  if has 'f' ∧ (names.isEmpty ∨ has 'p') then showFunctions false (·.exported) names
  else if names.isEmpty ∨ has 'p' then list (·.exported)
  else if has 'f' then exportFunctions (!has 'n') names 0
  else
    trace names
    declareAll (if has 'n' then { taken := ['x'] } else { given := ['x'] }) false names 0

/-- Keeps parameters as they are. -/
def readonly_ (arguments : List Text) : Action Nat := do
  let (options, names) ← Arguments.options "paAf" arguments
  if names.isEmpty ∨ options.any (·.1 = 'p') then list (·.readOnly)
  else
    trace names
    declareAll { given := 'r' :: options.map Prod.fst } false names 0

/-- Removes parameters, items of them or functions. -/
def unset (arguments : List Text) : Action Nat := do
  let (options, names) ← Arguments.options "fvn" arguments
  let has (letter : Char) : Bool := options.any (·.1 = letter)
  if has 'f' ∧ has 'v' then
    Action.warn "cannot simultaneously unset a function and a variable"
    return 1
  let mut status := 0
  for text in names do
    let state ← get
    let argument := Argument.read (if has 'n' then text else state.meant text)
    let name := argument.name
    let old? := state.own? name
    if has 'n' then set (if old?.any (·.isReference) then state.erase name else state)
    else if has 'f' then set { state with functions := state.functions.filter (·.1 ≠ text) }
    else if ¬ isName name ∨ argument.value.isSome then
      if has 'v' then
        Action.warn ('\x60' :: text ++ "': not a valid identifier")
        status := 1
    else if old?.any (·.readOnly) then
      Action.warn (name ++ ": cannot unset: readonly variable")
      status := 1
    else
      match argument.index, old? with
      | some index, some entry =>
        if index = ['@'] ∨ index = ['*'] then set (state.erase name)
        else
          let key ← Expand.keyOf entry.value index
          modify (·.setVariable name { entry with value := entry.value.eraseItem key })
      | some _, none => pure ()
      | none, some _ =>
        set (state.erase name)
        if name = "PATH".toList then modify fun state ↦ { state with located := [] }
      | none, none =>
        if ¬ has 'v' then set { state with functions := state.functions.filter (·.1 ≠ name) }
  return status

end Declare

end AlignmentTally.Shell
