import AlignmentTally.Shell.Directory

/-!
# Directories to go back to

In the extended dialect a shell keeps directories to which it can go back. Together with its own
directory in front of them they are a list, whose members are named by their distance from one of
its two ends.
-/

namespace AlignmentTally.Shell

open Machine

namespace Stack

/-- The directories of a shell, its own one first. -/
def all (state : State) : List Text := state.directory :: state.stack

/-- A directory with a tilde for the home directory. -/
def brief (state : State) (path : Text) : Text :=
  match state.value? "HOME" with
  | some home =>
    let rest := path.drop home.length
    if 1 < home.length ∧ path.take home.length = home ∧ (rest.isEmpty ∨ rest.head? = some '/') then
      '~' :: rest
    else path
  | none => path

/-- A place in the list that an argument names, and whether it is counted from the front. -/
inductive Place where
  /-- The argument has the form of a place, and names it by a distance from one of the ends. -/
  | at (fromFront : Bool) (distance : Nat)
  /-- The argument has the form of a place, but no number. -/
  | wrong
  /-- The argument has another form. -/
  | other

/-- The place that an argument names. -/
def place (argument : Text) : Place :=
  let read (fromFront : Bool) (digits : Text) : Place :=
    match Text.toNat? digits with
    | some n => .at fromFront n
    | none => .wrong
  match argument with
  | '+' :: digits => read true digits
  | '-' :: digits => read false digits
  | _ => .other

/-- The distance from the front of a place in a list with some members, if there is one. -/
def indexOf (length : Nat) (fromFront : Bool) (distance : Nat) : Option Nat :=
  if length ≤ distance then none
  else some (if fromFront then distance else length - 1 - distance)

/-- The directory at a place. -/
def directoryAt? (state : State) (fromFront : Bool) (distance : Nat) : Option Text :=
  (indexOf (all state).length fromFront distance).bind fun index ↦ (all state)[index]?

/-- Complains that there is no such place. -/
def refusePlace (isEmpty : Bool) (written : Text) : Action Nat := do
  Action.warn <|
    if isEmpty then "directory stack empty"
    else written ++ ": directory stack index out of range"
  return 1

/-- How the list is shown. -/
structure Form where
  /-- Whether home directories are written in full. -/
  isLong : Bool := false
  /-- Whether each directory has a line of its own. -/
  onLines : Bool := false
  /-- Whether the directories are numbered. -/
  isNumbered : Bool := false

/-- A directory with a number as it is shown. -/
def shown (state : State) (form : Form) (index : Nat) (path : Text) : Text :=
  let path := if form.isLong then path else brief state path
  if form.isNumbered then Text.padLeft ' ' 2 (Text.ofNat index) ++ ' ' :: ' ' :: path else path

/-- Shows the list. -/
def showAll (form : Form) : Action Nat := do
  let state ← get
  let between := if form.onLines ∨ form.isNumbered then ['\n'] else [' ']
  Output.finish 0 (Text.join between ((all state).mapIdx (shown state form)) ++ ['\n'])

/-- Shows the list, or the directory at a place. -/
def showChosen (form : Form) : Option (Bool × Nat × Text) → Action Nat
  | none => showAll form
  | some (fromFront, distance, written) => do
    let state ← get
    match indexOf (all state).length fromFront distance with
    | none => refusePlace state.stack.isEmpty written
    | some index =>
      Output.finish 0 (shown state form index ((all state)[index]?.getD []) ++ ['\n'])

/-- Empties the list. -/
def clear : Action Nat := do
  modify fun state ↦ { state with stack := [] }
  return 0

/-- Shows the list, or the directory at a place, or empties the list. -/
def list : List Text → Form → Option (Bool × Nat × Text) → Bool → Action Nat
  | [], form, chosen, clears => if clears then clear else showChosen form chosen
  | argument :: rest, form, chosen, clears =>
    match String.ofList argument with
    | "-l" => list rest { form with isLong := true } chosen clears
    | "-c" => list rest form chosen true
    | "-v" => list rest { form with isNumbered := true } chosen clears
    | "-p" => list rest { form with onLines := true } chosen clears
    | "--" => if clears then clear else showChosen form chosen
    | _ =>
      match place argument with
      | .at fromFront distance =>
        list rest form (some (fromFront, distance, argument.drop 1)) clears
      | .wrong => Arguments.misuse (argument ++ ": invalid number")
      | .other => Arguments.misuse (argument ++ ": invalid option")

/-- Goes into a directory. The result tells whether that was done. -/
def goTo (path : Text) : Action Bool := return (← Directory.change [path]) = 0

/-- Makes a list of directories the one of the shell, and goes into the first of them if asked. The
list is shown when that is done. -/
def become (stays : Bool) : List Text → Action Nat
  | [] => return 0
  | first :: rest => do
    modify fun state ↦ { state with stack := rest }
    if stays then showAll {}
    else if ← goTo first then showAll {}
    else return 1

/-- Goes into a directory and keeps the one before, or goes to one of those kept. -/
def push : List Text → Bool → Option (Bool × Nat × Text) → Action Nat
  | [], _, none => return 0
  | [], stays, some (fromFront, distance, written) => do
    let state ← get
    match indexOf (all state).length fromFront distance with
    | none => refusePlace state.stack.isEmpty written
    | some 0 => return 0
    | some index => become stays ((all state).drop index ++ (all state).take index)
  | argument :: rest, stays, chosen => do
    let state ← get
    let enter (path : Text) (others : List Text) : Action Nat := do
      if stays then
        modify fun state ↦ { state with stack := path :: state.stack }
        showAll {}
      else if (← Directory.change (path :: others)) = 0 then
        modify fun after ↦ { after with stack := state.directory :: after.stack }
        showAll {}
      else return 1
    match String.ofList argument with
    | "-n" => push rest true chosen
    | "--" =>
      match rest with
      | path :: others => enter path others
      | [] => return 0
    | "-" => enter argument rest
    | _ =>
      match place argument with
      | .at fromFront distance =>
        if (indexOf (all state).length fromFront distance).isNone then
          refusePlace state.stack.isEmpty argument
        else push rest stays (some (fromFront, distance, argument))
      | .wrong => Arguments.misuse (argument ++ ": invalid number")
      | .other => enter argument rest

/-- Goes into a directory and keeps the one before; without arguments, changes places with the last
one kept. -/
def pushCommand (arguments : List Text) : Action Nat := do
  match arguments, (← get).stack with
  | [], [] =>
    Action.warn "no other directory"
    return 1
  | [], top :: rest =>
    let before := (← get).directory
    modify fun state ↦ { state with stack := before :: rest }
    if ← goTo top then showAll {} else return 1
  | arguments, _ => push arguments false none

/-- Drops the directory at a place, by default the first one, from which the shell goes to the last
one that was kept. -/
def drop (stays : Bool) (chosen : Option (Bool × Nat × Text)) : Action Nat := do
  let state ← get
  let (fromFront, distance, written) := chosen.getD (true, 0, [])
  match state.stack, indexOf (all state).length fromFront distance with
  | [], _ | _, none => refusePlace state.stack.isEmpty written
  | top :: rest, some 0 =>
    if ¬ stays then
      if ¬ (← goTo top) then return 1
    modify fun state ↦ { state with stack := rest }
    showAll {}
  | stack, some index =>
    set { state with stack := stack.eraseIdx (index - 1) }
    showAll {}

/-- Goes back to the last directory that was kept, or drops the one at a place. -/
def pop : List Text → Bool → Option (Bool × Nat × Text) → Action Nat
  | [], stays, chosen => drop stays chosen
  | argument :: rest, stays, chosen => do
    match String.ofList argument with
    | "-n" => pop rest true chosen
    | "--" => drop stays chosen
    | _ =>
      match place argument with
      | .at fromFront distance => pop rest stays (some (fromFront, distance, argument))
      | .wrong => Arguments.misuse (argument ++ ": invalid number")
      | .other =>
        if argument.isEmpty then drop stays chosen
        else Arguments.misuse (argument ++ ": invalid argument")

end Stack

end AlignmentTally.Shell
