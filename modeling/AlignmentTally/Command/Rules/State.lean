import AlignmentTally.Command.Rules.Parser
import AlignmentTally.Command.Rules.Value
import AlignmentTally.Command.Work
import Std.Data.HashMap

/-!
# The state of rules at work

What rules work on: values by name, arrays, the record and its fields, and the files and commands
that are read and written.
-/

namespace AlignmentTally.Command.Rules

open Machine

/-- What a name stands for. -/
inductive Cell where
  /-- A value. -/
  | value (value : Value)
  /-- An array, by its number. -/
  | array (number : Nat)
  deriving Inhabited

/-- An array: the values by key, each with the time at which it was added. -/
abbrev Table := Std.HashMap Text (Nat × Value)

/-- A file, or the output of a command, that is read record by record. -/
structure Source where
  /-- The stream. -/
  stream : Nat
  /-- The command whose output it is. -/
  process : Option Nat
  /-- What was read and not taken. -/
  ahead : Text := []
  /-- Whether it was read to its end. -/
  isEnded : Bool := false

/-- A file, or the input of a command, that is written. -/
structure Sink where
  /-- The stream. -/
  stream : Nat
  /-- The command whose input it is. -/
  process : Option Nat
  /-- What is to be written, the last piece first. -/
  pieces : List Text := []

/-- Why rules do not go on where they are. -/
inductive Stop where
  | break_
  | continue_
  | next
  | nextFile
  | exit
  | return_ (value : Value)
  /-- The whole command ends with an exit status. -/
  | failed (status : Nat)
  deriving Inhabited

/-- The state. -/
structure State where
  /-- The command. -/
  session : Session
  /-- What the names of the program stand for. -/
  globals : Std.HashMap Text Cell := {}
  /-- What the names of the functions that were called stand for, the last one first. -/
  frames : List (List (Text × Cell)) := []
  /-- The arrays. -/
  arrays : Std.HashMap Nat Table := {}
  /-- The number of arrays that were ever made, and of elements. -/
  count : Nat := 0
  /-- The record. -/
  record : Text := []
  /-- The fields of the record, once they were asked for. -/
  fields : Option (Array Text) := none
  /-- Whether the record is to be made anew from its fields. -/
  isStale : Bool := false
  /-- The file of the input that is read. -/
  input : Option Source := none
  /-- The next argument that names a file. -/
  argument : Nat := 1
  /-- Whether an argument named a file. -/
  hasFile : Bool := false
  /-- Whether the input was read to its end. -/
  isInputEnded : Bool := false
  /-- The files and commands that are read, each under its name. -/
  sources : List (Text × Source) := []
  /-- The files and commands that are written, each under its name. -/
  sinks : List (Text × Sink) := []
  /-- The rules whose ranges have begun, by their place. -/
  ranges : List Nat := []
  /-- The expressions that were read before, by their text. -/
  regexes : Std.HashMap Text Regex := {}
  /-- The exit status. -/
  status : Nat := 0
  /-- The numbers by chance: what the next one is made from, and the first one. -/
  seed : Nat × Float := (1, 0)

/-- What rules do. -/
abbrev Act := Routine State Stop

namespace Act

/-- Does the work of a command. -/
def lift {α : Type} (work : Work α) : Act α := fun state failed done ↦
  work state.session (fun status session ↦ failed (.failed status) { state with session })
    fun a session ↦ done a { state with session }

/-- Ends with a complaint. -/
def fail {α : Type} (words : Text) : Act α := do
  let name := (← get).session.name
  let _ ← Routine.write 2 (name ++ ": ".toList ++ words ++ ['\n'])
  throw (.failed 2)

/-! ### Names -/

/-- What a name stands for. -/
def cell? (name : Text) : Act (Option Cell) := do
  let state ← get
  match state.frames.head?.bind (·.lookup name) with
  | some cell => return some cell
  | none => return state.globals[name]?

/-- Sets what a name stands for. -/
def setCell (name : Text) (cell : Cell) : Act Unit :=
  modify fun state ↦
    match state.frames with
    | frame :: frames =>
      if (frame.lookup name).isSome then
        let frame := frame.map fun (other, old) ↦
          if other = name then (other, cell) else (other, old)
        { state with frames := frame :: frames }
      else { state with globals := state.globals.insert name cell }
    | [] => { state with globals := state.globals.insert name cell }

/-- The value of a name of the program itself. -/
def global (name : String) : Act Value := do
  match (← get).globals[name.toList]? with
  | some (.value value) => return value
  | _ => return .unset

/-- Sets the value of a name of the program itself. -/
def setGlobal (name : String) (value : Value) : Act Unit :=
  modify fun state ↦ { state with globals := state.globals.insert name.toList (.value value) }

/-- The format for numbers that become texts. -/
def format : Act Text := return (← global "CONVFMT").toText []

/-- A value as a text. -/
def textOf (value : Value) : Act Text := do
  match value with
  | .number x => return Value.write (← format) x
  | value => return value.toText []

/-- The value of a special name as a text. -/
def special (name : String) : Act Text := do
  let value ← global name
  textOf value

/-! ### Arrays -/

/-- A new array. -/
def newArray : Act Nat := do
  let number := (← get).count
  modify fun state ↦
    { state with count := number + 1, arrays := state.arrays.insert number {} }
  return number

/-- The array that a name stands for. -/
def arrayOf (name : Text) : Act Nat := do
  match ← cell? name with
  | some (.array number) => return number
  | some (.value .unset) | none =>
    let number ← newArray
    setCell name (.array number)
    return number
  | some (.value _) => fail ("line 1: illegal reference to variable " ++ name)

/-- The elements of an array. -/
def table (number : Nat) : Act Table := return ((← get).arrays[number]?).getD {}

/-- Sets an element of an array. -/
def setElement (number : Nat) (key : Text) (value : Value) : Act Unit :=
  modify fun state ↦
    let table := (state.arrays[number]?).getD {}
    -- the array is taken out of the state while it is changed
    let state := { state with arrays := state.arrays.insert number {} }
    let time := ((table[key]?).map Prod.fst).getD state.count
    { state with
      count := state.count + 1
      arrays := state.arrays.insert number (table.insert key (time, value)) }

/-- An element of an array, which is added if it was not there. -/
def element (number : Nat) (key : Text) : Act Value := do
  match (← table number)[key]? with
  | some (_, value) => return value
  | none =>
    setElement number key .unset
    return .unset

/-- Spreads keys over lists. -/
def spread (key : Text) : Nat :=
  key.foldl (fun n c ↦ ((n ^^^ c.toNat) * 16777619) % 4294967296) 2166136261

/-- The lists over which the keys of an array of some size are spread. -/
def listCount (size : Nat) : Nat := if size ≤ 768 then 64 else 64 * Nat.nextPowerOfTwo (size / 768 + 1)

/-- The keys of an array, list by list, the newest ones of a list first. -/
def keysOf (number : Nat) : Act (List Text) := do
  let all := (← table number).toList
  let lists := listCount all.length
  let before (a b : Nat × Nat × Text) : Bool :=
    a.1 < b.1 || a.1 = b.1 && decide (b.2.1 ≤ a.2.1)
  let placed := all.map fun (key, time, _) ↦ (spread key % lists, time, key)
  return (placed.mergeSort before).map (·.2.2)

/-! ### Expressions -/

/-- The expression that a text writes. -/
def regexOf (text : Text) : Act Regex := do
  match (← get).regexes[text]? with
  | some regex => return regex
  | none =>
    match readRegex text with
    | .ok regex =>
      modify fun state ↦ { state with regexes := state.regexes.insert text regex }
      return regex
    | .error words => fail words

/-- The pieces of a text between the fits of an expression. Empty fits do not count. -/
def splitBy (regex : Regex) : Nat → Regex.Place → Regex.Place → List Text → List Text
  | 0, start, _, pieces => (start.rest :: pieces).reverse
  | rounds + 1, start, place, pieces =>
    match regex.search {} place with
    | none => (start.rest :: pieces).reverse
    | some fit =>
      if fit.start.index = fit.finish.index then
        match fit.start.rest with
        | [] => (start.rest :: pieces).reverse
        | _ => splitBy regex rounds start (fit.start.forward 1) pieces
      else
        let piece := start.rest.take (fit.start.index - start.index)
        splitBy regex rounds fit.finish fit.finish (piece :: pieces)

/-- Whether a character separates words. -/
def isSpace (c : Char) : Bool := " \t\n\r\x0b\x0c".toList.contains c

/-- The words of a text. -/
def words : Nat → Text → List Text
  | 0, _ => []
  | rounds + 1, text =>
    let text := text.dropWhile isSpace
    if text.isEmpty then []
    else
      let word := text.takeWhile (!isSpace ·)
      word :: words rounds (text.drop word.length)

/-- The parts of a text that a separator leaves. -/
def split (separator text : Text) : Act (List Text) := do
  match separator, text with
  | _, [] => return []
  | [], text => return text.map fun c ↦ [c]
  | [' '], text => return words (text.length + 1) text
  | [c], text => if c = '\\' then return Text.splitOn c text else return Text.splitOn c text
  | separator, text =>
    let regex ← regexOf separator
    return splitBy regex (text.length + 1) ⟨0, none, text⟩ ⟨0, none, text⟩ []

/-! ### The record -/

/-- The separator of fields. Lines end fields, too, where empty lines end records. -/
def splitRecord (text : Text) : Act (List Text) := do
  let separator ← special "FS"
  let lines := (← special "RS").isEmpty && separator ≠ [' ']
  if lines then
    let pieces ← (Text.splitOn '\n' text).mapM (split separator)
    return pieces.flatten
  else split separator text

/-- The fields of the record. -/
def fields : Act (Array Text) := do
  match (← get).fields with
  | some fields => return fields
  | none =>
    let fields := (← splitRecord (← get).record).toArray
    modify ({ · with fields := some fields })
    setGlobal "NF" (.ofNat fields.size)
    return fields

/-- The record, made anew from its fields if need be. -/
def record : Act Text := do
  let state ← get
  if state.isStale then
    let separator ← special "OFS"
    let text := Text.join separator (state.fields.getD #[]).toList
    modify ({ · with record := text, isStale := false })
    return text
  else return state.record

/-- Sets the record. -/
def setRecord (text : Text) : Act Unit :=
  modify ({ · with record := text, fields := none, isStale := false })

/-- The greatest number of a field. -/
def maxField : Nat := 32767

/-- Sets the number of fields. -/
def setFieldCount (count : Nat) : Act Unit := do
  let old ← fields
  let new := old.extract 0 count ++ Array.replicate (count - old.size) []
  modify ({ · with fields := some new, isStale := true })
  setGlobal "NF" (.ofNat count)

/-- Sets a field. -/
def setField (number : Nat) (value : Text) : Act Unit := do
  if number = 0 then setRecord value
  else
    let old ← fields
    if old.size < number then setFieldCount number
    let new ← fields
    modify ({ · with fields := some (new.setIfInBounds (number - 1) value), isStale := true })

/-- A field. -/
def field (number : Nat) : Act Value := do
  if number = 0 then return .ofInput (← record)
  else
    match (← fields)[number - 1]? with
    | some text => return .ofInput text
    | none => return .unset

/-! ### Output -/

/-- The number of octets that are collected before they are written to a file. -/
def room : Nat := 4096

/-- Writes what was collected for a file or a command. -/
def flushSink (sink : Sink) : Act Sink := do
  if sink.pieces.isEmpty then return sink
  let _ ← Routine.write sink.stream sink.pieces.reverse.flatten
  return { sink with pieces := [] }

/-- Writes all that was collected. -/
def flushAll : Act Unit := do
  lift Work.flush
  let sinks ← (← get).sinks.mapM fun (name, sink) ↦ do return (name, ← flushSink sink)
  modify ({ · with sinks })

/-- Starts a command with one of its streams led to a pipe: which one, and the ends of the pipe for
the command and for this process. -/
def startShell (command : Text) (stream theirs ours : Nat) : Act Nat := do
  let values := (← get).session.values
  let start : Act Unit := do
    let _ ← Routine.lead stream theirs
    Routine.close theirs
    Routine.close ours
    let _ ← Routine.exec "/bin/sh" ["sh".toList, "-c".toList, command] values
    return ()
  Routine.fork start (fun _ _ ↦ .exit 127) fun _ _ ↦ .exit 127

/-- The file or command that is written under a name. -/
def sinkOf (kind : OutputKind) (name : Text) : Act Sink := do
  match (← get).sinks.lookup name with
  | some sink => return sink
  | none =>
    let sink : Sink ←
      match kind with
      | .command => do
        flushAll
        let (output, input) ← Routine.pipe
        let process ← startShell name 0 output input
        Routine.close output
        pure { stream := input, process := some process }
      | kind => do
        let access : Access := if kind = .append then .append else .replace
        match ← Routine.openFile name access with
        | .ok stream => pure { stream, process := none }
        | .error error =>
          fail ("cannot open \"" ++ name ++ "\" for output (".toList ++ error.words.toList ++
            [')'])
    modify fun state ↦ { state with sinks := state.sinks ++ [(name, sink)] }
    return sink

/-- Writes a text to a file or a command. -/
def putTo (kind : OutputKind) (name text : Text) : Act Unit := do
  if kind ≠ .command ∧ (name = "/dev/stdout".toList ∨ name = ['-']) then lift (Work.put text)
  else if kind ≠ .command ∧ name = "/dev/stderr".toList then
    let _ ← Routine.write 2 text
    return ()
  else
    let sink ← sinkOf kind name
    let sink := { sink with pieces := text :: sink.pieces }
    let size := (sink.pieces.map List.length).foldl (· + ·) 0
    let sink ← if room ≤ size then flushSink sink else pure sink
    modify fun state ↦
      { state with
        sinks := state.sinks.map fun (other, old) ↦
          if other = name then (other, sink) else (other, old) }

/-- The number that a process ended with. -/
def waitFor (process : Nat) : Act Nat := do
  match ← Routine.wait (some process) .endless with
  | .ended _ (.exited code) => return code
  | .ended _ (.killed signal _) => return 256 + signal
  | _ => return 0

/-- Closes what is read or written under a name. -/
def close (name : Text) : Act Float := do
  let state ← get
  let mut result : Float := -1
  match state.sinks.lookup name with
  | some sink =>
    let sink ← flushSink sink
    Routine.close sink.stream
    modify fun state ↦ { state with sinks := state.sinks.filter (·.1 ≠ name) }
    match sink.process with
    | some process =>
      let status ← waitFor process
      result := Float.ofNat status
    | none => result := 0
  | none => pure ()
  match state.sources.lookup name with
  | some source =>
    Routine.close source.stream
    modify fun state ↦ { state with sources := state.sources.filter (·.1 ≠ name) }
    match source.process with
    | some process =>
      let status ← waitFor process
      result := Float.ofNat status
    | none => result := 0
  | none => pure ()
  return result

/-- Closes everything at the end. -/
def closeAll : Act Unit := do
  for (_, sink) in (← get).sinks do
    let sink ← flushSink sink
    Routine.close sink.stream
  for (_, sink) in (← get).sinks do
    match sink.process with
    | some process =>
      let _ ← waitFor process
      pure ()
    | none => pure ()

/-! ### Input -/

/-- Reads on; the result has nothing new at the end. -/
def fill (source : Source) : Act Source := do
  match ← Routine.read source.stream 4096 with
  | .ok [] => return { source with isEnded := true }
  | .ok text => return { source with ahead := source.ahead ++ text }
  | .error error => fail ("read error (" ++ error.words.toList ++ [')'])

/-- Takes the text up to a character, if anything is left. -/
def takeUntil (mark : Char) : Nat → Source → List Text → Act (Option Text × Source)
  | 0, source, _ => return (none, source)
  | rounds + 1, source, pieces => do
    let piece := source.ahead.takeWhile (· ≠ mark)
    match source.ahead.drop piece.length with
    | _ :: ahead => return (some (piece :: pieces).reverse.flatten, { source with ahead })
    | [] =>
      let pieces := if piece.isEmpty then pieces else piece :: pieces
      let source := { source with ahead := [] }
      let finished := (if pieces.isEmpty then none else some pieces.reverse.flatten, source)
      if source.isEnded then return finished
      let source ← fill source
      if source.isEnded then return finished.map id fun _ ↦ source
      else takeUntil mark rounds source pieces

/-- Reads to the end. -/
def fillAll : Nat → Source → Act Source
  | 0, source => return source
  | rounds + 1, source => do
    if source.isEnded then return source
    let source ← fill source
    fillAll rounds source

/-- The place of the first empty line in a text: the lines before it, and what follows the empty
lines. -/
def paragraph : Text → Text → Text × Text
  | '\n' :: '\n' :: rest, taken => (taken.reverse, rest.dropWhile (· = '\n'))
  | c :: rest, taken => paragraph rest (c :: taken)
  | [], taken => ((if taken.head? = some '\n' then taken.drop 1 else taken).reverse, [])

/-- Takes a record, if anything is left. -/
def takeRecord (source : Source) : Act (Option Text × Source) := do
  match ← special "RS" with
  | [mark] => takeUntil mark endless source []
  | [] =>
    let source ← fillAll endless source
    let text := source.ahead.dropWhile (· = '\n')
    if text.isEmpty then return (none, { source with ahead := [] })
    else
      let (record, ahead) := paragraph text []
      return (some record, { source with ahead })
  | separator =>
    let source ← fillAll endless source
    if source.ahead.isEmpty then return (none, source)
    let regex ← regexOf separator
    match regex.find? {} source.ahead with
    | some fit =>
      if fit.start.index = fit.finish.index then
        return (some source.ahead, { source with ahead := [] })
      let record := source.ahead.take fit.start.index
      return (some record, { source with ahead := fit.finish.rest })
    | none =>
      let record := if source.ahead.getLast? = some '\n' then source.ahead.dropLast
        else source.ahead
      return (some record, { source with ahead := [] })

/-- Sets a value that an argument gives, as in `name=value`. -/
def assignArgument (argument : Text) : Act Unit := do
  let name := argument.takeWhile (· ≠ '=')
  let value := argument.drop (name.length + 1)
  let value := Value.ofInput (Token.unescape value.length value)
  setGlobal (String.ofList name) value
  if name = "NF".toList then setFieldCount value.toNumber.toUInt64.toNat

/-- Whether an argument gives a value. -/
def isAssignment (argument : Text) : Bool :=
  let name := argument.takeWhile (· ≠ '=')
  name.length < argument.length && name.head?.any Token.beginsName && name.all Token.isNameChar

/-- Opens the next file of the input, if there is one. -/
def openNext : Nat → Act Bool
  | 0 => return false
  | rounds + 1 => do
    let state ← get
    let count := (← global "ARGC").toNumber.toUInt64.toNat
    if count ≤ state.argument then
      if state.hasFile then return false
      modify ({ · with hasFile := true, input := some { stream := 0, process := none } })
      return true
    modify ({ · with argument := state.argument + 1 })
    let arguments ← arrayOf "ARGV"
    let argument ← do
      match (← table arguments)[Text.ofNat state.argument]? with
      | some (_, value) => textOf value
      | none => pure []
    if argument.isEmpty then openNext rounds
    else if isAssignment argument then
      assignArgument argument
      openNext rounds
    else
      setGlobal "FILENAME" (.text argument)
      setGlobal "FNR" (.number 0)
      if argument = ['-'] ∨ argument = "/dev/stdin".toList then
        modify ({ · with hasFile := true, input := some { stream := 0, process := none } })
        return true
      match ← Routine.openFile argument .read with
      | .ok stream =>
        modify ({ · with hasFile := true, input := some { stream, process := none } })
        return true
      | .error error =>
        fail ("cannot open \"" ++ argument ++ "\" (".toList ++ error.words.toList ++ [')'])

/-- The next record of the input, if there is one. -/
def nextRecord : Nat → Act (Option Text)
  | 0 => return none
  | rounds + 1 => do
    if (← get).isInputEnded then return none
    match (← get).input with
    | none =>
      if ← openNext endless then nextRecord rounds
      else
        modify ({ · with isInputEnded := true })
        return none
    | some source =>
      match ← takeRecord source with
      | (some record, source) =>
        modify ({ · with input := some source })
        return some record
      | (none, source) =>
        if source.stream ≠ 0 then Routine.close source.stream
        modify ({ · with input := none })
        nextRecord rounds

/-- Counts a record. -/
def countRecord (ofFile : Bool) : Act Unit := do
  let total ← global "NR"
  setGlobal "NR" (.number (total.toNumber + 1))
  if ofFile then
    let count ← global "FNR"
    setGlobal "FNR" (.number (count.toNumber + 1))

/-- Reads a line from a file or a command: nothing at the end, or if it cannot be opened. -/
def readFrom (isCommand : Bool) (name : Text) : Act (Except Unit (Option Text)) := do
  let source? : Option Source ←
    match (← get).sources.lookup name with
    | some source => pure (some source)
    | none =>
      if isCommand then do
        flushAll
        let (output, input) ← Routine.pipe
        let process ← startShell name 1 input output
        Routine.close input
        pure (some { stream := output, process := some process })
      else if name = ['-'] ∨ name = "/dev/stdin".toList then
        pure (some { stream := 0, process := none })
      else do
        match ← Routine.openFile name .read with
        | .ok stream => pure (some { stream, process := none })
        | .error _ => pure none
  match source? with
  | none => return .error ()
  | some source =>
    let (record?, source) ← takeRecord source
    modify fun state ↦
      { state with sources := (name, source) :: state.sources.filter (·.1 ≠ name) }
    return .ok record?

end Act

end AlignmentTally.Command.Rules
