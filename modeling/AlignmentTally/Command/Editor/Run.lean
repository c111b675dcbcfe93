import AlignmentTally.Command.Editor.Reader
import AlignmentTally.Command.Options

/-!
# The stream editor

Line after line of the input is taken, changed by the commands of a script, and written. What a
command asks to be written after the line waits until the line itself is written.
-/

namespace AlignmentTally.Command.Editor

open Machine

/-- What is written after a line. -/
inductive Appended where
  /-- A text. -/
  | text (text : Text)
  /-- A file. -/
  | file (path : Text)

/-- Files that are read line by line. -/
structure Source where
  /-- The files that were not opened. -/
  paths : List Text
  /-- The stream of the file that is read. -/
  stream : Option Nat := none
  /-- The name of the file that is read. -/
  name : Text := ['-']
  /-- What was read and not taken. -/
  ahead : Text := []

/-- The options of a run. -/
structure Style where
  /-- Whether lines are written only if a command says so. -/
  isQuiet : Bool
  /-- What ends a line. -/
  lineEnd : Char
  /-- Whether each file has its own last line. -/
  isSeparate : Bool
  /-- The width of lines that are spelled out. -/
  width : Nat

/-- A run of the editor. -/
structure State where
  /-- The line. -/
  line : Text := []
  /-- Whether the line was ended in the input. -/
  isEnded : Bool := true
  /-- The kept text. -/
  kept : Text := []
  /-- Whether the kept text was ended. -/
  isKeptEnded : Bool := true
  /-- The number of the line. -/
  number : Nat := 0
  /-- Whether something was replaced. -/
  hasReplaced : Bool := false
  /-- The ranges that have begun: the place of the command, and the number of the last line. -/
  ranges : List (Nat × Option Nat) := []
  /-- What is written after the line, the last one first. -/
  appended : List Appended := []
  /-- The expression that was used last. -/
  lastPattern : Option Pattern := none
  /-- The input. -/
  source : Source
  /-- The files that are read by lines, each under its path. -/
  others : List (Text × Source) := []
  /-- The files that are written, each under its path. -/
  outputs : List (Text × Nat) := []
  /-- Whether the last line that was written lacks its end. -/
  lacksEnd : Bool := false
  /-- What was written in place of a file that is edited, the last piece first. -/
  collected : Option (List Text) := none

/-- The work of the editor. -/
abbrev Edit := StateT State Work

namespace Edit

/-- Does what is no matter of the editor alone. -/
def do_ {α : Type} (work : Work α) : Edit α := fun state ↦ do return (← work, state)

/-! ### Output -/

/-- Writes a text. -/
def putRaw (text : Text) : Edit Unit := do
  match (← get).collected with
  | none => do_ (Work.put text)
  | some pieces => modify ({ · with collected := some (text :: pieces) })

/-- Writes a text that begins a line. -/
def put (text : Text) : Edit Unit := do
  if (← get).lacksEnd then
    modify ({ · with lacksEnd := false })
    putRaw ['\n']
  putRaw text

/-- Writes a text as a line, which lacks its end if the input did. -/
def putLine (style : Style) (text : Text) : Edit Unit := do
  put text
  if (← get).isEnded then putRaw [style.lineEnd] else modify ({ · with lacksEnd := true })

/-- Writes a text as a line to a file. -/
def putTo (style : Style) (path text : Text) : Edit Unit := do
  if path = "/dev/stdout".toList then putLine style text
  else
    let ended := if (← get).isEnded then [style.lineEnd] else []
    match (← get).outputs.lookup path with
    | some stream =>
      do_ do
        Work.flush
        let _ ← Routine.write stream (text ++ ended)
        return ()
    | none => return ()

/-! ### Input -/

/-- Reads from the files that are left until there is something to take, in at most some rounds.
The result is whether there is. -/
def fill (mayChange : Bool) : Nat → Source → Edit (Bool × Source)
  | 0, source => return (false, source)
  | rounds + 1, source => do
    if ¬ source.ahead.isEmpty then return (true, source)
    match source.stream with
    | some stream =>
      match ← do_ (Routine.read stream 4096) with
      | .ok [] =>
        do_ (Work.close stream)
        fill mayChange rounds { source with stream := none }
      | .ok text => return (true, { source with ahead := text })
      | .error error =>
        do_ do
          Work.warn ("read error on " ++ source.name ++ ": ".toList ++ error.words.toList)
          Work.leave 4
    | none =>
      match source.paths with
      | [] => return (false, source)
      | path :: paths =>
        if ¬ mayChange then return (false, source)
        match ← do_ (Work.open_ path) with
        | .ok stream =>
          fill mayChange rounds { source with stream := some stream, paths, name := path }
        | .error error =>
          do_ do
            Work.warn ("can't read " ++ path ++ ": ".toList ++ error.words.toList)
            Work.setStatus 2
          fill mayChange rounds { source with paths }

/-- Takes a line from what was read, reading on as need be. -/
def takeLine (lineEnd : Char) : Nat → Source → List Text → Edit (Text × Bool × Source)
  | 0, source, pieces => return (pieces.reverse.flatten, false, source)
  | rounds + 1, source, pieces => do
    let piece := source.ahead.takeWhile (· ≠ lineEnd)
    match source.ahead.drop piece.length with
    | _ :: ahead => return ((piece :: pieces).reverse.flatten, true, { source with ahead })
    | [] =>
      let (isMore, source) ← fill false rounds { source with ahead := [] }
      if isMore then takeLine lineEnd rounds source (piece :: pieces)
      else return ((piece :: pieces).reverse.flatten, false, source)

/-- Whether the line is the last one. -/
def isLast (style : Style) : Edit Bool := do
  let (isMore, source) ← fill (!style.isSeparate) endless (← get).source
  modify ({ · with source })
  return !isMore

/-- Takes the next line of the input, if there is one. The result is the line before and whether
there is a next one. -/
def advance (style : Style) : Edit (Option Text) := do
  let old := (← get).source
  let (isMore, source) ← fill true endless old
  if ¬ isMore then
    modify ({ · with source })
    return none
  let startsAnew := style.isSeparate && source.paths.length < old.paths.length
  let (line, isEnded, source) ← takeLine style.lineEnd endless source []
  modify fun state ↦
    { state with source, isEnded, number := if startsAnew then 1 else state.number + 1 }
  return some line

/-- Writes what waits to be written after the line. -/
def putAppended : Edit Unit := do
  let all := (← get).appended.reverse
  modify ({ · with appended := [] })
  for appended in all do
    match appended with
    | .text text => put text
    | .file path =>
      let text ← do_ do
        match ← Routine.openFile path .read with
        | .error _ => return []
        | .ok stream =>
          let answer ← Routine.readAll stream
          Work.close stream
          return answer.toOption.getD []
      put text

/-! ### Addresses -/

/-- The expression that is meant. -/
def patternOf (pattern : Option Pattern) : Edit Pattern := do
  match pattern.or (← get).lastPattern with
  | some pattern =>
    modify ({ · with lastPattern := some pattern })
    return pattern
  | none => do_ (Work.fail "-e expression #1, char 0: no previous regular expression" 1)

/-- Whether an address selects the line. -/
def selects (style : Style) : Address → Edit Bool
  | .line n => return (← get).number = n
  | .every first step => do
    let number := (← get).number
    return if step = 0 then number = first else first ≤ number && (number - first) % step = 0
  | .last => isLast style
  | .fitting pattern => do
    let pattern ← patternOf pattern
    return (pattern.regex.find? pattern.manner (← get).line).isSome

/-- Begins or ends the range of a command. -/
def setRange (place : Nat) (range : Option (Option Nat)) : Edit Unit :=
  modify fun state ↦
    let others := state.ranges.filter (·.1 ≠ place)
    { state with ranges := range.toList.map (fun last ↦ (place, last)) ++ others }

/-- Whether the line lies in the range of a command that has begun. -/
def continues (style : Style) (place : Nat) (last : RangeEnd) (known : Option Nat) : Edit Bool := do
  match known with
  | some n =>
    let number := (← get).number
    if n ≤ number then setRange place none
    return number ≤ n
  | none =>
    match last with
    | .address address =>
      if ← selects style address then setRange place none
      return true
    | _ => return true

/-- Begins a range at the line, unless it ends there. -/
def begin_ (place : Nat) (last : RangeEnd) : Edit Unit := do
  let number := (← get).number
  let until_ (n : Nat) : Edit Unit := if number < n then setRange place (some (some n)) else return ()
  match last with
  | .address (.line n) => until_ n
  | .address _ => setRange place (some none)
  | .after count => until_ (number + count)
  | .multiple n => if n = 0 then return () else until_ ((number / n + 1) * n)

/-- Whether a command is carried out for the line. -/
def isSelected (style : Style) (place : Nat) (selection : Selection) : Edit Bool := do
  let isInside ←
    match selection.first with
    | none => pure true
    | some first =>
      match selection.last with
      | none => selects style first
      | some last =>
        match (← get).ranges.lookup place with
        | some known => continues style place last known
        | none => do
          if ← selects style first then
            begin_ place last
            pure true
          else pure false
  return isInside ≠ selection.isNegated

/-! ### Replacing -/

/-- Letters written in a way. -/
def recased (recasing : Recasing) (text : Text) : Text :=
  match recasing with
  | .keep => text
  | .upper => text.map Char.toUpper
  | .lower => text.map Char.toLower

/-- What replaces a fit: the pieces, with the way in which letters and the next letter are
written. -/
def replacement (fit : Regex.Fit) : List Piece → Recasing → Recasing → Text
  | [], _, _ => []
  | piece :: pieces, all, one =>
    let written (text : Text) : Text :=
      match text with
      | [] => replacement fit pieces all one
      | c :: rest =>
        let first := if one = .keep then recased all [c] else recased one [c]
        first ++ recased all rest ++ replacement fit pieces all .keep
    match piece with
    | .text text => written text
    | .group number => written (fit.group number)
    | .recase recasing => replacement fit pieces recasing .keep
    | .recaseNext recasing => replacement fit pieces all recasing

/-- Replaces the fits in a text from a place on: the text, and whether there was any. The number of
the next fit and the end of the last one are given. -/
def replaceFrom (pattern : Pattern) (substitution : Substitution) :
    Nat → Regex.Place → Nat → Option Nat → List Text → List Text × Bool
  | 0, place, _, _, written => (place.rest :: written, false)
  | rounds + 1, place, count, lastEnd, written =>
    match pattern.regex.search pattern.manner place with
    | none => (place.rest :: written, false)
    | some fit =>
      let before := place.rest.take (fit.start.index - place.index)
      let isEmpty := fit.start.index = fit.finish.index
      let next (written : List Text) (count : Nat) (lastEnd : Option Nat) :
          List Text × Bool :=
        if isEmpty then
          match fit.finish.rest with
          | [] => (written, false)
          | c :: _ =>
            replaceFrom pattern substitution rounds (fit.finish.forward 1) count lastEnd
              ([c] :: written)
        else replaceFrom pattern substitution rounds fit.finish count lastEnd written
      let finish := some fit.finish.index
      if isEmpty ∧ lastEnd = finish then next (before :: written) count lastEnd
      else if count < substitution.number then
        next (fit.text :: before :: written) (count + 1) finish
      else
        let new := replacement fit substitution.pieces .keep .keep
        if substitution.isGlobal then
          let (written, _) := next (new :: before :: written) (count + 1) finish
          (written, true)
        else (fit.finish.rest :: new :: before :: written, true)

/-- Replaces texts in the line. -/
def substitute (style : Style) (substitution : Substitution) : Edit Unit := do
  let pattern ← patternOf substitution.pattern
  let line := (← get).line
  let (written, isReplaced) :=
    replaceFrom pattern substitution (line.length + 2) ⟨0, none, line⟩ 1 none []
  if isReplaced then
    modify ({ · with line := written.reverse.flatten, hasReplaced := true })
    if substitution.prints then putLine style (← get).line
    match substitution.output with
    | some path => putTo style path (← get).line
    | none => return ()

/-! ### Spelling out -/

/-- A character as it is spelled out. -/
def spelled (c : Char) : Text :=
  match c with
  | '\\' => "\\\\"
  | '\x07' => "\\a"
  | '\x08' => "\\b"
  | '\x0c' => "\\f"
  | '\n' => "\\n"
  | '\r' => "\\r"
  | '\t' => "\\t"
  | '\x0b' => "\\v"
  | c =>
    if ' ' ≤ c ∧ c < '\x7f' then [c]
    else '\\' :: Text.padLeft '0' 3 (Nat.toDigits 8 c.toNat)

/-- Spelled characters in lines of a width; zero stands for no limit. -/
def folded (width : Nat) : List Text → Nat → Text
  | [], _ => ['$', '\n']
  | piece :: pieces, column =>
    if 1 < width ∧ width - 1 < column + piece.length then
      '\\' :: '\n' :: piece ++ folded width pieces piece.length
    else piece ++ folded width pieces (column + piece.length)

/-! ### Commands -/

/-- How it goes on after a command. -/
inductive Next where
  /-- With a command. -/
  | step (place : Nat)
  /-- With the next line, after writing the line unless that is not wanted. -/
  | cycle (prints : Bool)
  /-- From the first command, without a new line. -/
  | again
  /-- Not at all: the run ends, after writing the line or not, with an exit status. -/
  | quit (prints : Bool) (status : Option Nat)

/-- Writes the line and what waits, unless lines are not written by themselves. -/
def finishLine (style : Style) (prints : Bool) : Edit Unit := do
  if prints ∧ ¬ style.isQuiet then putLine style (← get).line
  putAppended

/-- Takes the next line in the middle of a script: the line before is written, if it is not kept. -/
def nextLine (style : Style) (place : Nat) (keepsLine : Bool) : Edit Next := do
  let isLastLine ← do
    let (isMore, source) ← fill true endless (← get).source
    modify ({ · with source })
    pure !isMore
  if isLastLine then return .quit true none
  if keepsLine then putAppended else finishLine style true
  match ← advance style with
  | none => return .quit true none
  | some line =>
    modify fun state ↦
      { state with line := if keepsLine then state.line ++ style.lineEnd :: line else line }
    return .step (place + 1)

/-- Carries out a command. -/
def act (style : Style) (script : Script) (place : Nat) (step : Step) : Edit Next := do
  let onward : Next := .step (place + 1)
  let firstLine (line : Text) : Text := line.takeWhile (· ≠ style.lineEnd)
  match step.action with
  | .nothing | .block _ => return onward
  | .append text =>
    modify fun state ↦ { state with appended := .text text :: state.appended }
    return onward
  | .insert text =>
    put text
    return onward
  | .change text =>
    let isWithin := step.selection.last.isSome && !step.selection.isNegated &&
      ((← get).ranges.lookup place).isSome
    if ¬ isWithin then put text
    return .cycle false
  | .branch when_ label =>
    let replaced := (← get).hasReplaced
    if when_ ≠ .always then modify ({ · with hasReplaced := false })
    let isTaken : Bool :=
      match when_ with
      | .always => true
      | .replaced => replaced
      | .unreplaced => !replaced
    if ¬ isTaken then return onward
    else if label.isEmpty then return .cycle true
    else return .step ((script.labels.lookup label).getD script.steps.size)
  | .delete => return .cycle false
  | .deleteFirst =>
    let line := (← get).line
    if line.contains style.lineEnd then
      modify ({ · with line := line.drop ((firstLine line).length + 1) })
      return .again
    else return .cycle false
  | .recall appends =>
    modify fun state ↦
      if appends then
        { state with
          line := state.line ++ style.lineEnd :: state.kept
          isEnded := state.isEnded || state.isKeptEnded }
      else { state with line := state.kept, isEnded := state.isKeptEnded }
    return onward
  | .keep appends =>
    modify fun state ↦
      if appends then
        { state with
          kept := state.kept ++ style.lineEnd :: state.line
          isKeptEnded := state.isKeptEnded || state.isEnded }
      else { state with kept := state.line, isKeptEnded := state.isEnded }
    return onward
  | .exchange =>
    modify fun state ↦
      { state with
        line := state.kept, kept := state.line
        isEnded := state.isKeptEnded, isKeptEnded := state.isEnded }
    return onward
  | .spell width =>
    put (folded (width.getD style.width) ((← get).line.map spelled) 0)
    return onward
  | .next => nextLine style place false
  | .nextToo => nextLine style place true
  | .print =>
    putLine style (← get).line
    return onward
  | .printFirst =>
    let line := firstLine (← get).line
    put (line ++ [style.lineEnd])
    return onward
  | .quit prints status => return .quit prints (some status)
  | .readFile path =>
    modify fun state ↦ { state with appended := .file path :: state.appended }
    return onward
  | .readLine path =>
    let source := ((← get).others.lookup path).getD { paths := [path] }
    let known := (← get).others.filter (·.1 ≠ path)
    match ← do_ (Routine.look fun directory disk ↦ (disk.file? directory path).isSome) with
    | false => return onward
    | true =>
      let (isMore, source) ← fill true endless source
      if isMore then
        let (line, isEnded, source) ← takeLine style.lineEnd endless source []
        let ended := if isEnded then [style.lineEnd] else []
        modify fun state ↦
          { state with
            appended := .text (line ++ ended) :: state.appended
            others := (path, source) :: known }
      return onward
  | .write path firstOnly =>
    let line := (← get).line
    putTo style path (if firstOnly then firstLine line else line)
    return onward
  | .substitute substitution =>
    substitute style substitution
    return onward
  | .transliterate pairs =>
    modify fun state ↦ { state with line := state.line.map fun c ↦ (pairs.lookup c).getD c }
    return onward
  | .clear =>
    modify ({ · with line := [] })
    return onward
  | .putNumber =>
    put (Text.ofNat (← get).number ++ ['\n'])
    return onward
  | .putName =>
    put ((← get).source.name ++ ['\n'])
    return onward

/-- Carries out commands from a place on. -/
def runSteps (style : Style) (script : Script) : Nat → Nat → Edit Next
  | 0, _ => return .quit false none
  | rounds + 1, place => do
    match script.steps[place]? with
    | none => return .cycle true
    | some step =>
      let isChosen ← isSelected style place step.selection
      let next ←
        if isChosen then act style script place step
        else
          match step.action with
          | .block finish => pure (.step finish)
          | _ => pure (.step (place + 1))
      match next with
      | .step place => runSteps style script rounds place
      | next => return next

/-- Goes through the lines that are left, in at most some rounds. The result is the exit status of a
run that ended early. -/
def runLines (style : Style) (script : Script) (takesLine : Bool) : Nat → Edit (Option Nat)
  | 0 => return none
  | rounds + 1 => do
    let taken : Option Text ← if takesLine then advance style else pure (some (← get).line)
    match taken with
    | none => return none
    | some line =>
      modify ({ · with line })
      if takesLine then modify ({ · with hasReplaced := false })
      match ← runSteps style script endless 0 with
      | .step _ => return none
      | .cycle prints =>
        finishLine style prints
        runLines style script true rounds
      | .again =>
        putAppended
        runLines style script false rounds
      | .quit prints status =>
        finishLine style prints
        return some (status.getD (← do_ (return (← get).status)))

end Edit

/-! ### The command -/

/-- The parts of a script that options give. -/
def partsOf (chosen : List Chosen) : Work (List (Origin × Text)) := do
  let mut parts : List (Origin × Text) := []
  let mut count := 0
  for (letter, text) in chosen do
    if letter = 'e' then
      -- a part that ends with a backslash goes on in the next one
      match parts with
      | (.argument n, before) :: others =>
        if (before.reverse.takeWhile (· = '\\')).length % 2 = 1 then
          parts := (.argument n, before ++ '\n' :: text) :: others
        else
          count := count + 1
          parts := (.argument count, text) :: parts
      | _ =>
        count := count + 1
        parts := (.argument count, text) :: parts
    else if letter = 'f' then
      match ← Work.open_ text with
      | .error error =>
        Work.fail ("couldn't open file " ++ text ++ ": ".toList ++ error.words.toList) 4
      | .ok stream =>
        let whole := (← Routine.readAll stream).toOption.getD []
        Work.close stream
        parts := (.file text, whole) :: parts
  return parts.reverse

/-- The files to which a script writes. -/
def outputsOf (script : Script) : List Text :=
  let all := script.steps.toList.filterMap fun step ↦
    match step.action with
    | .write path _ => some path
    | .substitute substitution => substitution.output
    | _ => none
  all.eraseDups.filter (· ≠ "/dev/stdout".toList)

/-- The labels that a script names. -/
def labelsNamed (script : Script) : List Text :=
  script.steps.toList.filterMap fun step ↦
    match step.action with
    | .branch _ label => if label.isEmpty then none else some label
    | _ => none

/-- Opens the files to which a script writes. -/
def openOutputs (script : Script) : Work (List (Text × Nat)) :=
  (outputsOf script).mapM fun path ↦ do
    if path = "/dev/stderr".toList then return (path, 2)
    match ← Routine.openFile path .replace with
    | .ok stream => return (path, stream)
    | .error error =>
      Work.fail ("couldn't open file " ++ path ++ ": ".toList ++ error.words.toList) 4

/-- The ranges that have begun before the first line. -/
def firstRanges (script : Script) : List (Nat × Option Nat) :=
  (script.steps.toList.zipIdx.filter fun (step, _) ↦ step.selection.fromStart).map fun (_, place) ↦
    (place, none)

/-- Edits a file in its place. The old content is kept under a name with another ending, if one is
given. -/
def editFile (style : Style) (script : Script) (outputs : List (Text × Nat)) (ending path : Text) :
    Work (Option Nat) := do
  match ← Work.open_ path with
  | .error error =>
    Work.warn ("can't read " ++ path ++ ": ".toList ++ error.words.toList)
    Work.setStatus 4
    return none
  | .ok stream =>
    let old := (← Routine.readAll stream).toOption.getD []
    Work.close stream
    let state : State :=
      { source := { paths := [path] }, outputs, ranges := firstRanges script
        collected := some [] }
    let (status, state) ← (Edit.runLines style script true endless).run state
    let rest := state.source.ahead
    if ¬ ending.isEmpty then
      match ← Routine.openFile (path ++ ending) .replace with
      | .ok stream =>
        let _ ← Routine.write stream old
        Work.close stream
      | .error _ => pure ()
    match ← Routine.openFile path .replace with
    | .ok stream =>
      let _ ← Routine.write stream ((state.collected.getD []).reverse.flatten ++ rest)
      Work.close stream
    | .error error => Work.warn ("couldn't open file " ++ path ++ ": ".toList ++ error.words.toList)
    return status

/-- Edits files, by default the input. -/
def sed (arguments : List Text) : Work Unit := do
  let (chosen, others) ← Choices.take
    { letters := "nrEe:f:i::l:suzb"
      words := [("quiet", 'n'), ("silent", 'n'), ("regexp-extended", 'E'), ("expression=", 'e'),
        ("file=", 'f'), ("in-place?", 'i'), ("line-length=", 'l'), ("separate", 's'),
        ("unbuffered", 'u'), ("null-data", 'z'), ("posix", 'b'), ("debug", 'b')] } arguments
  let (parts, paths) ←
    if has chosen 'e' ∨ has chosen 'f' then do pure (← partsOf chosen, others)
    else
      match others with
      | [] => Work.leave 1
      | script :: paths => pure ([(Origin.argument 1, script)], paths)
  let firstLine := (parts.head?.map fun (_, text) ↦ text.takeWhile (· ≠ '\n')).getD []
  let style : Style :=
    { isQuiet := has chosen 'n' || firstLine = ['#', 'n']
      lineEnd := if has chosen 'z' then '\x00' else '\n'
      isSeparate := has chosen 's' || has chosen 'i'
      width := ((last? chosen 'l').bind Text.toNat?).getD 70 }
  match readScript (has chosen 'E' || has chosen 'r') parts with
  | .error words => Work.fail words 1
  | .ok script =>
    match (labelsNamed script).find? fun label ↦ (script.labels.lookup label).isNone with
    | some label => Work.fail ("can't find label for jump to `" ++ label ++ ['\'']) 4
    | none => pure ()
    let outputs ← openOutputs script
    match last? chosen 'i' with
    | some ending =>
      for path in paths do
        match ← editFile style script outputs ending path with
        | some status => if status ≠ 0 then Work.leave status
        | none => pure ()
    | none =>
      let state : State :=
        { source := { paths := if paths.isEmpty then [['-']] else paths }, outputs
          ranges := firstRanges script }
      let (status, state) ← (Edit.runLines style script true endless).run state
      if state.source.stream = some 0 then Routine.giveBack 0 state.source.ahead.length
      match status with
      | some status => Work.setStatus status
      | none => pure ()

end AlignmentTally.Command.Editor
