import AlignmentTally.Command.Starting

/-!
# Commands for words of the input

The command that takes words from its input and runs another command with them, again and again. The
words are separated by blanks and line ends, with quotes and backslashes, or by one character. As many
of them as fit, or as are asked for, are added to a command, or one command is run for each line with
the line in place of a marker.

A command is started before the one before it has ended only if several may run at a time, and all of
them are waited for at the end.
-/

namespace AlignmentTally.Command

open Machine

namespace Batches

/-! ### Words -/

/-- Where in a line its reader is. -/
inductive Spot where
  /-- In front of a word. -/
  | between
  /-- In a word. -/
  | inside
  /-- In a part of a word that stands between two equal marks. -/
  | quoted (mark : Char)
  /-- After a backslash. -/
  | escaped
  deriving DecidableEq, Repr

/-- What was read of a word. -/
structure Scan where
  /-- Where the reader is. -/
  spot : Spot := .between
  /-- The characters of the word, the last one first. -/
  word : Text := []
  /-- The character before. -/
  before : Option Char := none
  /-- Whether a word of the line has begun. -/
  hasBegun : Bool := false
  deriving Repr

/-- What the reader comes to. -/
inductive Event where
  /-- A word, and whether it ends a line or a line that goes on after a blank. -/
  | word (text : Text) (endsLine goesOn : Bool)
  /-- The end of what is there, in the middle of something. -/
  | more (scan : Scan)
  /-- A mark that has no partner in its line. -/
  | unmatched (mark : Char)

/-- How the input is divided. -/
structure Division where
  /-- The character that separates words; otherwise blanks, with quotes and backslashes. -/
  separator : Option Char
  /-- Whether a whole line is a word. -/
  byLine : Bool

/-- Whether a character is a blank in a line. -/
def isBlank (c : Char) : Bool := c = ' ' || c = '\t'

/-- Whether a character is a blank or a line end of any kind. -/
def isSpace (c : Char) : Bool := " \t\n\x0b\x0c\r".toList.contains c

/-- The next word of a text, and what follows it. -/
def scanWord (byLine : Bool) : Text → Scan → Event × Text
  | [], scan => (.more scan, [])
  | c :: rest, scan =>
    let goOn (spot : Spot) (word : Text) (hasBegun : Bool) : Scan :=
      { spot, word, before := some c, hasBegun }
    match scan.spot with
    | .quoted mark =>
      if c = '\n' then (.unmatched mark, rest)
      else if c = mark then scanWord byLine rest (goOn .inside scan.word true)
      else scanWord byLine rest (goOn (.quoted mark) (c :: scan.word) scan.hasBegun)
    | .escaped => scanWord byLine rest (goOn .inside (c :: scan.word) scan.hasBegun)
    | spot =>
      if spot = .between ∧ isSpace c then
        scanWord byLine rest (goOn .between scan.word scan.hasBegun)
      else if c = '\n' then
        if scan.word.isEmpty ∧ ¬ scan.hasBegun then
          scanWord byLine rest (goOn .between [] false)
        else (.word scan.word.reverse true (scan.before.any isBlank), rest)
      else if ¬ byLine ∧ isBlank c then (.word scan.word.reverse false false, rest)
      else if c = '\\' then scanWord byLine rest (goOn .escaped scan.word true)
      else if c = '"' ∨ c = '\'' then scanWord byLine rest (goOn (.quoted c) scan.word true)
      else scanWord byLine rest (goOn .inside (c :: scan.word) true)

/-- The next word of a text up to a separator, and what follows it. -/
def scanPiece (separator : Char) (text : Text) (scan : Scan) : Event × Text :=
  let piece := text.takeWhile (· ≠ separator)
  let word := piece.reverse ++ scan.word
  match text.drop piece.length with
  | [] => (.more { scan with word }, [])
  | _ :: rest => (.word word.reverse true false, rest)

/-- The octets of words, each counting one more. -/
def octetsOf (words : List Text) : Nat := words.foldl (fun n word ↦ n + word.length + 1) 0

/-! ### The run -/

/-- What is done with words. -/
structure Plan where
  /-- The command with its first arguments. -/
  command : List Text
  /-- How the input is divided. -/
  division : Division
  /-- What stands for a line in the arguments, if there is one command for each line. -/
  marker : Option Text := none
  /-- The most words of a command. -/
  most : Option Nat := none
  /-- The most lines whose words are given to a command. -/
  lines : Option Nat := none
  /-- The most octets of a command, each word counting one more. -/
  room : Nat
  /-- Whether words that do not fit are refused. -/
  isStrict : Bool := false
  /-- Whether commands are shown. -/
  traces : Bool := false
  /-- Whether it is asked before a command is run. -/
  asks : Bool := false
  /-- The word at which the input ends. -/
  endMark : Option Text := none
  /-- Whether a command is run even if there are no words. -/
  emptyToo : Bool := true
  /-- The most commands that run at a time, 0 if there is no limit. -/
  together : Nat := 1
  /-- The name of the value that tells commands which of those at a time they are. -/
  slotName : Option Text := none
  /-- Whether commands have the same input. -/
  sharesInput : Bool := false
  /-- The stream from which words are read. -/
  stream : Nat := 0

/-- How far the run has come. -/
structure State where
  /-- What was read and not used yet. -/
  ahead : Text := []
  /-- Whether the input is at its end. -/
  isDone : Bool := false
  /-- The words for the next command, the last one first. -/
  words : List Text := []
  /-- The octets of these words, each counting one more. -/
  size : Nat := 0
  /-- The lines that end in them. -/
  lineCount : Nat := 0
  /-- Whether a command was run. -/
  hasRun : Bool := false
  /-- The commands that run, each with its slot. -/
  running : List (Nat × Nat) := []
  /-- The exit status for commands that failed. -/
  failure : Nat := 0
  /-- Whether it was said that an octet cannot be given to a command. -/
  hasWarned : Bool := false

/-- The work of the command, which may stop with an exit status. -/
abbrev Batch := ExceptT Nat (StateT State Work)

/-- Does what is no matter of the run alone. -/
def do_ {α : Type} (work : Work α) : Batch α := fun state ↦ do return (.ok (← work), state)

/-- Complains and stops. -/
def fail {α : Type} (words : Text) (status : Nat) : Batch α := do
  do_ (Work.warn words)
  throw status

/-- Waits for one of the commands that run. `name` is how they are called. -/
def waitForOne (name : Text) (stops : Bool) : Batch Unit := do
  let note (status : Nat) : Batch Unit :=
    if stops then throw status else modify fun state ↦ { state with failure := status }
  match ← do_ (Routine.wait none .endless) with
  | .ended process status =>
    modify fun state ↦ { state with running := state.running.filter (·.1 ≠ process) }
    match status with
    | .exited 0 => return ()
    | .exited 255 =>
      do_ (Work.warn (name ++ ": exited with status 255; aborting"))
      note 124
    | .exited _ => modify fun state ↦ { state with failure := 123 }
    | .killed n _ =>
      do_ (Work.warn (name ++ ": terminated by signal " ++ Text.ofNat n))
      note 125
  | _ => modify fun state ↦ { state with running := [] }

/-- Waits for commands until fewer than some of them run, in at most some rounds. -/
def waitForRoom (name : Text) (stops : Bool) (most : Nat) : Nat → Batch Unit
  | 0 => return ()
  | rounds + 1 => do
    if most ≤ (← get).running.length then
      waitForOne name stops
      waitForRoom name stops most rounds

/-- The octets before the first zero, which ends an argument. -/
def argument (text : Text) : Text := text.takeWhile (· ≠ '\x00')

/-- What becomes a command: it says on a stream of its own that it could not. -/
def begin_ (sharesInput : Bool) (output input : Nat) (command : List Text) (values : Values) :
    Work Unit := do
  Routine.close output
  -- the copy is closed when the command begins, which is how that becomes known
  let copy ← Routine.duplicate input 10 false
  Routine.close input
  if ¬ sharesInput then
    match ← Routine.openFile "/dev/null" .read with
    | .ok stream =>
      let _ ← Routine.lead 0 stream
      Routine.close stream
    | .error _ => pure ()
  let error ← Starting.become command values
  Work.warn (command.headD [] ++ ": " ++ error.words)
  let _ ← Routine.write (copy.toOption.getD 2) ['x']
  Work.leave (Starting.statusOf error)

/-- Starts a command. -/
def launch (plan : Plan) (command : List Text) : Batch Unit := do
  let command := command.map argument
  if plan.together ≠ 0 then waitForRoom (command.headD []) true plan.together endless
  let quoted (text : Text) : Text :=
    Quoted.inStyle [] .shellEscape text
  let shown := Text.join [' '] (command.map quoted)
  if plan.asks then
    do_ (Work.say shown)
    fail "failed to open /dev/tty for reading: No such device or address" 1
  if plan.traces then do_ (Work.say (shown ++ ['\n']))
  do_ Work.flush
  let taken := (← get).running.map Prod.snd
  let slot := ((List.range (taken.length + 1)).find? (!taken.contains ·)).getD 0
  let values ← do_ do
    let values := (← get).values
    return match plan.slotName with
      | some name => (name, Text.ofNat slot) :: values.filter (·.1 ≠ name)
      | none => values
  let (output, input) ← do_ Routine.pipe
  let start := begin_ plan.sharesInput output input command values
  let process ← do_ (Routine.fork start (fun status _ ↦ .exit status) fun _ _ ↦ .exit 0)
  do_ (Routine.close input)
  let answer ← do_ (Routine.read output 1)
  do_ (Routine.close output)
  if answer.toOption = some ['x'] then
    let status ← do_ (Starting.waitFor process)
    throw status.number
  modify fun state ↦
    { state with hasRun := true, running := state.running ++ [(process, slot)] }

/-- Runs the command with the words that were taken. -/
def runWords (plan : Plan) : Batch Unit := do
  let words := (← get).words.reverse
  modify fun state ↦ { state with words := [], size := 0 }
  launch plan (plan.command ++ words)

/-- Runs the command with the words that there are, before a complaint. -/
def runIfPossible (plan : Plan) : Batch Unit := do
  if plan.marker.isNone ∧ ¬ plan.isStrict ∧ ¬ (← get).words.isEmpty then runWords plan

/-- Takes one more word. -/
def push (plan : Plan) (word : Text) : Batch Unit := do
  let size := word.length + 1
  let base := octetsOf plan.command
  if plan.room < base + size then
    runIfPossible plan
    fail "argument line too long" 1
  if plan.room < base + (← get).size + size then
    if plan.isStrict ∧ (plan.lines.isSome ∨ plan.most.isSome) then fail "argument list too long" 1
    runWords plan
  modify fun state ↦ { state with words := word :: state.words, size := state.size + size }
  if plan.most = some (← get).words.length then runWords plan

/-- A word of the input. -/
structure Item where
  /-- The word. -/
  word : Text
  /-- Whether it ends a line. -/
  endsLine : Bool
  /-- Whether the line goes on in the next one. -/
  goesOn : Bool

/-- The next word, in at most some rounds. -/
def next (plan : Plan) : Nat → Scan → Batch (Option Item)
  | 0, _ => return none
  | rounds + 1, scan => do
    let ahead := (← get).ahead
    let (event, rest) :=
      match plan.division.separator with
      | some separator => scanPiece separator ahead scan
      | none => scanWord plan.division.byLine ahead scan
    modify ({ · with ahead := rest })
    let fault (mark : Char) : Batch (Option Item) := do
      runIfPossible plan
      let kind : Text := if mark = '"' then "double" else "single"
      fail ("unmatched " ++ kind ++
        " quote; by default quotes are special to xargs unless you use the -0 option") 1
    match event with
    | .word word endsLine goesOn => return some ⟨word, endsLine, goesOn⟩
    | .unmatched mark => fault mark
    | .more scan =>
      match ← do_ (Routine.read plan.stream 4096) with
      | .error _ | .ok [] =>
        modify ({ · with isDone := true })
        if scan.word.isEmpty then return none
        match scan.spot with
        | .quoted mark => fault mark
        | _ => return some ⟨scan.word.reverse, false, false⟩
      | .ok text =>
        modify ({ · with ahead := text })
        next plan rounds scan

/-- Does with a word what is to be done with it. -/
def use (plan : Plan) (word : Text) : Batch Unit := do
  match plan.marker with
  | some marker =>
    let insert (part : Text) : Text := Text.replaceAll marker word (part.length + 1) part
    let command := plan.command.take 1 ++ (plan.command.drop 1).map insert
    if plan.room < octetsOf command then fail "argument list too long" 1
    launch plan command
  | none => push plan word

/-- Goes through all words, in at most some rounds. `isFirst` says that the next word is the first of
its line. -/
def runAll (plan : Plan) : Nat → Bool → Batch Unit
  | 0, _ => return ()
  | rounds + 1, isFirst => do
    if (← get).isDone then return ()
    match ← next plan endless {} with
    | none => return ()
    | some item =>
      if item.word.contains '\x00' ∧ plan.division.separator.isNone ∧ ¬ (← get).hasWarned then
        modify ({ · with hasWarned := true })
        do_ (Work.warn ("WARNING: a NUL character occurred in the input.  It cannot be passed " ++
          "through in the argument list.  Did you mean to use the --null option?").toList)
      -- a mark counts at the end of the input only if it stands alone
      if plan.endMark = some item.word ∧ (isFirst ∨ ¬ (← get).isDone) then
        modify ({ · with isDone := true })
      else use plan item.word
      if item.endsLine then
        if ¬ item.goesOn then modify fun state ↦ { state with lineCount := state.lineCount + 1 }
        if plan.lines.any (· ≤ (← get).lineCount) then
          if ¬ (← get).words.isEmpty then runWords plan
          modify ({ · with lineCount := 0 })
      runAll plan rounds item.endsLine

/-- Runs commands for all words. -/
def run (plan : Plan) : Batch Unit := do
  runAll plan endless true
  let state ← get
  if plan.marker.isNone ∧ (¬ state.words.isEmpty ∨ plan.emptyToo ∧ ¬ state.hasRun) then
    runWords plan

/-! ### What is asked for -/

/-- The most octets of a command that may be asked for. -/
def largestRoom : Nat := 2092991

/-- The number that an option asks for, at least some. -/
def numberOf (letter : Char) (least : Nat) (text : Text) : Work Nat := do
  match Text.toInt? text with
  | some n =>
    if n < least then
      Work.misuse ("value " ++ Text.ofInt n ++ " for -" ++ letter :: " option should be >= ".toList ++
        Text.ofNat least) 1
    return n.toNat
  | none => Work.misuse ("invalid number \"" ++ text ++ "\" for -" ++ letter :: " option".toList) 1

/-- The octet that an escape in octal or hexadecimal digits stands for. -/
def numbered (base : Nat) (text digits : Text) : Work Char := do
  let refuse (words : Text) : Work Char := Work.fail
    ("Invalid escape sequence " ++ text ++ " in input delimiter specification" ++ words) 1
  let isDigit (c : Char) : Bool :=
    if base = 16 then c.isDigit || "abcdefABCDEF".toList.contains c else '0' ≤ c && c ≤ '7'
  let number := Text.natOfDigits base (digits.takeWhile isDigit)
  let rest := digits.dropWhile isDigit
  if 255 < number then
    refuse ("; character values must not exceed " ++ (if base = 16 then "ff." else "377."))
  else if ¬ rest.isEmpty then refuse ("; trailing characters " ++ rest ++ " not recognised.")
  else return .ofNat number

/-- The character that an option names as the separator. -/
def separatorOf (text : Text) : Work Char := do
  match text with
  | [c] => return c
  | ['\\', c] =>
    let named := [('a', '\x07'), ('b', '\x08'), ('f', '\x0c'), ('n', '\n'), ('r', '\r'), ('t', '\t'),
      ('v', '\x0b'), ('\\', '\\')].lookup c
    match named with
    | some c => return c
    | none =>
      if c.isDigit then numbered 8 text [c]
      else Work.fail ("Invalid escape sequence " ++ text ++ " in input delimiter specification.") 1
  | '\\' :: 'x' :: digits => numbered 16 text digits
  | '\\' :: c :: digits =>
    if c.isDigit then numbered 8 text (c :: digits)
    else Work.fail ("Invalid escape sequence " ++ text ++ " in input delimiter specification.") 1
  | _ => Work.fail ("Invalid input delimiter specification " ++ text ++
      ": the delimiter must be either a single character or an escape sequence starting with \\.") 1

/-- The most octets of a command that a text asks for. -/
def roomOf (text : Text) : Work Nat := do
  match Text.toNat? text with
  | none => Work.misuse ("invalid number \"" ++ text ++ "\" for -s option") 1
  | some n =>
    if n = 0 then Work.warn "value 0 for -s option should be >= 1"
    if largestRoom < n then
      Work.warn ("value " ++ Text.ofNat n ++ " for -s option should be <= " ++
        Text.ofNat largestRoom)
    return max 1 (min n largestRoom)

/-- Tells that an option makes an earlier one void. -/
def warnOfExclusion (option offending : Text) : Work Unit :=
  Work.warn ("warning: options " ++ offending ++ " and " ++ option ++
    " are mutually exclusive, ignoring previous " ++ offending ++ " value")

/-- A plan with one more option. -/
def withOption (plan : Plan) (letter : Char) (text : Text) : Work Plan := do
  match letter with
  | '0' => return { plan with division := { plan.division with separator := some '\x00' } }
  | 'd' =>
    return { plan with division := { plan.division with separator := some (← separatorOf text) } }
  | 'E' | 'e' => return { plan with endMark := if text.isEmpty then none else some text }
  | 'I' | 'i' =>
    if plan.lines.isSome then warnOfExclusion "--replace/-I/-i" "--max-lines"
    if plan.most.isSome then warnOfExclusion "--replace/-I/-i" "--max-args"
    let marker := if text.isEmpty ∧ letter = 'i' then "\x7b\x7d".toList else text
    return { plan with marker := some marker, lines := none, most := none }
  | 'L' | 'l' =>
    let option : Text := if letter = 'L' then "-L" else "--max-lines/-l"
    let n ← if text.isEmpty ∧ letter = 'l' then pure 1 else numberOf letter 1 text
    if plan.most.isSome then warnOfExclusion option "--max-args"
    if plan.marker.isSome then warnOfExclusion option "--replace"
    return { plan with lines := some n, most := none, marker := none }
  | 'n' =>
    let n ← numberOf 'n' 1 text
    if plan.lines.isSome then warnOfExclusion "--max-args/-n" "--max-lines"
    if plan.marker.isSome then
      if n = 1 then return { plan with lines := none, most := none }
      warnOfExclusion "--max-args/-n" "--replace"
    return { plan with most := some n, lines := none, marker := none }
  | 'P' => return { plan with together := ← numberOf 'P' 0 text }
  | 's' => return { plan with room := ← roomOf text }
  | 'p' => return { plan with asks := true }
  | 'r' => return { plan with emptyToo := false }
  | 't' => return { plan with traces := true }
  | 'x' => return { plan with isStrict := true }
  | 'o' => return { plan with sharesInput := true }
  | '%' => return { plan with slotName := some text }
  | _ => return plan

end Batches

open Batches in
/-- Runs a command for the words of the input. -/
def xargs (arguments : List Text) : Work Unit := do
  let (chosen, command) ← Choices.take
    { letters := "0a:d:E:e::I:i::L:l::n:P:prs:txo"
      words := [("null", '0'), ("arg-file=", 'a'), ("delimiter=", 'd'), ("eof?", 'e'),
        ("replace?", 'i'), ("max-lines?", 'l'), ("max-args=", 'n'), ("max-procs=", 'P'),
        ("interactive", 'p'), ("no-run-if-empty", 'r'), ("max-chars=", 's'), ("verbose", 't'),
        ("exit", 'x'), ("open-tty", 'o'), ("process-slot-var=", '%')]
      anywhere := false } arguments
  let command := if command.isEmpty then ["echo".toList] else command
  let mut plan : Plan := { command, division := ⟨none, false⟩, room := 131072 }
  for (letter, text) in chosen do plan ← withOption plan letter text
  if plan.room < octetsOf command then
    Work.fail "cannot fit single argument within argument list size limit" 1
  if plan.endMark.isSome ∧ plan.division.separator.isSome then
    Work.warn "warning: the -E option has no effect if -0 or -d is used.\n"
    plan := { plan with endMark := none }
  plan := { plan with division := { plan.division with byLine := plan.marker.isSome } }
  let path := (last? chosen 'a').getD ['-']
  match ← Work.open_ path with
  | .error error =>
    Work.fail ("Cannot open input file " ++ Quoted.word path ++ ": " ++ error.words.toList) 1
  | .ok stream =>
    plan := { plan with stream, sharesInput := plan.sharesInput || !Work.isInput path }
    let (ending, state) ← (Batches.run plan).run.run {}
    let (_, state) ← (waitForRoom (command.headD []) false 1 endless).run.run state
    if stream = 0 then Routine.giveBack 0 state.ahead.length
    let status :=
      match ending with
      | .ok () => 0
      | .error status => status
    Work.leave (if state.failure = 0 then status else state.failure)

end AlignmentTally.Command
