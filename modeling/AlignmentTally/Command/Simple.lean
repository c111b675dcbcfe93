import AlignmentTally.Command.Options
import AlignmentTally.Machine.Escape
import AlignmentTally.Shell.Condition

/-!
# Simple commands

Commands that answer from their arguments alone or from what they know about the system, and those
that do nothing but succeed, fail, write or wait.
-/

namespace AlignmentTally.Command

open Machine

namespace Simple

/-- Succeeds. -/
def true_ : Work Unit := return ()

/-- Fails. -/
def false_ : Work Unit := Work.setStatus 1

/-! ### Writing arguments -/

/-- Whether an argument is a group of options of `echo`. -/
def isEchoOptions (argument : Text) : Bool :=
  match argument with
  | '-' :: letters => !letters.isEmpty && letters.all "neE".toList.contains
  | _ => false

/-- Writes arguments with escapes replaced, until one of them ends all. The result is whether one
does. -/
def putEscaped : List Text → Work Bool
  | [] => return false
  | text :: rest => do
    let (text, ends) := Escape.expand ⟨true, [], false⟩ text
    Work.put text
    if ends then return true
    if ¬ rest.isEmpty then Work.put [' ']
    putEscaped rest

/-- Writes its arguments with blanks between them. -/
def echo (arguments : List Text) : Work Unit := do
  let options := (arguments.takeWhile isEchoOptions).flatten
  let words := arguments.dropWhile isEchoOptions
  let escapes := (options.filter fun c ↦ c = 'e' || c = 'E').getLast? = some 'e'
  if escapes then
    if ← putEscaped words then return
  else Work.put (Text.join [' '] words)
  if ¬ options.contains 'n' then Work.put ['\n']

/-- Writes a text again and again, in at most some rounds. -/
def repeat_ (text : Text) : Nat → Work Unit
  | 0 => return ()
  | rounds + 1 => do
    Work.put text
    Work.flush
    match (← get).broken with
    | some error =>
      Work.warn ("standard output: " ++ error.words.toList)
      modify fun session ↦ { session with broken := none }
      Work.leave 1
    | none => repeat_ text rounds

/-- Writes its arguments, or `y`, until nobody reads any more. -/
def yes (arguments : List Text) : Work Unit := do
  let (_, words) ← Choices.take { letters := "", anywhere := false } arguments
  let line := (if words.isEmpty then ['y'] else Text.join [' '] words) ++ ['\n']
  repeat_ (List.replicate (max 1 (1024 / line.length)) line).flatten endless

/-! ### Waiting -/

/-- The microseconds that a text asks for, with a unit after the number. -/
def duration? (text : Text) : Option Nat := do
  let (x, rest) ← Scanned.read? text
  let factor ←
    match rest with
    | [] | ['s'] => some 1
    | ['m'] => some 60
    | ['h'] => some 3600
    | ['d'] => some 86400
    | _ => none
  match x with
  | .finite negative num den =>
    if negative ∧ num ≠ 0 then none else some (num * factor * 1000000 / den)
  | .infinite false => some endless
  | _ => none

/-- Waits. -/
def sleep (arguments : List Text) : Work Unit := do
  let (_, times) ← Choices.take { letters := "" } arguments
  if times.isEmpty then Work.misuse "missing operand" 1
  let mut total := 0
  let mut isWrong := false
  for time in times do
    match duration? time with
    | some duration => total := total + duration
    | none =>
      Work.warn ("invalid time interval " ++ Quoted.word time)
      isWrong := true
  if isWrong then
    Work.say ("Try '" ++ (← get).name ++ " --help' for more information.\n")
    Work.leave 1
  Routine.sleep total

/-! ### Paths as texts -/

/-- A path without the slashes at its end; only slashes become one. -/
def withoutSlashes (path : Text) : Text :=
  match Text.trimEnd (· = '/') path with
  | [] => if path.isEmpty then [] else ['/']
  | path => path

/-- The last name of a path. -/
def lastName (path : Text) : Text :=
  let path := withoutSlashes path
  if path = ['/'] then path else (path.reverse.takeWhile (· ≠ '/')).reverse

/-- The path of the directory in which the last name of a path stands. -/
def parentPath (path : Text) : Text :=
  let path := withoutSlashes path
  if path = ['/'] then path
  else
    match path.reverse.dropWhile (· ≠ '/') with
    | [] => ['.']
    | above => withoutSlashes above.reverse

/-- A text without an end that it has, unless it is nothing else. -/
def withoutSuffix (ending text : Text) : Text :=
  if ending.length < text.length ∧ text.drop (text.length - ending.length) = ending then
    text.take (text.length - ending.length)
  else text

/-- Writes the last names of paths. -/
def basename (arguments : List Text) : Work Unit := do
  let (chosen, paths) ← Choices.take
    { letters := "as:z", anywhere := false
      words := [("multiple", 'a'), ("suffix=", 's'), ("zero", 'z')] } arguments
  let tail : Text := if has chosen 'z' then ['\x00'] else ['\n']
  if paths.isEmpty then Work.misuse "missing operand" 1
  if has chosen 'a' ∨ has chosen 's' then
    for path in paths do
      Work.put (withoutSuffix ((last? chosen 's').getD []) (lastName path) ++ tail)
  else
    match paths with
    | _ :: _ :: extra :: _ => Work.misuse ("extra operand " ++ Quoted.word extra) 1
    | path :: rest => Work.put (withoutSuffix (rest.headD []) (lastName path) ++ tail)
    | [] => return

/-- Writes the paths of the directories in which the last names of paths stand. -/
def dirname (arguments : List Text) : Work Unit := do
  let (chosen, paths) ← Choices.take { letters := "z", words := [("zero", 'z')] } arguments
  let tail : Text := if has chosen 'z' then ['\x00'] else ['\n']
  if paths.isEmpty then Work.misuse "missing operand" 1
  for path in paths do
    Work.put (parentPath path ++ tail)

/-! ### What a command knows -/

/-- Writes the path of the directory. -/
def pwd (arguments : List Text) : Work Unit := do
  let (chosen, _) ← Choices.take
    { letters := "LP", words := [("logical", 'L'), ("physical", 'P')] } arguments
  let logical := ((← get).values.lookup "PWD".toList).getD []
  let (isSame, path) ← Routine.look fun directory disk ↦
    (decide ((disk.find directory logical).toOption = some directory), disk.pathOf directory)
  Work.putLine (if lastOf? chosen "LP" = some 'L' ∧ isSame then logical else path)

/-- Refuses operands. -/
def refuseOperands (operands : List Text) (status : Nat) : Work Unit :=
  match operands with
  | [] => return ()
  | extra :: _ => Work.misuse ("extra operand " ++ Quoted.word extra) status

/-- The name of the only user. -/
def user : Text := "root"

/-- Writes the name of the user. -/
def whoami (arguments : List Text) : Work Unit := do
  let (_, operands) ← Choices.take { letters := "" } arguments
  refuseOperands operands 1
  Work.putLine user

/-- Says that nobody has logged in. -/
def logname (arguments : List Text) : Work Unit := do
  let (_, operands) ← Choices.take { letters := "" } arguments
  refuseOperands operands 1
  Work.fail "no login name" 1

/-- Writes the groups of users. -/
def groups (arguments : List Text) : Work Unit := do
  let (_, names) ← Choices.take { letters := "" } arguments
  if names.isEmpty then Work.putLine user
  for name in names do
    if name = user then Work.putLine (name ++ " : " ++ user)
    else Work.complain (Quoted.word name ++ ": no such user")

/-- Writes who the user is. -/
def id (arguments : List Text) : Work Unit := do
  let (chosen, names) ← Choices.take
    { letters := "agGnruzZ", words := [("user", 'u'), ("group", 'g'), ("groups", 'G'),
        ("name", 'n'), ("real", 'r'), ("context", 'Z'), ("zero", 'z')] } arguments
  let has := has chosen
  if has 'Z' then
    Work.fail "--context (-Z) works only on an SELinux-enabled kernel" 1
  let kinds := ['u', 'g', 'G'].filter has
  if 1 < kinds.length then Work.fail "cannot print \"only\" of more than one choice" 1
  if kinds.isEmpty ∧ (has 'n' ∨ has 'r') then
    Work.fail "cannot print only names or real IDs in default format" 1
  if kinds.isEmpty ∧ has 'z' then Work.fail "option --zero not permitted in default format" 1
  for name in if names.isEmpty then [user] else names do
    if name ≠ user ∧ name ≠ ['0'] then Work.complain (Quoted.word name ++ ": no such user")
    else if kinds.isEmpty then Work.putLine "uid=0(root) gid=0(root) groups=0(root)"
    else
      Work.put ((if has 'n' then user else ['0']) ++ [if has 'z' then '\x00' else '\n'])

/-- Writes what kind of system it is. -/
def uname (arguments : List Text) : Work Unit := do
  let (chosen, operands) ← Choices.take
    { letters := "asnrvmpio"
      words := [("all", 'a'), ("kernel-name", 's'), ("machine", 'm'), ("processor", 'p'),
        ("operating-system", 'o')] } arguments
  refuseOperands operands 1
  let has := has chosen
  let parts : List Text :=
    (if has 's' || chosen.isEmpty then ["Linux".toList] else []) ++
      (if has 'm' then ["x86_64".toList] else []) ++ (if has 'p' then ["x86_64".toList] else []) ++
      (if has 'o' then ["GNU/Linux".toList] else [])
  Work.putLine (Text.join [' '] parts)

/-- Writes values by name, by default all. -/
def printenv (arguments : List Text) : Work Unit := do
  let (chosen, names) ← Choices.take
    { letters := "0", words := [("null", '0')], anywhere := false, status := 2 } arguments
  let tail : Text := if has chosen '0' then ['\x00'] else ['\n']
  let values := (← get).values
  if names.isEmpty then
    for (name, text) in values do
      Work.put (name ++ '=' :: text ++ tail)
  else
    for name in names do
      match values.lookup name with
      | some text => Work.put (text ++ tail)
      | none => Work.setStatus 1

/-- Writes for which machine the system is. -/
def arch (arguments : List Text) : Work Unit := do
  let (_, operands) ← Choices.take { letters := "" } arguments
  refuseOperands operands 1
  Work.putLine "x86_64"

/-- Says that the input is no terminal. -/
def tty (arguments : List Text) : Work Unit := do
  let (chosen, operands) ← Choices.take
    { letters := "s", words := [("silent", 's'), ("quiet", 's')], status := 2 } arguments
  refuseOperands operands 2
  if ¬ has chosen 's' then Work.putLine "not a tty"
  Work.setStatus 1

/-- Makes sure that files can be read, and that what was written to them is kept. -/
def sync (arguments : List Text) : Work Unit := do
  let (chosen, paths) ← Choices.take
    { letters := "df", words := [("data", 'd'), ("file-system", 'f')] } arguments
  if has chosen 'd' ∧ has chosen 'f' then
    Work.fail "cannot specify both --data and --file-system" 1
  if has chosen 'd' ∧ paths.isEmpty then
    Work.fail "--data needs at least one argument" 1
  for path in paths do
    match ← Routine.openFile path .read with
    | .ok stream => Routine.close stream
    | .error error =>
      Work.complain ("error opening " ++ Quoted.between path ++ ": " ++ error.words.toList)

/-! ### Conditions -/

/-- Tests a condition. -/
def test (arguments : List Text) : Work Unit := do
  let name := (← get).name
  let inBrackets := lastName name = ['[']
  if inBrackets ∧ arguments.getLast? ≠ some [']'] then Work.fail "missing ']'" 2
  let words := if inBrackets then arguments.dropLast else arguments
  let streams := (← Routine.self).streams
  let answer ← Routine.look fun directory disk ↦
    Shell.Condition.holds { extended := true, streams, directory, disk } words
  match answer with
  | .ok value => Work.setStatus (if value then 0 else 1)
  | .error complaint =>
    -- what is wrong with a word stands after the last colon
    let back := complaint.reverse.dropWhile (· ≠ ':')
    let word := if back.isEmpty then complaint else (back.drop 1).reverse
    let rest := complaint.drop word.length
    if rest = ": integer expression expected".toList then
      Work.fail ("invalid integer " ++ Quoted.word word) 2
    else if rest = ": argument expected".toList then
      Work.fail ("missing argument after " ++ Quoted.word word) 2
    else if rest.isEmpty then Work.fail complaint 2
    else Work.fail (Quoted.word word ++ rest) 2

end Simple

end AlignmentTally.Command
