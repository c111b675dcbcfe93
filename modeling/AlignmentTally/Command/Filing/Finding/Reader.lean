import AlignmentTally.Clock.Reader
import AlignmentTally.Command.Filing.Finding.Format
import AlignmentTally.Command.Filing.Making
import AlignmentTally.Number.Scanned
import AlignmentTally.Regex.Reader

/-!
# Reading expressions

The words after the paths of a search are an expression: trials that begin with a dash and may have
arguments, operators and brackets. Some of the words say how the search goes.
-/

namespace AlignmentTally.Command.Filing.Finding

open Machine

/-- Which links are followed. -/
inductive Following where
  /-- None. -/
  | never
  /-- Those where a search begins. -/
  | starts
  /-- All. -/
  | always
  deriving DecidableEq, Repr

/-- What an expression asks for besides its trials. -/
structure Scope where
  /-- The least depth. -/
  least : Nat := 0
  /-- The greatest depth. -/
  most : Option Nat := none
  /-- Whether a directory comes after what it holds. -/
  depthFirst : Bool := false
  /-- Whether that was asked for. -/
  asksDepth : Bool := false
  /-- Which links are followed. -/
  following : Following := .never
  /-- Whether there is an action in the expression that stands for writing the path. -/
  acts : Bool := false
  /-- Whether files are removed. -/
  removes : Bool := false
  /-- Whether directories are left out. -/
  prunes : Bool := false
  /-- The number of commands that files are collected for. -/
  collected : Nat := 0
  /-- Whether what may be a mistake is told. -/
  warns : Bool := false
  /-- The time from which ages are counted: the start of the search, or of the next day. -/
  origin : Nat := 0
  /-- How expressions for paths are written. -/
  style : Regex.Style := { extended := false, bare := "+?".toList, hasCounts := false }
  /-- The files that are written, with their streams. -/
  sinks : List (Text × Sink) := []
  /-- The file that lists where searches begin. -/
  starts : Option Text := none

/-- Reads an expression from words: with the scope so far. -/
abbrev Read := StateT (List Text × Scope) Work

/-- Complains and ends. -/
def fail {α : Type} (words : Text) : Read α := fun _ ↦ Work.fail words 1

/-- Works while words are read. -/
def working {α : Type} (work : Work α) : Read α := fun state ↦ return (← work, state)

/-- The scope so far. -/
def scope : Read Scope := return (← get).2

/-- Changes the scope. -/
def setScope (change : Scope → Scope) : Read Unit :=
  modify fun (words, scope) ↦ (words, change scope)

/-- A number with a sign that says how to compare. -/
def comparison (text : Text) : Comparison × Text :=
  match text with
  | '+' :: rest => (.more, rest)
  | '-' :: rest => (.less, rest)
  | text => (.same, text)

/-- A size with a sign and a unit, or what is wrong with it. -/
def readSize (text : Text) : Except Text Trial := do
  if text.isEmpty then throw "invalid null argument to -size".toList
  let (comparison, digits) := comparison text
  let (unit?, digits) : Option Nat × Text :=
    match digits.reverse with
    | 'b' :: rest => (some 512, rest.reverse)
    | 'c' :: rest => (some 1, rest.reverse)
    | 'w' :: rest => (some 2, rest.reverse)
    | 'k' :: rest => (some 1024, rest.reverse)
    | 'M' :: rest => (some 1048576, rest.reverse)
    | 'G' :: rest => (some 1073741824, rest.reverse)
    | c :: _ => (if c.isDigit then some 512 else none, digits)
    | [] => (none, digits)
  match unit?, text.getLast? with
  | none, some last => throw ("invalid -size type \x60".toList ++ [last, '\''])
  | none, none => throw "invalid null argument to -size".toList
  | some unit, _ =>
    match Text.toNat? digits with
    | some n => return .size comparison n unit
    | none => throw ("Invalid argument \x60".toList ++ text ++ "' to -size".toList)

/-- The next word, which belongs to an option. -/
def argument (option : Text) : Read Text := do
  match (← get).1 with
  | word :: rest =>
    modify fun (_, scope) ↦ (rest, scope)
    return word
  | [] => fail ("missing argument to \x60".toList ++ option ++ ['\''])

/-- Notes that the expression acts. -/
def acting (trial : Trial) : Read Trial := do
  setScope fun scope ↦ { scope with acts := true }
  return trial

/-- Complains about the argument of an option. -/
def refuse {α : Type} (option text : Text) : Read α :=
  fail ("invalid argument \x60".toList ++ text ++ "' to \x60".toList ++ option ++ ['\''])

/-- A number that an option asks for. -/
def depthOf (option : Text) : Read Nat := do
  let text ← argument option
  match Text.toNat? text with
  | some n => return n
  | none =>
    fail ("Expected a positive decimal integer argument to ".toList ++ option ++
      ", but got ".toList ++ Quoted.word text)

/-- A number with a sign that an option asks for. -/
def countOf (option : Text) : Read (Comparison × Nat) := do
  let text ← argument option
  let (comparison, digits) := comparison text
  match Text.toNat? digits with
  | some n => return (comparison, n)
  | none => refuse option text

/-- The place that stands for a path in a command. -/
def hole : Text := "\x7b\x7d".toList

/-- Whether the place for a path is anywhere in a word. -/
def hasHole : Text → Bool
  | a :: b :: rest => [a, b] = hole || hasHole (b :: rest)
  | _ => false

/-- The parts of a command up to its end: its words, whether it is run for several files at a time,
and what follows. -/
def commandIn? (mayCollect : Bool) : List Text → List Text → Option (List Text × Bool × List Text)
  | _, [] => none
  | done, word :: rest =>
    if word = [';'] then some (done.reverse, false, rest)
    else if mayCollect ∧ word = ['+'] ∧ done.head?.any hasHole then
      some (done.reverse, true, rest)
    else commandIn? mayCollect (word :: done) rest

/-- Reads the command of an action up to its end. -/
def readCommand (option : Text) (running : Running) : Read Trial := do
  match commandIn? (!running.asks) [] (← get).1 with
  | none => fail ("missing argument to \x60".toList ++ option ++ ['\''])
  | some ([], _, _) => refuse option [';']
  | some (command, collects, rest) =>
    modify fun (_, scope) ↦ (rest, scope)
    if ¬ collects then acting (.run running command)
    else
      let last := command.getLastD []
      if last ≠ hole then
        fail ("In ".toList ++ Quoted.word (option ++ " ... \x7b\x7d +".toList) ++ " the ".toList ++
          Quoted.word hole ++ " must appear by itself, but you specified ".toList ++
          Quoted.word last)
      if command.dropLast.any hasHole then
        fail ("Only one instance of \x7b\x7d is supported with ".toList ++ option ++
          " ... +".toList)
      let place := (← scope).collected
      setScope fun scope ↦ { scope with collected := place + 1 }
      acting (.collect running place command.dropLast)

/-- The letters of kinds of files that a list names after some others, or what is wrong with it. -/
def kindsOf (option : Text) : Text → Text → Except Text Text
  | [], _ =>
    .error ("Arguments to ".toList ++ option ++ " should contain at least one letter".toList)
  | letter :: rest, before =>
    if ¬ "bcdpflsD".toList.contains letter then
      .error ("Unknown argument to ".toList ++ option ++ [':', ' ', letter])
    else if before.contains letter then
      .error ("Duplicate file type '".toList ++ letter :: "' in the argument list to ".toList ++
        option ++ ['.'])
    else
      match rest with
      | [] => .ok (letter :: before)
      | [','] =>
        .error ("Last file type in list argument to ".toList ++ option ++
          " is missing, i.e., list is ending on: ','".toList)
      | ',' :: rest => kindsOf option rest (letter :: before)
      | _ =>
        .error ("Must separate multiple arguments to ".toList ++ option ++ " using: ','".toList)

/-- The kinds of files that an option asks for. -/
def kindArgument (option : Text) : Read Text := do
  match kindsOf option (← argument option) [] with
  | .ok letters => return letters
  | .error words => fail words

/-- The file that an option names, and its number. -/
def fileArgument (option : Text) : Read (Nat × DiskFile) := do
  let path ← argument option
  let follows := (← scope).following ≠ .never
  let found ← working <| Routine.look fun directory disk ↦
    (disk.findWith follows directory path).map fun number ↦ (number, disk.get number)
  match found with
  | .ok found => return found
  | .error error => fail (Quoted.word path ++ ": ".toList ++ error.words.toList)

/-- The microseconds of a day. -/
def day : Nat := 86400000000

/-- An age that an option asks for, in units of some microseconds. `isDay` says that the ages of a day
are counted from its end. -/
def ageOf (option : Text) (stamp : Stamp) (unit : Nat) (isDay : Bool) : Read Trial := do
  let text ← argument option
  let (comparison, digits) := comparison text
  let origin := (← scope).origin
  match Scanned.read? digits with
  | some (.finite false num den, []) =>
    let span : Int := (num * unit / den : Nat)
    -- what is younger is later
    let comparison : Comparison :=
      match comparison with
      | .less => .more
      | .same => .same
      | .more => .less
    let start : Int :=
      if isDay then
        if comparison = .more then origin - 1000000 else (origin : Int) - day
      else origin
    let start := if isDay ∧ comparison = .more then start + 1000000 else start
    return .age stamp comparison (start - span) unit
  | _ => refuse option text

/-- Where an option writes to: the file that it names. -/
def sinkArgument (option : Text) : Read Sink := do
  let path ← argument option
  if path = "/dev/stdout".toList then return .output
  if path = "/dev/stderr".toList then return .stream 2
  match (← scope).sinks.lookup path with
  | some sink => return sink
  | none =>
    match ← working (Routine.openFile path .replace) with
    | .ok stream =>
      let sink : Sink := .stream stream
      setScope fun scope ↦ { scope with sinks := (path, sink) :: scope.sinks }
      return sink
    | .error error => fail (Quoted.word path ++ ": ".toList ++ error.words.toList)

/-- The format that an option asks for. -/
def formatArgument (option : Text) : Read (List Part) := do
  let text ← argument option
  working (readFormat (text.length + 1) text)

/-- The ways of writing expressions for paths, by name. -/
def styles : List (String × Regex.Style) :=
  let emacs : Regex.Style := { extended := false, bare := "+?".toList, hasCounts := false }
  let basic : Regex.Style := { extended := false }
  let full : Regex.Style := { extended := true }
  let awk : Regex.Style := { full with escapesInBrackets := true, laxBraces := true }
  [("findutils-default", emacs), ("ed", basic), ("emacs", emacs),
    ("gnu-awk", awk), ("grep", basic), ("posix-awk", awk), ("awk", { awk with hasCounts := false }),
    ("posix-basic", basic), ("posix-egrep", { full with laxBraces := true }),
    ("egrep", { full with laxBraces := true }), ("posix-extended", full),
    ("posix-minimal-basic", basic), ("sed", basic)]

/-- A user or group that an option names, as a test. -/
def ownerOf (option : Text) (count : Count) : Read Trial := do
  let text ← argument option
  if text.isEmpty then fail ("The argument to ".toList ++ option ++ " should not be empty".toList)
  let known ← working <| Routine.look fun _ disk ↦
    if count = .owner then Accounts.users disk else Accounts.groups disk
  match (known.lookup text).or (Text.toNat? text) with
  | some n => return .count count .same n
  | none =>
    let what : String :=
      if count = .owner then "a known user" else "an existing group"
    fail (Quoted.word text ++ " is not the name of ".toList ++ what.toList)

/-- The times that letters name in an option that compares them. -/
def newerLetters : List (Char × Stamp) := [('a', .accessed), ('c', .status), ('m', .changed)]

/-- A test of a time against that of another file or one that is written. -/
def newerThan (option : Text) (which than : Char) : Read Trial := do
  let bad : Read Trial := fail ("invalid predicate \x60".toList ++ option ++ ['\''])
  match newerLetters.lookup which, newerLetters.lookup than with
  | some stamp, some other =>
    let (_, file) ← fileArgument option
    return .later stamp (other.of file)
  | some stamp, none =>
    if than ≠ 't' then bad
    else
      let text ← argument option
      let zone ← working Present.ownZone
      match ← working (Present.read? zone text) with
      | some instant =>
        return .later stamp (instant.seconds * 1000000 + instant.nanoseconds / 1000)
      | none =>
        fail ("I cannot figure out how to interpret ".toList ++ Quoted.word text ++
          " as a date or time".toList)
  | _, _ => bad

/-- Warns, if that is asked for. -/
def note (words : Text) : Read Unit := do
  if (← scope).warns then working (Work.warn ("warning: ".toList ++ words))

/-- A test of a path against a pattern. -/
def pathTest (option : Text) (foldsCase : Bool) : Read Trial := do
  let pattern ← argument option
  if pattern.getLast? = some '/' then
    note (option ++ ' ' :: pattern ++ " will not match anything because it ends with /.".toList)
  return .fits true foldsCase pattern

/-- A test of a name against a pattern. -/
def nameTest (option : Text) (foldsCase : Bool) : Read Trial := do
  let pattern ← argument option
  if pattern.contains '/' ∧ pattern ≠ ['/'] then
    note (Quoted.word option ++ " matches against basenames only, but the given pattern ".toList ++
      "contains a directory separator (".toList ++ Quoted.word ['/'] ++
      "), thus the expression will evaluate to false all the time.  Did you mean ".toList ++
      Quoted.word (if foldsCase then "-iwholename".toList else "-wholename".toList) ++ ['?'])
  return .fits false foldsCase pattern

/-- Reads the trial that an option begins. -/
def readOption (option : Text) : Read Trial := do
  let setting (change : Scope → Scope) : Read Trial := do
    setScope change
    return .always true
  match String.ofList option with
  | "-true" => return .always true
  | "-false" => return .always false
  | "-name" => nameTest option false
  | "-iname" => nameTest option true
  | "-path" | "-wholename" => pathTest option false
  | "-ipath" | "-iwholename" => pathTest option true
  | "-lname" => return .leads false (← argument option)
  | "-ilname" => return .leads true (← argument option)
  | "-regex" | "-iregex" =>
    let text ← argument option
    match Regex.read (← scope).style text with
    | .ok (regex, _) => return .regex (option = "-iregex".toList) regex
    | .error fault =>
      fail ("failed to compile regular expression '".toList ++ text ++ "': ".toList ++
        fault.words.toList)
  | "-regextype" =>
    let text ← argument option
    match styles.lookup (String.ofList text) with
    | some style => setting fun scope ↦ { scope with style }
    | none =>
      fail ("Unknown regular expression type ".toList ++ Quoted.word text ++
        "; valid types are ".toList ++
        Text.join ", ".toList (styles.map fun (name, _) ↦ Quoted.word name.toList) ++ ['.'])
  | "-type" => return .kind (← kindArgument option)
  | "-xtype" => return .otherKind (← kindArgument option)
  | "-empty" => return .empty
  | "-size" =>
    match readSize (← argument option) with
    | .ok trial => return trial
    | .error words => fail words
  | "-links" =>
    let (comparison, n) ← countOf option
    return .count .names comparison n
  | "-inum" =>
    let (comparison, n) ← countOf option
    return .count .number comparison n
  | "-uid" =>
    let (comparison, n) ← countOf option
    return .count .owner comparison n
  | "-gid" =>
    let (comparison, n) ← countOf option
    return .count .group comparison n
  | "-user" => ownerOf option .owner
  | "-group" => ownerOf option .group
  | "-nouser" => return .nameless false
  | "-nogroup" => return .nameless true
  | "-newer" => newerThan option 'm' 'm'
  | "-anewer" => newerThan option 'a' 'm'
  | "-cnewer" => newerThan option 'c' 'm'
  | "-mtime" => ageOf option .changed day true
  | "-atime" => ageOf option .accessed day true
  | "-ctime" => ageOf option .status day true
  | "-mmin" => ageOf option .changed 60000000 false
  | "-amin" => ageOf option .accessed 60000000 false
  | "-cmin" => ageOf option .status 60000000 false
  | "-used" =>
    let text ← argument option
    let (comparison, digits) := comparison text
    match Text.toNat? digits with
    | some n => return .used comparison n
    | none => fail ("Invalid argument ".toList ++ text ++ " to -used".toList)
  | "-perm" =>
    let written ← argument option
    let (sign, text) :=
      match written with
      | '-' :: rest => ('-', rest)
      | '/' :: rest => ('/', rest)
      | text => ('=', text)
    match readMode text with
    | some changes => return .mode sign (applyAll changes 0 true 0) (applyAll changes 0 false 0)
    | none => fail ("invalid mode ".toList ++ Quoted.word written)
  | "-executable" => return .allows true
  | "-readable" | "-writable" => return .allows false
  | "-fstype" =>
    let _ ← argument option
    return .always false
  | "-context" =>
    let _ ← argument option
    fail "invalid predicate -context: SELinux is not enabled.".toList
  | "-samefile" => return .count .number .same ((← fileArgument option).1 + 1)
  | "-maxdepth" =>
    let n ← depthOf option
    setting fun scope ↦ { scope with most := some n }
  | "-mindepth" =>
    let n ← depthOf option
    setting fun scope ↦ { scope with least := n }
  | "-depth" | "-d" => setting fun scope ↦ { scope with depthFirst := true, asksDepth := true }
  | "-follow" => setting fun scope ↦ { scope with following := .always }
  | "-warn" => setting fun scope ↦ { scope with warns := true }
  | "-nowarn" => setting fun scope ↦ { scope with warns := false }
  | "-daystart" =>
    let zone ← working Present.ownZone
    setting fun scope ↦
      let second := scope.origin / 1000000
      let ahead := (second + (zone.ahead + 86400).toNat) % 86400
      { scope with origin := (second - ahead + 86400) * 1000000 }
  | "-files0-from" =>
    let path ← argument option
    setting fun scope ↦ { scope with starts := some path }
  | "-xdev" | "-mount" | "-noleaf" | "-ignore_readdir_race" | "-noignore_readdir_race" =>
    return .always true
  | "-print" => acting (.print .output '\n')
  | "-print0" => acting (.print .output '\x00')
  | "-fprint" => do acting (.print (← sinkArgument option) '\n')
  | "-fprint0" => do acting (.print (← sinkArgument option) '\x00')
  | "-printf" => do acting (.describe .output (← formatArgument option))
  | "-fprintf" =>
    let sink ← sinkArgument option
    acting (.describe sink (← formatArgument option))
  | "-ls" => acting (.list .output)
  | "-fls" => do acting (.list (← sinkArgument option))
  | "-delete" =>
    setScope fun scope ↦ { scope with depthFirst := true, removes := true }
    acting .remove
  | "-prune" =>
    setScope fun scope ↦ { scope with prunes := true }
    return .prune
  | "-quit" => return .quit
  | "-exec" => readCommand option {}
  | "-execdir" => readCommand option { inDirectory := true }
  | "-ok" => readCommand option { asks := true }
  | "-okdir" => readCommand option { inDirectory := true, asks := true }
  | "-help" | "--help" | "-version" | "--version" =>
    fail ("unknown predicate \x60".toList ++ option ++ ['\''])
  | _ =>
    match option with
    | ['-', 'n', 'e', 'w', 'e', 'r', which, than] => newerThan option which than
    | _ => fail ("unknown predicate \x60".toList ++ option ++ ['\''])

/-- Whether a word begins an expression. `isFirst` says that only paths came before it. -/
def beginsExpression (isFirst : Bool) (word : Text) : Bool :=
  match word with
  | '-' :: _ :: _ => true
  | ['('] | ['!'] => true
  | [')'] | [','] => !isFirst
  | _ => false

/-- The options with a pattern as their argument. -/
def patternOptions : List Text :=
  ["-name", "-iname", "-path", "-ipath", "-wholename", "-iwholename", "-lname",
    "-ilname"].map String.toList

/-- Reads the words of an expression, at most some. `last` is the option before. -/
def readWords : Nat → Text → List Word → Read (List Word)
  | 0, _, words => return words.reverse
  | rounds + 1, last, words => do
    match (← get).1 with
    | [] => return words.reverse
    | word :: rest =>
      modify fun (_, scope) ↦ (rest, scope)
      let go (next : Word) : Read (List Word) := readWords rounds word (next :: words)
      match String.ofList word with
      | "!" | "-not" => go (.not word)
      | "(" => go .open_
      | ")" => go .close
      | "-o" | "-or" => go (.join .either word)
      | "-a" | "-and" => go (.join .both word)
      | "," => go (.join .loose word)
      | _ =>
        if beginsExpression false word then go (.trial (← readOption word))
        else
          working (Work.warn ("paths must precede expression: \x60".toList ++ word ++ ['\'']))
          let isThere ← working (lookAt true word)
          if isThere.isOk ∧ patternOptions.contains last then
            working (Work.warn ("possible unquoted pattern after predicate \x60".toList ++ last ++
              "'?".toList))
          working (Work.leave 1)

end AlignmentTally.Command.Filing.Finding
