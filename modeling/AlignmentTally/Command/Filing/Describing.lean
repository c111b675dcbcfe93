import AlignmentTally.Command.Filing.Making
import AlignmentTally.Command.Filing.Property

/-!
# Describing files

The command that describes files by a format: after a percent sign a letter stands for what is known
about a file, with flags, a width and a precision in between.
-/

namespace AlignmentTally.Command.Filing

open Machine

namespace Description

/-- The flags. -/
def flagLetters : Text := "'-+ #0I".toList

/-- The seconds of a time in a field, with as many places as the precision says, or with nine. -/
def seconds (layout : Layout) (hasAll : Bool) (time : Nat) : Text :=
  let places := if hasAll then 9 else layout.precision.getD 0
  let fraction := Text.padLeft '0' 6 (Text.ofNat (time % 1000000))
  let point := if places = 0 then [] else '.' :: (fraction.take places ++
    List.replicate (places - 6) '0')
  layout.place [] (Text.ofNat (time / 1000000) ++ point) true

/-- What is looked at while a file is described. -/
structure Scene where
  /-- The disk. -/
  disk : Disk
  /-- The zone in which times are shown. -/
  zone : Zone
  /-- How names are quoted. -/
  style : Quoted.Style

/-- A time with its date. -/
def Scene.timeText (scene : Scene) (time : Nat) : Text :=
  (Civil.ofInstant scene.zone (Present.instantOf time)).inLayout
    (Dating.withDigits "%Y-%m-%d %H:%M:%S.%-N %z")

/-- What a letter stands for, if it stands for anything. -/
def Scene.property? (scene : Scene) (path : Text) (number : Nat) (file : DiskFile)
    (layout : Layout) (hasAll : Bool) (letter : Char) : Option Text :=
  let decimal (n : Nat) : Option Text := some (layout.natural 10 false n)
  let hex (n : Nat) : Option Text := some (layout.natural 16 false n)
  let words (text : Text) : Option Text := some (layout.text text)
  match letter with
  | 'a' => some (layout.natural 8 false file.mode)
  | 'A' => words (kindLetter file :: letters file.mode)
  | 'b' => decimal (roomOf file)
  | 'B' => decimal 512
  | 'd' => decimal 1
  | 'D' => hex 1
  | 'f' => hex (kindBits file + file.mode)
  | 'F' => words (kindWords file)
  | 'g' => decimal file.group
  | 'G' => words (Accounts.groupName scene.disk file.group)
  | 'h' => decimal (nameCount scene.disk number)
  | 'i' => decimal (number + 1)
  | 'm' => words ['/']
  | 'n' => words path
  | 'N' =>
    let quoted (text : Text) : Text := layout.text (Quoted.inStyle [] scene.style text)
    some (match file.content with
      | .link target => quoted path ++ " -> ".toList ++ quoted target
      | _ => quoted path)
  | 'o' => decimal 4096
  | 'r' => decimal ((numbersOf file).1 * 256 + (numbersOf file).2)
  | 'R' => hex ((numbersOf file).1 * 256 + (numbersOf file).2)
  | 's' => decimal (sizeOf file)
  | 't' => hex (numbersOf file).1
  | 'T' => hex (numbersOf file).2
  | 'u' => decimal file.owner
  | 'U' => words (Accounts.userName scene.disk file.owner)
  | 'w' | 'y' | 'z' => words (scene.timeText file.changed)
  | 'W' | 'Y' | 'Z' => some (seconds layout hasAll file.changed)
  | 'x' => words (scene.timeText file.accessed)
  | 'X' => some (seconds layout hasAll file.accessed)
  | _ => none

/-- The numbers of devices that two letters stand for. -/
def deviceNumber? (file : DiskFile) : Char → Char → Option Nat
  | 'H', 'd' => some 0
  | 'L', 'd' => some 1
  | 'H', 'r' => some (numbersOf file).1
  | 'L', 'r' => some (numbersOf file).2
  | _, _ => none

/-- The characters that letters stand for after a backslash. -/
def escapes : List (Char × Char) :=
  [('a', '\x07'), ('b', '\x08'), ('e', '\x1b'), ('f', '\x0c'), ('n', '\n'), ('r', '\r'),
    ('t', '\t'), ('v', '\x0b'), ('"', '"'), ('\\', '\\')]

/-- Writes what stands after a backslash. The result is what follows. -/
def putEscaped (text : Text) : Work Text := do
  match text with
  | [] =>
    Work.warn "warning: backslash at end of format"
    Work.put ['\\']
    return []
  | c :: rest =>
    let octal (c : Char) : Bool := '0' ≤ c && c ≤ '7'
    let hex (c : Char) : Bool := c.isDigit || "abcdefABCDEF".toList.contains c
    let value (base : Nat) (digits : Text) : Char :=
      Char.ofNat (Text.natOfDigits base (digits.map Char.toLower) % 256)
    let digits := (text.take 3).takeWhile octal
    let hexDigits := (rest.take 2).takeWhile hex
    if ¬ digits.isEmpty then
      Work.put [value 8 digits]
      return text.drop digits.length
    else if c = 'x' ∧ ¬ hexDigits.isEmpty then
      Work.put [value 16 hexDigits]
      return rest.drop hexDigits.length
    else
      match escapes.lookup c with
      | some shown => Work.put [shown]
      | none =>
        Work.warn ("warning: unrecognized escape '\\" ++ [c] ++ "'")
        Work.put [c]
      return rest

/-- Writes what a format describes a file with, in at most some rounds. -/
def Scene.put (scene : Scene) (path : Text) (number : Nat) (file : DiskFile) (spells : Bool) :
    Nat → Text → Work Unit
  | 0, _ => return ()
  | rounds + 1, text => do
    match text with
    | [] => return ()
    | '%' :: rest =>
      let (layout, after) := takeLayout flagLetters rest
      let spelled := '%' :: rest.take (rest.length - after.length)
      let layout := { layout with plus := false, blank := false }
      let refuse (tail : Text) : Work Unit :=
        Work.fail (Quoted.word (spelled ++ tail) ++ ": invalid directive") 1
      match after with
      | [] =>
        if spelled.length = 1 then Work.put ['%'] else refuse []
      | '%' :: after =>
        if spelled.length = 1 then Work.put ['%'] else refuse ['%']
        put scene path number file spells rounds after
      | letter :: after =>
        match deviceNumber? file letter (after.headD ' ') with
        | some n =>
          Work.put (layout.natural 10 false n)
          put scene path number file spells rounds (after.drop 1)
        | none =>
          if letter = 'C' then
            Work.complain ("failed to get security context of " ++ Quoted.between path ++
              ": No data available")
          let hasAll := spelled.getLast? = some '.'
          Work.put ((scene.property? path number file layout hasAll letter).getD ['?'])
          put scene path number file spells rounds after
    | '\\' :: rest =>
      if spells then put scene path number file spells rounds (← putEscaped rest)
      else
        Work.put ['\\']
        put scene path number file spells rounds rest
    | c :: rest =>
      Work.put [c]
      put scene path number file spells rounds rest

/-- The format in which a file is described by default. -/
def usualFormat (file : DiskFile) : Text :=
  let isDevice :=
    match file.content with
    | .device _ | .stream _ => true
    | _ => false
  "  File: %" ++ (if file.isLink then ['N'] else ['n']) ++
    "\n  Size: %-10s\tBlocks: %-10b IO Block: %-6o %F\nDevice: %Hd,%Ld\tInode: %-10i  Links: " ++
    (if isDevice then "%-5h Device type: %Hr,%Lr".toList else "%h".toList) ++
    "\nAccess: (%04a/%10.10A)  Uid: (%5u/%8U)   Gid: (%5g/%8G)\n" ++
    "Access: %x\nModify: %y\nChange: %z\n Birth: %w"

/-- The format in which a file is described in one line. -/
def terseFormat : Text := "%n %s %b %f %u %g %D %i %h %t %T %X %Y %Z %W %o"

/-- The words for when what is known may be old. -/
def ageWords : List (String × Nat) := [("default", 0), ("never", 1), ("always", 2)]

/-- The style for quoting names that the values ask for. -/
def styleOfValues : Work Quoted.Style := do
  match (← get).values.lookup "QUOTING_STYLE".toList with
  | none => return .shellEscapeAlways
  | some text =>
    match Quoted.Style.words.lookup (String.ofList text) with
    | some style => return style
    | none =>
      Work.warn ("ignoring invalid value of environment variable QUOTING_STYLE: " ++
        Quoted.word text)
      return .shellEscapeAlways

end Description

open Description in
/-- Describes files. -/
def stat (arguments : List Text) : Work Unit := do
  let (chosen, paths) ← Choices.take
    { letters := "c:fLt"
      words := [("dereference", 'L'), ("file-system", 'f'), ("format=", 'c'), ("printf=", 'p'),
        ("terse", 't'), ("cached=", '1')] } arguments
  for (letter, text) in chosen do
    if letter = '1' then let _ ← meaningOf "--cached" ageWords text
  if paths.isEmpty then Work.misuse "missing operand" 1
  let format? := (chosen.filter fun (letter, _) ↦ letter = 'c' || letter = 'p').getLast?
  for path in paths do
    let self ← Routine.self
    let found ← Routine.look fun directory disk ↦
      if path = ['-'] then
        (self.streams.lookup 0).elim (.error .badStream) fun target ↦
          .ok (disk, target.file?.getD 0, target.content disk)
      else
        (disk.findWith (has chosen 'L') directory path).map fun number ↦
          (disk, number, disk.get number)
    match found with
    | .error error =>
      if path = ['-'] then Work.complain ("cannot stat standard input: " ++ error.words)
      else complainTo "cannot statx" path error
    | .ok (disk, number, file) =>
      let zone ← Present.ownZone
      let (spells, format, style) : Bool × Text × Quoted.Style ←
        match format? with
        | some (letter, text) => do pure (letter = 'p', text, ← styleOfValues)
        | none =>
          pure (false, if has chosen 't' then terseFormat else usualFormat file, .literal)
      let scene : Scene := { disk, zone, style }
      scene.put path number file spells (format.length + 1) format
      if format?.all (·.1 = 'c') then Work.put ['\n']

end AlignmentTally.Command.Filing
