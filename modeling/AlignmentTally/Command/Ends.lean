import AlignmentTally.Command.Lines

/-!
# The ends of files

Commands that write the first or the last lines or octets of files. Both also take an old form of
arguments, in which a number comes without an option.
-/

namespace AlignmentTally.Command

open Machine

namespace Ends

/-- How much of a file is written. -/
structure Extent where
  /-- The number of lines or octets. -/
  count : Nat := 10
  /-- Whether lines are counted. -/
  lines : Bool := true
  /-- Whether the number counts from the other end: all but the last ones, or from a line on. -/
  inverse : Bool := false
  /-- What a line ends in. -/
  ending : Char := '\n'

/-- The first lines or octets of a text. -/
def firstOf (extent : Extent) (text : Text) : Text :=
  if extent.lines then
    let lines := Text.wholes extent.ending text
    (lines.take (if extent.inverse then lines.length - extent.count else extent.count)).flatten
  else text.take (if extent.inverse then text.length - extent.count else extent.count)

/-- The last lines or octets of a text. -/
def lastOf (extent : Extent) (text : Text) : Text :=
  if extent.lines then
    let lines := Text.wholes extent.ending text
    (lines.drop (lines.length - extent.count)).flatten
  else text.drop (text.length - extent.count)

/-- Writes the first lines or octets of a stream, in at most some rounds, and gives back what was
read too far. -/
def copyFirst (stream : Nat) (extent : Extent) : Nat → Nat → Work (Except SystemError Unit)
  | 0, _ => return .ok ()
  | _ + 1, 0 => return .ok ()
  | rounds + 1, left => do
    match ← Routine.read stream (if extent.lines then 8192 else min left 8192) with
    | .error error => return .error error
    | .ok [] => return .ok ()
    | .ok text =>
      if extent.lines then
        let taken := (Text.wholes extent.ending text).take left
        let written := taken.flatten
        Work.put written
        let ended := (taken.filter fun line ↦ line.getLast? = some extent.ending).length
        if written.length < text.length then
          Routine.giveBack stream (text.length - written.length)
          return .ok ()
        else copyFirst stream extent rounds (left - ended)
      else
        Work.put text
        copyFirst stream extent rounds (left - text.length)

/-! ### Arguments -/

/-- The number that a text writes with its unit. Complaints end the command. -/
def countOf (lines : Bool) (text : Text) : Work Nat :=
  let kind : Text := if lines then "lines" else "bytes"
  numberWithin ("invalid number of ".toList ++ kind) Amount.usualUnits 0 Amount.greatest text

/-- The extent that options ask for, beginning with some extent. -/
def extentOf (isTail : Bool) (start : Extent) (chosen : List Chosen) : Work Extent := do
  let mut extent := start
  for (letter, text) in chosen do
    if letter = 'n' ∨ letter = 'c' then
      let (inverse, number) :=
        match text with
        | '-' :: number => (!isTail, number)
        | '+' :: number => (isTail, if isTail then number else text)
        | number => (false, number)
      let number := if number.head? = some '+' ∧ ¬ isTail then number.drop 1 else number
      let count ← countOf (letter = 'n') number
      extent := { extent with count, lines := letter = 'n', inverse }
    if letter = 'z' then extent := { extent with ending := '\x00' }
  return extent

/-- Whether titles are written over the files. -/
def showsTitles (chosen : List Chosen) (paths : List Text) : Bool :=
  match Command.lastOf? chosen "qv" with
  | some 'v' => true
  | some _ => false
  | none => 1 < paths.length

/-- The options of both commands. -/
def words : List (String × Char) :=
  [("bytes=", 'c'), ("lines=", 'n'), ("quiet", 'q'), ("silent", 'q'), ("verbose", 'v'),
    ("zero-terminated", 'z')]

/-- The digits that are no options. -/
def digits : String := "0123456789"

/-- An argument of the old form of `head`, as options of its own. -/
def oldHead (argument : Text) : Work (List Text) := do
  let number := (argument.drop 1).takeWhile Char.isDigit
  let letters := (argument.drop 1).drop number.length
  let mut option : Text := ['n']
  let mut unit : Text := []
  let mut others : List Text := []
  for c in letters do
    if c = 'c' then
      option := ['c']
      unit := []
    else if c = 'b' ∨ c = 'k' ∨ c = 'm' then
      option := ['c']
      unit := [c]
    else if c = 'l' then option := ['n']
    else if c = 'q' ∨ c = 'v' ∨ c = 'z' then others := ['-', c] :: others
    else Work.misuse ("invalid trailing option -- " ++ [c]) 1
  return ('-' :: option ++ number ++ unit) :: others

/-- The extent that an argument of the old form of `tail` asks for. -/
def oldTail? (arguments : List Text) : Option Extent := do
  let fits : Bool := match arguments with
    | [_] => true
    | [_, '-' :: _ :: _] => arguments.getLast? = some ['-', '-']
    | [_, _] => true
    | [_, ['-', '-'], _] => true
    | _ => false
  if !fits then none
  let (inverse, rest) ← match arguments with
    | ('+' :: rest) :: _ => some (true, rest)
    | ('-' :: rest) :: _ =>
      if (if rest.head? = some 'c' then rest.drop 1 else rest).isEmpty then none
      else some (false, rest)
    | _ => none
  let number := rest.takeWhile Char.isDigit
  let (lines, unit, after) := match rest.drop number.length with
    | 'b' :: after => (false, 512, after)
    | 'c' :: after => (false, 1, after)
    | 'l' :: after => (true, 1, after)
    | after => (true, 1, after)
  let count := if number.isEmpty then 10 else Text.natOfDigits 10 number
  if after.isEmpty then some { count := count * unit, lines, inverse } else none

/-! ### The commands -/

/-- Writes the title of a file. -/
def putTitle (isFirst : Bool) (path : Text) : Work Unit :=
  let name : Text := if Work.isInput path then "standard input" else path
  Work.put ((if isFirst then [] else ['\n']) ++ "==> ".toList ++ name ++ " <==\n".toList)

/-- Does something with the streams of files, each under its title. -/
def eachFile (titled : Bool) (paths : List Text)
    (act : Nat → Work (Except SystemError Unit)) : Work Unit := do
  let mut isFirst := true
  for path in paths do
    match ← Work.open_ path with
    | .error error =>
      Work.complain ("cannot open " ++ Quoted.between path ++ " for reading: " ++
        error.words.toList)
    | .ok stream =>
      if titled then putTitle isFirst path
      isFirst := false
      match ← act stream with
      | .ok () => pure ()
      | .error error =>
        let name : Text := if Work.isInput path then "standard input" else path
        Work.complain ("error reading " ++ Quoted.between name ++ ": " ++ error.words.toList)
      Work.close stream

/-- Reads all of a stream and writes a part of it. -/
def putPart (part : Text → Text) (stream : Nat) : Work (Except SystemError Unit) := do
  match ← Routine.readAll stream with
  | .error error => return .error error
  | .ok text =>
    Work.put (part text)
    return .ok ()

/-- Writes all but the last lines or octets of a stream, in at most some rounds. `held` is what was
read and may belong to them. -/
def copyBut (extent : Extent) (stream : Nat) : Nat → Text → Work (Except SystemError Unit)
  | 0, _ => return .ok ()
  | rounds + 1, held => do
    if (← get).broken.isSome then return .ok ()
    match ← Routine.read stream 65536 with
    | .error error => return .error error
    | .ok [] =>
      Routine.giveBack stream held.length
      return .ok ()
    | .ok text =>
      let text := held ++ text
      let before := firstOf extent text
      Work.put before
      copyBut extent stream rounds (text.drop before.length)

/-- Writes what follows the first lines or octets of a stream, in at most some rounds. `left` is the
number of lines or octets that are still left out. -/
def copyAfter (extent : Extent) (stream : Nat) : Nat → Nat → Work (Except SystemError Unit)
  | 0, _ => return .ok ()
  | rounds + 1, left => do
    if (← get).broken.isSome then return .ok ()
    match ← Routine.read stream 65536 with
    | .error error => return .error error
    | .ok [] => return .ok ()
    | .ok text =>
      if extent.lines then
        let lines := Text.wholes extent.ending text
        Work.put (lines.drop left).flatten
        copyAfter extent stream rounds (left - text.count extent.ending)
      else
        Work.put (text.drop left)
        copyAfter extent stream rounds (left - text.length)

/-- Writes the first lines of files. -/
def head (arguments : List Text) : Work Unit := do
  let arguments ←
    match arguments with
    | ('-' :: c :: letters) :: rest =>
      if c.isDigit then do pure ((← oldHead ('-' :: c :: letters)) ++ rest) else pure arguments
    | arguments => pure arguments
  let (chosen, paths) ← Choices.take { letters := "c:n:qvz" ++ digits, words } arguments
  if let some (c, _) := chosen.find? (·.1.isDigit) then
    Work.misuse ("invalid trailing option -- " ++ [c]) 1
  let extent ← extentOf false {} chosen
  let paths := if paths.isEmpty then [['-']] else paths
  eachFile (showsTitles chosen paths) paths fun stream ↦
    if extent.inverse then copyBut extent stream endless []
    else copyFirst stream extent endless extent.count

/-- Writes the last lines of files. -/
def tail (arguments : List Text) : Work Unit := do
  let (start, arguments) : Extent × List Text :=
    match oldTail? arguments with
    | some extent => (extent, arguments.drop 1)
    | none => ({}, arguments)
  let (chosen, paths) ← Choices.take
    { letters := "c:n:fFqs:vz" ++ digits
      words := words ++ [("follow?", 'f'), ("retry", 'R'), ("pid=", 'p'), ("sleep-interval=", 's'),
        ("max-unchanged-stats=", 'u')] } arguments
  if let some (c, _) := chosen.find? (·.1.isDigit) then
    Work.fail ("option used in invalid context -- " ++ [c]) 1
  let extent ← extentOf true start chosen
  if extent.count = 0 ∧ ¬ extent.inverse ∧ ¬ (has chosen 'f' ∨ has chosen 'F') then return
  let paths := if paths.isEmpty then [['-']] else paths
  eachFile (showsTitles chosen paths) paths fun stream ↦
    if extent.inverse then copyAfter extent stream endless (extent.count - 1)
    else putPart (lastOf extent) stream

end Ends

end AlignmentTally.Command
