import AlignmentTally.Command.Starting

/-!
# Cutting files into pieces

The command that writes the parts of a file into files of their own: parts of so many lines or octets,
or so many parts of about the same size. The names of the files count on in an alphabet.
-/

namespace AlignmentTally.Command

open Machine

namespace Splitting

/-! ### Names -/

/-- How the names of files go on. -/
structure Naming where
  /-- What all of them begin with. -/
  start : Text := ['x']
  /-- What all of them end with. -/
  ending : Text := []
  /-- The digits that count. -/
  alphabet : Text := "abcdefghijklmnopqrstuvwxyz"
  /-- The number of digits. -/
  width : Nat := 2
  /-- The number of the first file. -/
  first : Nat := 0
  /-- Whether there are more digits when those that there are do not suffice. -/
  grows : Bool := true

/-- A number in digits of an alphabet, at least some of them. -/
def digitsIn (alphabet : Text) : Nat → Nat → Text
  | 0, _ => []
  | width + 1, n =>
    digitsIn alphabet width (n / alphabet.length) ++ [alphabet[n % alphabet.length]?.getD ' ']

namespace Naming

/-- The name of the file under a number. While the digits suffice they count; a name that grows keeps
its last letter in front, so that the names stay in order. -/
def name? (naming : Naming) : Nat → Nat → Text → Nat → Option Text
  | 0, _, _, _ => none
  | rounds + 1, width, front, n =>
    let base := naming.alphabet.length
    let room := Nat.pow base width
    let usable := if naming.grows then room - Nat.pow base (width - 1) else room
    if n < usable then
      some (naming.start ++ front ++ digitsIn naming.alphabet width n ++ naming.ending)
    else if naming.grows then
      naming.name? rounds (width + 1) (front ++ (naming.alphabet.getLast?).toList) (n - usable)
    else none

/-- The name of the file that comes at some place. -/
def nameAt? (naming : Naming) (place : Nat) : Option Text :=
  naming.name? (place + 2) naming.width [] (naming.first + place)

end Naming

/-! ### Parts -/

/-- How a file is cut. -/
inductive Way where
  /-- After so many lines. -/
  | lines (count : Nat)
  /-- After so many octets. -/
  | octets (count : Nat)
  /-- After as many whole lines as make at most so many octets. -/
  | wholeLines (most : Nat)
  /-- Into so many parts. -/
  | parts (count : Nat)
  /-- Into so many parts of whole lines. -/
  | lineParts (count : Nat)
  /-- Into so many parts, to which the lines go in turn. -/
  | turns (count : Nat)

/-- The number of parts, if it is given. -/
def Way.count? : Way → Option Nat
  | .parts n | .lineParts n | .turns n => some n
  | _ => none

/-- A list in pieces of some length, the last of which may be shorter. -/
def inPieces {α : Type} (length : Nat) : Nat → List α → List (List α)
  | 0, _ => []
  | rounds + 1, items =>
    if items.isEmpty then [] else items.take length :: inPieces length rounds (items.drop length)

/-- A text in pieces of whole lines with at most some octets. A longer line is cut. -/
def linesWithin (most : Nat) (lineEnd : Char) : Nat → Text → List Text
  | 0, _ => []
  | rounds + 1, text =>
    if text.isEmpty then []
    else
      let window := text.take most
      if window.length < most then [text]
      else
        let after := window.reverse.takeWhile (· ≠ lineEnd)
        let size := if after.length = window.length then most else most - after.length
        text.take size :: linesWithin most lineEnd rounds (text.drop size)

/-- A text in so many pieces of one size, the last of which has the rest. -/
def evenParts (count size : Nat) (text : Text) : List Text :=
  (List.range count).map fun i ↦
    let rest := text.drop (i * size)
    if i + 1 = count then rest else rest.take size

/-- A text in so many pieces of whole lines: each ends with the line in which a piece of one size
would end. `place` is the number of octets before the text, `stop` that of the last octet of the
piece. -/
def cutByLines (count size whole : Nat) (lineEnd : Char) :
    Nat → (number place stop : Nat) → Text → List Text
  | 0, _, _, _, _ => []
  | rounds + 1, number, place, stop, text =>
    if count < number then []
    else
      let nextStop := if number + 1 = count then whole - 1 else stop + size
      -- the lines before have gone beyond the end of this piece
      if stop + 1 ≤ place ∧ number ≠ 1 then
        [] :: cutByLines count size whole lineEnd rounds (number + 1) place nextStop text
      else
        let skip := min text.length (stop - place)
        let after := (text.drop skip).takeWhile (· ≠ lineEnd)
        let length := skip + after.length + 1
        let piece := text.take length
        piece ::
          cutByLines count size whole lineEnd rounds (number + 1) (place + piece.length) nextStop
            (text.drop length)

/-- The parts of a text. -/
def Way.cut (way : Way) (lineEnd : Char) (text : Text) : List Text :=
  let wholes := Text.wholes lineEnd text
  match way with
  | .lines count => (inPieces count (wholes.length + 1) wholes).map List.flatten
  | .octets count => inPieces count (text.length + 1) text
  | .wholeLines most => linesWithin most lineEnd (text.length + 1) text
  | .parts count => evenParts count (max text.length count / count) text
  | .lineParts count =>
    let whole := max text.length count
    let size := whole / count
    cutByLines count size whole lineEnd (count + 1) 1 0
      (if count = 1 then whole - 1 else size - 1) text
  | .turns count =>
    (List.range count).map fun i ↦
      ((wholes.zipIdx.filter fun (_, place) ↦ place % count = i).map Prod.fst).flatten

/-! ### What is asked for -/

/-- What is asked for. -/
structure Plan where
  /-- How the file is cut. -/
  way : Option Way := none
  /-- The only part that is written, to the output. -/
  only : Option Nat := none
  /-- What ends a line, if it was said. -/
  lineEnd : Option Char := none
  /-- How files are named. -/
  naming : Naming := {}
  /-- The number of digits, if it was asked for. -/
  width : Nat := 0
  /-- The number of the first file in digits, if it was asked for. -/
  firstDigits : Option Text := none
  /-- Whether empty files are left out. -/
  omitsEmpty : Bool := false
  /-- Whether files are told. -/
  tells : Bool := false
  /-- The command that takes a part instead of a file. -/
  command : Option Text := none
  /-- Whether the number of lines is an option by itself. -/
  hasDigits : Bool := false

/-- Complains that there are several ways. -/
def refuseSecond : Work Plan := Work.misuse "cannot split in more than one way" 1

/-- A plan with one way. -/
def withWay (plan : Plan) (way : Way) : Work Plan :=
  if plan.way.isSome then refuseSecond else return { plan with way := some way }

/-- The units of sizes. -/
def units : String := "bEGKkMmPTYZ"

/-- A plan with a number of parts. -/
def withParts (plan : Plan) (text : Text) : Work Plan := do
  let text := text.dropWhile (" \t\n\x0b\x0c\r".toList.contains ·)
  let (make, text) : (Nat → Way) × Text :=
    match text with
    | 'r' :: '/' :: rest => (Way.turns, rest)
    | 'l' :: '/' :: rest => (Way.lineParts, rest)
    | text => (Way.parts, text)
  let number (words : String) (most : Nat) (text : Text) : Work Nat :=
    numberWithin words.toList "" 1 most text
  let first := text.takeWhile (· ≠ '/')
  match text.drop first.length with
  | [] =>
    let count ← number "invalid number of chunks" Amount.greatest text
    withWay plan (make count)
  | _ :: second =>
    let count ← number "invalid number of chunks" Amount.greatest second
    let only ←
      if first.isEmpty then pure none
      else do pure (some (← number "invalid chunk number" count first))
    withWay { plan with only } (make count)

/-- A plan with digits of its own. -/
def withDigits (plan : Plan) (alphabet kind text : Text) : Work Plan := do
  let naming := { plan.naming with alphabet }
  if text.isEmpty then return { plan with naming }
  if ¬ text.all alphabet.contains then
    Work.misuse (Quoted.word text ++ ": invalid start value for " ++ kind ++ " suffix") 1
  let zeros := text.takeWhile (· = '0')
  let rest := text.drop zeros.length
  return { plan with naming, firstDigits := some (if rest.isEmpty then ['0'] else rest) }

/-- A plan with one more option. -/
def withOption (plan : Plan) (letter : Char) (text : Text) : Work Plan := do
  match letter with
  | 'a' =>
    return { plan with
      width := ← numberWithin "invalid suffix length".toList "" 0 Amount.greatest text }
  | '+' =>
    if text.contains '/' then
      Work.misuse ("invalid suffix " ++ Quoted.word text ++ ", contains directory separator") 1
    return { plan with naming := { plan.naming with ending := text } }
  | 'b' =>
    let most := 9223372036854775807
    if plan.way.isSome then refuseSecond
    else withWay plan (.octets (← numberWithin "invalid number of bytes".toList units 1 most text))
  | 'C' =>
    let most := 9223372036854775807
    if plan.way.isSome then refuseSecond
    else
      withWay plan (.wholeLines (← numberWithin "invalid number of bytes".toList units 1 most text))
  | 'l' =>
    if plan.way.isSome then refuseSecond
    else
      withWay plan
        (.lines (← numberWithin "invalid number of lines".toList "" 1 Amount.greatest text))
  | 'n' => if plan.way.isSome then refuseSecond else withParts plan text
  | 't' =>
    let c ←
      match text with
      | [] => Work.fail "empty record separator" 1
      | [c] => pure c
      | ['\\', '0'] => pure '\x00'
      | text => Work.fail ("multi-character separator " ++ Quoted.word text) 1
    if plan.lineEnd.any (· ≠ c) then Work.fail "multiple separator characters specified" 1
    return { plan with lineEnd := some c }
  | 'd' => withDigits plan "0123456789" "numerical" text
  | 'x' => withDigits plan "0123456789abcdef" "hexadecimal" text
  | 'e' => return { plan with omitsEmpty := true }
  | '!' => return { plan with command := some text }
  | 'v' => return { plan with tells := true }
  | c =>
    if ¬ c.isDigit then return plan
    let digit := c.toNat - '0'.toNat
    match plan.way, plan.hasDigits with
    | some (.lines n), true => return { plan with way := some (.lines (n * 10 + digit)) }
    | none, _ => return { plan with way := some (.lines digit), hasDigits := true }
    | _, _ => refuseSecond

/-- The number of digits that the numbers below some number need. -/
def digitsFor (base : Nat) : Nat → Nat → Nat
  | 0, _ => 0
  | rounds + 1, n => if n < base then 1 else digitsFor base rounds (n / base) + 1

/-- A plan with the number of digits that suffices, if that can be known. -/
def withWidth (plan : Plan) : Work Plan := do
  let base := plan.naming.alphabet.length
  let first? := plan.firstDigits.bind Text.toNat?
  let isKnown := (plan.way.bind Way.count?).isSome
  let needed :=
    match plan.way.bind Way.count? with
    | none => 0
    | some count =>
      let last := count - 1
      let last :=
        match first? with
        | some first => if first < count then last + first else last
        | none => last
      digitsFor base 64 last
  if plan.width ≠ 0 ∧ plan.width < needed then
    Work.fail ("the suffix length needs to be at least " ++ Text.ofNat needed) 1
  let width := if plan.width ≠ 0 then plan.width else max 2 needed
  let grows := plan.width = 0 && !isKnown && plan.firstDigits.isNone
  let first := (plan.firstDigits.map (Text.natOfDigits base)).getD 0
  return { plan with naming := { plan.naming with width, grows, first } }

/-! ### Writing -/

/-- Gives a part to a command that knows the name of the file. -/
def feed (command name part : Text) : Work Unit := do
  let values := (← get).values
  let shell := (Starting.valueOf? values "SHELL").getD "/bin/sh"
  let values := ("FILE".toList, name) :: values.filter (·.1 ≠ "FILE".toList)
  let (output, input) ← Routine.pipe
  let start : Work Unit := do
    Routine.close input
    let _ ← Routine.lead 0 output
    Routine.close output
    let shellName := ((shell.reverse.takeWhile (· ≠ '/')).reverse)
    let error ← Routine.exec shell [shellName, "-c", command] values
    Work.fail ("failed to run command: \"" ++ shell ++ " -c " ++ command ++ "\": " ++
      error.words) 1
  let process ← Routine.fork start (fun status _ ↦ .exit status) fun _ _ ↦ .exit 0
  Routine.close output
  let _ ← Routine.write input part
  Routine.close input
  match ← Starting.waitFor process with
  | .exited 0 => return ()
  | .exited n =>
    Work.fail ("with FILE=" ++ Quoted.name name ++ ", exit " ++ Text.ofNat n ++
      " from command: " ++ command) n
  | .killed n _ =>
    if n = Signal.pipe then return ()
    let signal : Text := ((Signal.name? n).map String.toList).getD (Text.ofNat n)
    Work.fail ("with FILE=" ++ Quoted.name name ++ ", signal " ++ signal ++ " from command: " ++
      command) (n + 128)

/-- Writes a part into a file. -/
def write (plan : Plan) (input : Option Nat) (name part : Text) : Work Unit := do
  match plan.command with
  | some command =>
    if plan.tells then Work.putLine ("executing with FILE=" ++ Quoted.name name)
    feed command name part
  | none =>
    if plan.tells then Work.putLine ("creating file " ++ Quoted.between name)
    let there ← Routine.look fun directory disk ↦ (disk.find directory name).toOption
    if there.isSome ∧ there = input then
      Work.fail (Quoted.between name ++ " would overwrite input; aborting") 1
    match ← Routine.openFile name .replace with
    | .error error => Work.fail (Quoted.name name ++ ": " ++ error.words) 1
    | .ok stream =>
      match ← Routine.write stream part with
      | .ok () => Routine.close stream
      | .error error => Work.fail (Quoted.name name ++ ": " ++ error.words) 1

end Splitting

open Splitting in
/-- Cuts a file into files. -/
def split (arguments : List Text) : Work Unit := do
  -- of several numbers of lines that are options by themselves the last one counts
  let isNumber (argument : Text) : Bool :=
    argument.head? = some '-' && 1 < argument.length && (argument.drop 1).all Char.isDigit
  let last := (arguments.zipIdx.filter fun (argument, _) ↦ isNumber argument).getLast?.map Prod.snd
  let arguments := (arguments.zipIdx.filter fun (argument, place) ↦
    !isNumber argument || some place = last).map Prod.fst
  let (chosen, operands) ← Choices.take
    { letters := "0123456789C:a:b:del:n:t:ux"
      words := [("bytes=", 'b'), ("lines=", 'l'), ("line-bytes=", 'C'), ("number=", 'n'),
        ("elide-empty-files", 'e'), ("unbuffered", 'u'), ("suffix-length=", 'a'),
        ("additional-suffix=", '+'), ("numeric-suffixes?", 'd'), ("hex-suffixes?", 'x'),
        ("filter=", '!'), ("verbose", 'v'), ("separator=", 't')] } arguments
  let mut plan : Plan := {}
  for (letter, text) in chosen do plan ← withOption plan letter text
  if plan.only.isSome ∧ plan.command.isSome then
    Work.misuse "--filter does not process a chunk extracted to stdout" 1
  if let some (.lines 0) := plan.way then Work.misuse "invalid number of lines: '0'" 1
  plan ← withWidth plan
  let path := operands.headD ['-']
  if let some start := operands[1]? then
    plan := { plan with naming := { plan.naming with start } }
  if let some extra := operands[2]? then Work.misuse ("extra operand " ++ Quoted.word extra) 1
  if plan.firstDigits.any (plan.naming.width < ·.length) then
    Work.misuse "numerical suffix start value is too large for the suffix length" 1
  match ← Work.open_ path with
  | .error error =>
    Work.fail ("cannot open " ++ Quoted.between path ++ " for reading: " ++ error.words) 1
  | .ok stream =>
    let input ← Routine.fileOf? stream
    match ← Routine.readAll stream with
    | .error error => Work.fail (Quoted.name path ++ ": " ++ error.words) 1
    | .ok text =>
      let parts := (plan.way.getD (.lines 1000)).cut (plan.lineEnd.getD '\n') text
      match plan.only with
      | some number => Work.put ((parts[number - 1]?).getD [])
      | none =>
        let parts := if plan.omitsEmpty then parts.filter (!·.isEmpty) else parts
        for (part, place) in parts.zipIdx do
          match plan.naming.nameAt? place with
          | some name => write plan input name part
          | none => Work.fail "output file suffixes exhausted" 1

end AlignmentTally.Command
