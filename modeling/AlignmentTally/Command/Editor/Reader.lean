import AlignmentTally.Command.Editor.Script
import AlignmentTally.Number.Scanned

/-!
# Reading scripts of the stream editor

Commands are letters, after addresses and before what belongs to them. They end with a line or a
semicolon; texts and names of files go on to the end of the line. A complaint says where reading
stopped.
-/

namespace AlignmentTally.Command.Editor

open Machine

/-- Where a part of a script comes from. -/
inductive Origin where
  /-- An argument, counted from one. -/
  | argument (number : Nat)
  /-- A file. -/
  | file (path : Text)
  deriving Inhabited

/-- How far a script was read. -/
structure Reading where
  /-- What is left of the part. -/
  rest : Text
  /-- The part as it was. -/
  whole : Text
  /-- Where it comes from. -/
  origin : Origin
  /-- Whether expressions are in the extended notation. -/
  extended : Bool
  /-- What was read. -/
  script : Script := {}
  /-- The blocks that were begun and not ended: where, the last one first. -/
  blocks : List Nat := []

/-- Reads a script or complains. -/
abbrev Read := StateT Reading (Except Text)

namespace Read

/-- Complains in the words of the place up to which the script was read. -/
def refuse {α : Type} (words : Text) : Read α := do
  let reading ← get
  let consumed := reading.whole.length - reading.rest.length
  let place : Text :=
    match reading.origin with
    | .argument number =>
      "-e expression #" ++ Text.ofNat number ++ ", char " ++ Text.ofNat consumed
    | .file path =>
      let lines := (reading.whole.take consumed).count '\n'
      "file " ++ path ++ " line " ++ Text.ofNat (lines + 1)
  throw (place ++ ": ".toList ++ words)

/-- The next character. -/
def peek : Read (Option Char) := return (← get).rest.head?

/-- Goes on behind so many characters. -/
def skip (count : Nat) : Read Unit :=
  modify fun reading ↦ { reading with rest := reading.rest.drop count }

/-- Takes the characters at the start that have a property. -/
def takeWhile (p : Char → Bool) : Read Text := do
  let taken := (← get).rest.takeWhile p
  skip taken.length
  return taken

/-- Skips blanks. -/
def skipBlanks : Read Unit := do
  let _ ← takeWhile fun c ↦ c = ' ' || c = '\t'
  return ()

/-- Skips blanks and line ends. -/
def skipSpace : Read Unit := do
  let _ ← takeWhile fun c ↦ " \t\n\r\x0b\x0c".toList.contains c
  return ()

/-- Takes a number, if there is one. -/
def number? : Read (Option Nat) := do
  return Text.toNat? (← takeWhile Char.isDigit)

end Read

open Read

/-! ### Between delimiters -/

/-- The characters within brackets up to their end, as they are written. -/
def bracketLength (isFirst : Bool) : Text → Nat
  | [] => 0
  | '[' :: mark :: rest =>
    if mark = ':' ∨ mark = '.' ∨ mark = '=' then 2 + bracketLength false rest
    else 1 + bracketLength false (mark :: rest)
  | ']' :: rest => if isFirst then 1 + bracketLength false rest else 1
  | '\n' :: _ => 0
  | _ :: rest => 1 + bracketLength false rest
termination_by text => text.length

/-- The text up to a delimiter. In an expression, delimiters within brackets do not count, and a
backslash before a delimiter or `n` is taken away. -/
def untilDelimiter (delimiter : Char) (isRegex : Bool) : Nat → Text → Text → Option (Text × Text)
  | 0, _, _ => none
  | rounds + 1, text, taken =>
    match text with
    | [] => none
    | '\n' :: rest =>
      if isRegex then none else untilDelimiter delimiter isRegex rounds rest ('\n' :: taken)
    | ['\\'] => none
    | '\\' :: c :: rest =>
      if c = delimiter ∧ ¬ (c = '&' ∧ ¬ isRegex) then
        untilDelimiter delimiter isRegex rounds rest (c :: taken)
      else if c = 'n' ∧ isRegex then
        untilDelimiter delimiter isRegex rounds rest ('\n' :: taken)
      else untilDelimiter delimiter isRegex rounds rest (c :: '\\' :: taken)
    | c :: rest =>
      if c = delimiter then some (taken.reverse, rest)
      else if c = '[' ∧ isRegex then
        let inside := match rest with
          | '^' :: inside => 1 + bracketLength true inside
          | inside => bracketLength true inside
        untilDelimiter delimiter isRegex rounds (rest.drop inside)
          ((rest.take inside).reverse ++ c :: taken)
      else untilDelimiter delimiter isRegex rounds rest (c :: taken)

/-- The character that an escape stands for, and what follows it. -/
def escape? (text : Text) : Option (Char × Text) :=
  let numbered (base most : Nat) (rest : Text) : Option (Char × Text) :=
    let digits := (rest.take most).takeWhile fun c ↦
      Scanned.isDigit 16 c && Scanned.digit c < base
    if digits.isEmpty then none
    else some (.ofNat (Text.natOfDigits base digits % 256), rest.drop digits.length)
  match text with
  | 'a' :: rest => some ('\x07', rest)
  | 'f' :: rest => some ('\x0c', rest)
  | 'n' :: rest => some ('\n', rest)
  | 'r' :: rest => some ('\r', rest)
  | 't' :: rest => some ('\t', rest)
  | 'v' :: rest => some ('\x0b', rest)
  | 'c' :: c :: rest => some (.ofNat (c.toUpper.toNat ^^^ 64), rest)
  | 'd' :: rest => numbered 10 3 rest
  | 'o' :: rest => numbered 8 3 rest
  | 'x' :: rest => numbered 16 2 rest
  | _ => none

/-- An expression with the escapes for single characters replaced. -/
def withoutEscapes : Nat → Text → Text
  | 0, text => text
  | rounds + 1, text =>
    match text with
    | '\\' :: rest =>
      match escape? rest with
      | some (c, after) =>
        if "dox".toList.contains (rest.headD ' ') ∧ "$*.[\\]^".toList.contains c then
          '\\' :: c :: withoutEscapes rounds after
        else c :: withoutEscapes rounds after
      | none =>
        match rest with
        | c :: rest => '\\' :: c :: withoutEscapes rounds rest
        | [] => ['\\']
    | c :: rest => c :: withoutEscapes rounds rest
    | [] => []

/-- Reads the expression that a text writes; an empty one is the one that was used last. -/
def readPattern (text : Text) (manner : Regex.Manner) : Read (Option Pattern) := do
  if text.isEmpty then
    if manner ≠ {} then refuse "cannot specify modifiers on empty regexp"
    return none
  let extended := (← get).extended
  match Regex.read { extended, strict := extended, refusesBareClass := true } (withoutEscapes text.length text) with
  | .ok (regex, groups) => return some ⟨regex, manner, groups⟩
  | .error fault => refuse fault.words.toList

/-! ### Addresses -/

/-- Reads the letters after an expression of an address. -/
def readManner : Nat → Regex.Manner → Read Regex.Manner
  | 0, manner => return manner
  | rounds + 1, manner => do
    match ← peek with
    | some 'I' =>
      skip 1
      readManner rounds { manner with foldsCase := true }
    | some 'M' =>
      skip 1
      readManner rounds { manner with hasLines := true }
    | _ => return manner

/-- Reads an expression of an address up to a delimiter. -/
def readFitting (delimiter : Char) : Read Address := do
  let reading ← get
  match untilDelimiter delimiter true (reading.rest.length + 1) reading.rest [] with
  | none =>
    skip reading.rest.length
    refuse "unterminated address regex"
  | some (text, rest) =>
    set { reading with rest }
    let manner ← readManner reading.rest.length {}
    return .fitting (← readPattern text manner)

/-- Reads an address, if there is one. -/
def readAddress? : Read (Option Address) := do
  match ← peek with
  | some '/' =>
    skip 1
    return some (← readFitting '/')
  | some '\\' =>
    skip 1
    match ← peek with
    | some delimiter =>
      skip 1
      return some (← readFitting delimiter)
    | none => refuse "unterminated address regex"
  | some '$' =>
    skip 1
    return some .last
  | some c =>
    if ¬ c.isDigit then return none
    let first := (← number?).getD 0
    skipBlanks
    match ← peek with
    | some '~' =>
      skip 1
      skipBlanks
      return some (.every first ((← number?).getD 0))
    | _ => return some (.line first)
  | none => return none

/-- Reads the last line of a range. -/
def readRangeEnd : Read RangeEnd := do
  match ← peek with
  | some '+' =>
    skip 1
    match ← number? with
    | some n => return .after n
    | none => refuse "expected number"
  | some '~' =>
    skip 1
    match ← number? with
    | some n => return .multiple n
    | none => refuse "expected number"
  | _ =>
    match ← readAddress? with
    | some address => return .address address
    | none =>
      skip 1
      refuse "unexpected `,'"

/-- Reads the addresses of a command. -/
def readSelection : Read Selection := do
  match ← peek with
  | some '+' | some '~' =>
    skip 2
    refuse "invalid usage of +N or ~N as first address"
  | _ => pure ()
  let first ← readAddress?
  skipBlanks
  let mut selection : Selection := { first }
  if first.isSome ∧ (← peek) = some ',' then
    skip 1
    skipBlanks
    selection := { selection with last := some (← readRangeEnd) }
    skipBlanks
  match selection.first, selection.last with
  | some (.line 0), some (.address (.fitting _)) =>
    selection := { selection with fromStart := true }
  | some (.line 0), _ =>
    skip 1
    refuse "invalid usage of line address 0"
  | _, _ => pure ()
  if (← peek) = some '!' then
    selection := { selection with isNegated := true }
    skip 1
    skipBlanks
    if (← peek) = some '!' then
      skip 1
      refuse "multiple `!'s"
  return selection

/-! ### Replacements -/

/-- The pieces of what replaces a text. -/
def readPieces : Nat → Text → Text → List Piece → List Piece
  | 0, _, _, pieces => pieces.reverse
  | rounds + 1, text, plain, pieces =>
    let flushed := if plain.isEmpty then pieces else .text plain.reverse :: pieces
    let add (piece : Piece) (rest : Text) : List Piece :=
      readPieces rounds rest [] (piece :: flushed)
    match text with
    | [] => flushed.reverse
    | '&' :: rest => add (.group 0) rest
    | '\\' :: 'U' :: rest => add (.recase .upper) rest
    | '\\' :: 'L' :: rest => add (.recase .lower) rest
    | '\\' :: 'E' :: rest => add (.recase .keep) rest
    | '\\' :: 'u' :: rest => add (.recaseNext .upper) rest
    | '\\' :: 'l' :: rest => add (.recaseNext .lower) rest
    | '\\' :: rest =>
      match rest with
      | [] => readPieces rounds [] ('\\' :: plain) pieces
      | c :: after =>
        if c.isDigit then add (.group (c.toNat - '0'.toNat)) after
        else
          match escape? rest with
          | some (c, after) => readPieces rounds after (c :: plain) pieces
          | none => readPieces rounds after (c :: plain) pieces
    | c :: rest => readPieces rounds rest (c :: plain) pieces

/-- Takes the rest of the line as the name of a file. -/
def readPath : Read Text := do
  skipBlanks
  let path ← takeWhile (· ≠ '\n')
  if path.isEmpty then refuse "missing filename in r/R/w/W commands"
  return path

/-- Ends a command. -/
def finish : Read Unit := do
  skipBlanks
  match ← peek with
  | none | some '}' | some '#' => return ()
  | some '\n' | some ';' => skip 1
  | some _ =>
    skip 1
    refuse "extra characters after command"

/-- The letters after a replacement. -/
structure Flags where
  /-- What is taken into account. -/
  manner : Regex.Manner := {}
  /-- The number of the first fit. -/
  number : Option Nat := none
  /-- Whether all later fits are replaced. -/
  isGlobal : Bool := false
  /-- Whether the line is written. -/
  prints : Bool := false
  /-- The file to which it is written. -/
  output : Option Text := none

/-- Reads the letters after a replacement. -/
def readFlags : Nat → Flags → Read Flags
  | 0, flags => return flags
  | rounds + 1, flags => do
    match ← peek with
    | none => return flags
    | some c =>
      match c with
      | 'i' | 'I' =>
        skip 1
        readFlags rounds { flags with manner := { flags.manner with foldsCase := true } }
      | 'm' | 'M' =>
        skip 1
        readFlags rounds { flags with manner := { flags.manner with hasLines := true } }
      | 'p' =>
        skip 1
        if flags.prints then refuse "multiple `p' options to `s' command"
        readFlags rounds { flags with prints := true }
      | 'g' =>
        skip 1
        if flags.isGlobal then refuse "multiple `g' options to `s' command"
        readFlags rounds { flags with isGlobal := true }
      | 'w' =>
        skip 1
        let path ← readPath
        return { flags with output := some path }
      | ' ' | '\t' | '\r' =>
        skip 1
        readFlags rounds flags
      | '}' | '#' | '\n' | ';' => return flags
      | c =>
        if c.isDigit then
          if flags.number.isSome then
            skip 1
            refuse "multiple number options to `s' command"
          let number := (← number?).getD 0
          if number = 0 then refuse "number option to `s' command may not be zero"
          readFlags rounds { flags with number := some number }
        else
          skip 1
          refuse "unknown option to `s'"

/-- Reads two texts between delimiters. -/
def readTwo (command : Char) (isRegex : Bool) : Read (Text × Text) := do
  let unterminated : Read (Text × Text) := do
    skip (← get).rest.length
    refuse ("unterminated `" ++ command :: "' command".toList)
  match ← peek with
  | none => unterminated
  | some delimiter =>
    skip 1
    let rest := (← get).rest
    match untilDelimiter delimiter isRegex (rest.length + 1) rest [] with
    | none => unterminated
    | some (first, rest) =>
      match untilDelimiter delimiter false (rest.length + 1) rest [] with
      | none => unterminated
      | some (second, rest) =>
        modify ({ · with rest })
        return (first, second)

/-- The greatest group that pieces name. -/
def greatestGroup (pieces : List Piece) : Nat :=
  (pieces.map fun piece ↦
    match piece with
    | .group number => number
    | _ => 0).foldl max 0

/-- Reads a replacement. -/
def readSubstitution : Read Action := do
  let (expression, replacement) ← readTwo 's' true
  let flags ← readFlags (← get).rest.length.succ {}
  let pattern ← readPattern expression flags.manner
  let pieces := readPieces (replacement.length + 1) replacement [] []
  let greatest := greatestGroup pieces
  if pattern.any (·.groups < greatest) then
    refuse ("invalid reference \\" ++ Text.ofNat greatest ++ " on `s' command's RHS".toList)
  return .substitute
    { pattern, pieces, number := flags.number.getD 1, isGlobal := flags.isGlobal
      prints := flags.prints, output := flags.output }

/-- The characters of a text of which some are written with a backslash. -/
def plainChars : Text → Text
  | '\\' :: '\\' :: rest => '\\' :: plainChars rest
  | '\\' :: 'n' :: rest => '\n' :: plainChars rest
  | '\\' :: c :: rest =>
    match escape? [c] with
    | some (c, _) => c :: plainChars rest
    | none => '\\' :: c :: plainChars rest
  | c :: rest => c :: plainChars rest
  | [] => []

/-- Reads a replacement of characters. -/
def readTransliteration : Read Action := do
  let (first, second) ← readTwo 'y' false
  let (first, second) := (plainChars first, plainChars second)
  if first.length ≠ second.length then
    refuse "strings for `y' command are different lengths"
  return .transliterate (first.zip second)

/-! ### Texts -/

/-- The text of a command up to a line end without a backslash before it: the text, and what follows
it. -/
def textOf : Nat → Text → Text → Text × Text
  | 0, text, taken => (taken.reverse, text)
  | rounds + 1, text, taken =>
    match text with
    | [] => (taken.reverse, [])
    | '\n' :: rest => (taken.reverse, rest)
    | '\\' :: rest =>
      match rest with
      | [] => (taken.reverse, [])
      | c :: after =>
        match if c = '\n' then none else escape? rest with
        | some (c, after) => textOf rounds after (c :: taken)
        | none => textOf rounds after (c :: taken)
    | c :: rest => textOf rounds rest (c :: taken)

/-- Reads the text of a command. -/
def readText : Read Text := do
  skipBlanks
  match ← peek with
  | none => refuse "expected \\ after `a', `c' or `i'"
  | some '\\' =>
    skip 1
    let blanks ← takeWhile fun c ↦ c = ' ' || c = '\t'
    match ← peek with
    | none => return []
    | some '\n' =>
      skip 1
      take (← get).rest
    | some _ => take (blanks ++ (← get).rest)
  | some _ => take (← get).rest
where
  /-- Takes the text at the start of what is left. -/
  take (rest : Text) : Read Text := do
    if rest.isEmpty then return []
    let (text, rest) := textOf (rest.length + 1) rest []
    modify ({ · with rest })
    return text ++ ['\n']

/-! ### Commands -/

/-- Adds a command to the script. -/
def addStep (selection : Selection) (action : Action) : Read Unit :=
  modify fun reading ↦
    { reading with
      script := { reading.script with steps := reading.script.steps.push ⟨selection, action⟩ } }

/-- Reads a label. -/
def readLabel : Read Text := do
  skipBlanks
  takeWhile fun c ↦ !" \t\n\r;\x7d".toList.contains c

/-- Reads an exit status. -/
def readStatus : Read Nat := do
  skipBlanks
  let status := (← number?).getD 0
  finish
  return status

/-- Reads a command that has one address at most. -/
def onlyOne (selection : Selection) : Read Unit :=
  if selection.last.isSome then refuse "command only uses one address" else return ()

/-- The newest version that a script can ask for. -/
def newest : List Nat := [4, 9]

/-- Reads what belongs to a command. -/
def readAction (selection : Selection) (command : Char) : Read Unit := do
  let plain (action : Action) : Read Unit := do
    finish
    addStep selection action
  match command with
  | '=' => plain .putNumber
  | 'd' => plain .delete
  | 'D' => plain .deleteFirst
  | 'F' => plain .putName
  | 'g' => plain (.recall false)
  | 'G' => plain (.recall true)
  | 'h' => plain (.keep false)
  | 'H' => plain (.keep true)
  | 'n' => plain .next
  | 'N' => plain .nextToo
  | 'p' => plain .print
  | 'P' => plain .printFirst
  | 'x' => plain .exchange
  | 'z' => plain .clear
  | 'l' =>
    skipBlanks
    let width ← number?
    plain (.spell width)
  | 'q' | 'Q' =>
    onlyOne selection
    let status ← readStatus
    addStep selection (.quit (command = 'q') status)
  | 'a' =>
    let text ← readText
    addStep selection (.append text)
  | 'i' =>
    let text ← readText
    addStep selection (.insert text)
  | 'c' =>
    let text ← readText
    addStep selection (.change text)
  | 'b' =>
    let label ← readLabel
    addStep selection (.branch .always label)
  | 't' =>
    let label ← readLabel
    addStep selection (.branch .replaced label)
  | 'T' =>
    let label ← readLabel
    addStep selection (.branch .unreplaced label)
  | 'r' =>
    let path ← readPath
    addStep selection (.readFile path)
  | 'R' =>
    let path ← readPath
    addStep selection (.readLine path)
  | 'w' =>
    let path ← readPath
    addStep selection (.write path false)
  | 'W' =>
    let path ← readPath
    addStep selection (.write path true)
  | 's' =>
    let action ← readSubstitution
    plain action
  | 'y' =>
    let action ← readTransliteration
    plain action
  | '{' =>
    modify fun reading ↦ { reading with blocks := reading.script.steps.size :: reading.blocks }
    addStep selection (.block 0)
  | '}' =>
    if selection.first.isSome then refuse "`\x7d' doesn't want any addresses"
    let reading ← get
    match reading.blocks with
    | [] => refuse "unexpected `\x7d'"
    | start :: blocks =>
      let finish := reading.script.steps.size
      let steps := reading.script.steps.modify start ({ · with action := .block finish })
      set { reading with script := { reading.script with steps }, blocks }
      Editor.finish
  | ':' =>
    if selection.first.isSome then refuse ": doesn't want any addresses"
    let label ← readLabel
    if label.isEmpty then refuse "\":\" lacks a label"
    modify fun reading ↦
      let labels := (label, reading.script.steps.size) :: reading.script.labels
      { reading with script := { reading.script with labels } }
  | 'v' =>
    skipBlanks
    let wanted ← takeWhile fun c ↦ c.isDigit || c = '.'
    let numbers := (Text.splitOn '.' wanted).map (Text.natOfDigits 10)
    if newest < numbers then refuse "expected newer version of sed"
    plain .nothing
  | c => refuse ("unknown command: `" ++ [c, '\''])

/-- Reads commands to the end of the part. -/
def readSteps : Nat → Read Unit
  | 0 => return ()
  | rounds + 1 => do
    let _ ← takeWhile fun c ↦ c = ';' || " \t\n\r\x0b\x0c".toList.contains c
    match ← peek with
    | none => return ()
    | some '#' =>
      let _ ← takeWhile (· ≠ '\n')
      readSteps rounds
    | some _ =>
      let selection ← readSelection
      match ← peek with
      | none => refuse "missing command"
      | some '#' =>
        skip 1
        refuse "comments don't accept any addresses"
      | some ',' =>
        skip 1
        refuse "unexpected `,'"
      | some '\n' | some ';' =>
        skip 1
        refuse "missing command"
      | some command =>
        skip 1
        readAction selection command
        readSteps rounds

/-- The script that parts write, one after another. -/
def readScript (extended : Bool) (parts : List (Origin × Text)) : Except Text Script := do
  let mut reading : Reading := { rest := [], whole := [], origin := .argument 1, extended }
  for (origin, text) in parts do
    reading := { reading with rest := text, whole := text, origin }
    let (_, after) ← (readSteps (text.length + 1)).run reading
    reading := after
  let place : Text :=
    match reading.origin with
    | .argument number => "-e expression #" ++ Text.ofNat number ++ ", char 0: ".toList
    | .file path => "file " ++ path ++ " line 0: ".toList
  if ¬ reading.blocks.isEmpty then throw (place ++ "unmatched `\x7b'".toList)
  return { reading.script with labels := reading.script.labels.reverse }

end AlignmentTally.Command.Editor
