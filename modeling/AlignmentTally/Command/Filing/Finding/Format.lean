import AlignmentTally.Command.Filing.Finding.Trial
import AlignmentTally.Command.Options
import AlignmentTally.Command.Simple

/-!
# Formats of found files

A format describes a file that was found: a letter after a percent sign stands for what is known
about it. Times have ten places after the second.
-/

namespace AlignmentTally.Command.Filing.Finding

open Machine

/-- A file that is tried. -/
structure Candidate where
  /-- Its path. -/
  path : Text
  /-- Where the search for it began. -/
  start : Text
  /-- How far below that it is. -/
  depth : Nat
  /-- Its number. -/
  number : Nat
  /-- The file. -/
  file : DiskFile

/-! ### Reading formats -/

/-- The letters that stand for what is known about a file. -/
def fieldLetters : Text := "abcdDfFgGhHiklmMnpPsStuUyYZ".toList

/-- The times that letters stand for. -/
def stampLetters : List (Char × Stamp) :=
  [('A', .accessed), ('a', .accessed), ('B', .changed), ('C', .status), ('c', .status),
    ('T', .changed), ('t', .changed)]

/-- The characters that letters stand for after a backslash. -/
def escapes : List (Char × Char) :=
  [('a', '\x07'), ('b', '\x08'), ('f', '\x0c'), ('n', '\n'), ('r', '\r'), ('t', '\t'),
    ('v', '\x0b'), ('\\', '\\')]

/-- The parts of a format, in at most some rounds. -/
def readFormat : Nat → Text → Work (List Part)
  | 0, _ => return []
  | rounds + 1, text => do
    match text with
    | [] => return []
    | ['\\'] =>
      Work.warn "warning: escape \x60\\' followed by nothing at all"
      return [.text ['\\']]
    | '\\' :: 'c' :: _ => return [.stop]
    | '\\' :: c :: rest =>
      let digits := ((c :: rest).take 3).takeWhile fun c ↦ '0' ≤ c && c ≤ '7'
      if ¬ digits.isEmpty then
        let octet := Char.ofNat (Text.natOfDigits 8 digits % 256)
        return .text [octet] :: (← readFormat rounds ((c :: rest).drop digits.length))
      match escapes.lookup c with
      | some shown => return .text [shown] :: (← readFormat rounds rest)
      | none =>
        Work.warn ("warning: unrecognized escape \x60\\" ++ [c] ++ "'")
        return .text ['\\', c] :: (← readFormat rounds rest)
    | ['%'] => Work.fail "error: % at end of format string" 1
    | '%' :: '%' :: rest => return .text ['%'] :: (← readFormat rounds rest)
    | '%' :: rest =>
      let (layout, after) := takeLayout "-+ #0".toList rest
      match after with
      | [] => Work.fail "error: the format directive \x60%\x00' is reserved for future use" 1
      | letter :: after =>
        if fieldLetters.contains letter then
          return .field layout letter :: (← readFormat rounds after)
        match stampLetters.lookup letter, after with
        | some stamp, kind :: after =>
          return .time layout stamp kind :: (← readFormat rounds after)
        | some _, [] =>
          Work.warn ("warning: format directive \x60%" ++ [letter] ++
            "' should be followed by another character")
          return [.text ('%' :: rest)]
        | none, _ =>
          if "\x7b[(".toList.contains letter then
            Work.fail ("error: the format directive \x60%" ++ [letter] ++
              "' is reserved for future use") 1
          Work.warn ("warning: unrecognized format directive \x60%" ++ [letter] ++ "'")
          return .text ('%' :: rest.take (rest.length - after.length)) ::
            (← readFormat rounds after)
    | c :: rest => return .text [c] :: (← readFormat rounds rest)

/-! ### Writing -/

/-- The letter of the kind of a file. -/
def letterOf (file : DiskFile) : Char :=
  match file.content with
  | .file _ | .command _ => 'f'
  | .directory .. => 'd'
  | .link _ => 'l'
  | .device _ | .stream _ => 'c'
  | .fifo => 'p'

/-- The letter of the kind of what a path leads to. -/
def letterBehind (disk : Disk) (directory : Nat) (candidate : Candidate) : Char :=
  if ¬ candidate.file.isLink then letterOf candidate.file
  else
    match disk.find directory candidate.path with
    | .ok number => letterOf (disk.get number)
    | .error .tooManyLinks => 'L'
    | .error .notFound | .error .notADirectory => 'N'
    | .error _ => '?'

/-- The places after the second of a time, with a point. -/
def places (time : Nat) : Text := '.' :: Text.padLeft '0' 6 (Text.ofNat (time % 1000000)) ++ "0000"

/-- The letters that stand for parts of a time. -/
def timeLetters : Text := "aAbBcCdDeFgGhHIjklmMnpPrRsStTuUVwWxXyYzZ".toList

/-- A time as a letter says. -/
def timeText (zone : Zone) (time : Nat) (letter : Char) : Text :=
  let shown (layout : String) : Text :=
    (Civil.ofInstant zone (Present.instantOf time)).inLayout layout.toList
  match letter with
  | '@' => Text.ofNat (time / 1000000) ++ places time
  | '+' => shown "%Y-%m-%d+%H:%M:%S" ++ places time
  | 'S' => shown "%S" ++ places time
  | 'T' | 'X' => shown "%H:%M:%S" ++ places time
  | letter => if timeLetters.contains letter then
      shown (String.ofList ['%', letter]) else ['%', letter]

/-- A time with its date. -/
def longTime (zone : Zone) (time : Nat) : Text :=
  let shown (layout : String) : Text :=
    (Civil.ofInstant zone (Present.instantOf time)).inLayout layout.toList
  shown "%a %b %e %H:%M:%S" ++ places time ++ ' ' :: shown "%Y"

/-- What a letter stands for, in its field. -/
def Candidate.field (candidate : Candidate) (disk : Disk) (directory : Nat) (zone : Zone)
    (layout : Layout) (letter : Char) : Text :=
  let file := candidate.file
  let text (text : Text) : Text := layout.text text
  let number (n : Nat) : Text := layout.text (Text.ofNat n)
  match letter with
  | 'a' => text (longTime zone file.accessed)
  | 'b' => number (roomOf file)
  | 'c' => text (longTime zone (Stamp.status.of file))
  | 'd' => layout.integer candidate.depth
  | 'D' => number 1
  | 'f' =>
    let name := candidate.path.reverse.dropWhile (· = '/')
    let slash := if name.length < candidate.path.length then ['/'] else []
    text ((name.takeWhile (· ≠ '/')).reverse ++ slash)
  | 'F' => text "overlay"
  | 'g' => text (Accounts.groupName disk file.group)
  | 'G' => number file.group
  | 'h' =>
    let front := candidate.path.reverse.dropWhile (· ≠ '/')
    text (if front.isEmpty then ['.'] else (front.drop 1).reverse)
  | 'H' => text candidate.start
  | 'i' => number (candidate.number + 1)
  | 'k' => number ((roomOf file + 1) / 2)
  | 'l' =>
    text (match file.content with
      | .link target => target
      | _ => [])
  | 'm' => layout.natural 8 false file.mode
  | 'M' => text (kindLetter file :: letters file.mode)
  | 'n' => number (nameCount disk candidate.number)
  | 'p' => text candidate.path
  | 'P' => text ((candidate.path.drop candidate.start.length).dropWhile (· = '/'))
  | 's' => number (sizeOf file)
  | 'S' =>
    let size := sizeOf file
    let share : Scanned := if size = 0 then .finite false 1 1
      else .finite false (roomOf file * 512) size
    layout.real 'g' share
  | 't' => text (longTime zone file.changed)
  | 'u' => text (Accounts.userName disk file.owner)
  | 'U' => number file.owner
  | 'y' => text [letterOf file]
  | 'Y' => text [letterBehind disk directory candidate]
  | _ => text []

/-- A path in a line with all that is known. -/
def escaped (path : Text) : Text :=
  path.flatMap fun c ↦
    if c = '\\' ∨ c = '"' ∨ c = ' ' then ['\\', c]
    else if Quoted.isPrintable c then [c]
    else if c = '\x07' ∨ c = '\x0b' then Quoted.octal c
    else Quoted.spelling c

/-- A line with all that is known about a file. -/
def Candidate.line (candidate : Candidate) (disk : Disk) (zone : Zone) (now unit : Nat) : Text :=
  let file := candidate.file
  let right (width : Nat) (text : Text) : Text := Text.padLeft ' ' width text ++ [' ']
  let left (width : Nat) (text : Text) : Text := Text.padRight width text ++ [' ']
  let size : Text :=
    match numbersOf? file with
    | some (major, minor) =>
      Text.padLeft ' ' 3 (Text.ofNat major) ++ ", " ++ right 3 (Text.ofNat minor)
    | none => right 8 (Text.ofNat (sizeOf file))
  let halfYear := 15778476000000
  let isRecent := now < file.changed + halfYear && file.changed ≤ now + 3600000000
  let layout : String := if isRecent then "%b %e %H:%M" else "%b %e  %Y"
  let target : Text :=
    match file.content with
    | .link target => " -> ".toList ++ escaped target
    | _ => []
  right 9 (Text.ofNat (candidate.number + 1)) ++
    right 6 (Text.ofNat ((roomOf file * 512 + unit - 1) / unit)) ++
    kindLetter file :: letters file.mode ++ [' '] ++
    right 3 (Text.ofNat (nameCount disk candidate.number)) ++
    left 8 (Accounts.userName disk file.owner) ++ left 8 (Accounts.groupName disk file.group) ++
    size ++ (Civil.ofInstant zone (Present.instantOf file.changed)).inLayout layout.toList ++
    ' ' :: escaped candidate.path ++ target ++ ['\n']

end AlignmentTally.Command.Filing.Finding
