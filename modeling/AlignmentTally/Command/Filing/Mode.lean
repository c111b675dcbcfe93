import AlignmentTally.Machine.Disk

/-!
# Modes of files

Who may do what with a file, as a number of twelve bits and as letters. A mode is written in octal
digits, or as changes: for whom, whether something is added, taken away or set, and what.
-/

namespace AlignmentTally.Command.Filing

open Machine

/-- What a change does with the bits it names. -/
inductive Doing where
  /-- They are added. -/
  | add
  /-- They are taken away. -/
  | remove
  /-- They and no others are there. -/
  | set
  deriving DecidableEq, Repr

/-- A change of a mode. -/
structure Change where
  /-- The bits of those whom it is about; 0 if that is not said. -/
  whom : Nat
  /-- What it does. -/
  doing : Doing
  /-- The bits it names. -/
  bits : Nat
  /-- Whether it names the bit of execution for directories and what is executable already. -/
  someExecute : Bool
  /-- The group whose bits it copies: a number of bits from the right. -/
  copied : Option Nat
  deriving Repr

/-- All bits of a mode. -/
def allBits : Nat := 4095

/-- The bits of those whom a letter stands for. -/
def whomBits : Char → Nat
  | 'u' => 2496
  | 'g' => 1080
  | 'o' => 519
  | _ => allBits

/-- The bits that a letter names, for everyone. -/
def bitsOf? : Char → Option Nat
  | 'r' => some 292
  | 'w' => some 146
  | 'x' => some 73
  | 's' => some 3072
  | 't' => some 512
  | 'X' => some 0
  | _ => none

/-- The place of the bits of a group from which others can be copied. -/
def placeOf? : Char → Option Nat
  | 'u' => some 6
  | 'g' => some 3
  | 'o' => some 0
  | _ => none

/-- What a character does in a change. -/
def doing? : Char → Option Doing
  | '+' => some .add
  | '-' => some .remove
  | '=' => some .set
  | _ => none

/-- Reads changes for some, one after another, in at most some rounds. -/
def readChanges (whom : Nat) : Nat → Text → List Change → Option (List Change)
  | 0, _, _ => none
  | _ + 1, [], changes => some changes.reverse
  | rounds + 1, c :: rest, changes =>
    match doing? c with
    | none => none
    | some doing =>
      match rest.head?.bind placeOf? with
      | some place =>
        readChanges whom rounds (rest.drop 1) (⟨whom, doing, 0, false, some place⟩ :: changes)
      | none =>
        let letters := rest.takeWhile fun c ↦ (bitsOf? c).isSome
        let bits := (letters.filterMap bitsOf?).foldl (· ||| ·) 0
        let change : Change := ⟨whom, doing, bits, letters.contains 'X', none⟩
        readChanges whom rounds (rest.drop letters.length) (change :: changes)

/-- The changes that a text between commas writes. -/
def readClause (text : Text) : Option (List Change) :=
  let letters := text.takeWhile "ugoa".toList.contains
  let whom := (letters.map whomBits).foldl (· ||| ·) 0
  let rest := text.drop letters.length
  if rest.isEmpty then none else readChanges whom (rest.length + 1) rest []

/-- The changes that a text writes, in octal digits or in letters. -/
def readMode (text : Text) : Option (List Change) :=
  if text.isEmpty then none
  else if text.all Char.isDigit then
    let mode := Text.natOfDigits 8 text
    if text.all (· < '8') ∧ mode ≤ allBits then some [⟨allBits, .set, mode, false, none⟩] else none
  else (Text.splitOn ',' text).foldl
    (fun changes? clause ↦ do return (← changes?) ++ (← readClause clause)) (some [])

/-- The bits of a mode without some of them. -/
def without (mode bits : Nat) : Nat := mode &&& (allBits - (bits &&& allBits))

/-- The mode of a file after a change. A change that says for whom it is keeps to no mask. -/
def Change.apply (change : Change) (mask : Nat) (isDirectory : Bool) (mode : Nat) : Nat :=
  let copied : Nat :=
    match change.copied with
    | some place =>
      let three := (mode >>> place) &&& 7
      three * 73
    | none => 0
  let execute := if change.someExecute ∧ (isDirectory ∨ mode &&& 73 ≠ 0) then 73 else 0
  let reach := if change.whom = 0 then without allBits mask else change.whom
  let bits := (change.bits ||| copied ||| execute) &&& reach
  match change.doing with
  | .add => mode ||| bits
  | .remove => without mode bits
  | .set => without mode (if change.whom = 0 then allBits else change.whom) ||| bits

/-- The mode of a file after changes. -/
def applyAll (changes : List Change) (mask : Nat) (isDirectory : Bool) (mode : Nat) : Nat :=
  changes.foldl (fun mode change ↦ change.apply mask isDirectory mode) mode

/-- Digits of a number in a base. -/
def digitsIn (base n : Nat) : Text := Nat.toDigits base n

/-- The nine letters of a mode. -/
def letters (mode : Nat) : Text :=
  let has (bit : Nat) : Bool := mode &&& bit ≠ 0
  let three (read write execute special : Nat) (mark : Char) : Text :=
    [if has read then 'r' else '-', if has write then 'w' else '-',
      match has execute, has special with
      | true, true => mark
      | false, true => mark.toUpper
      | true, false => 'x'
      | false, false => '-']
  three 256 128 64 2048 's' ++ three 32 16 8 1024 's' ++ three 4 2 1 512 't'

/-- The letter of a kind of file. -/
def kindLetter (file : DiskFile) : Char :=
  match file.content with
  | .file _ | .command _ => '-'
  | .directory .. => 'd'
  | .link _ => 'l'
  | .device _ | .stream _ => 'c'
  | .fifo => 'p'

/-- The kind of a file in words. -/
def kindWords (file : DiskFile) : String :=
  match file.content with
  | .file octets => if octets.size = 0 then "regular empty file" else "regular file"
  | .command _ => "regular file"
  | .directory .. => "directory"
  | .link _ => "symbolic link"
  | .device _ | .stream _ => "character special file"
  | .fifo => "fifo"

end AlignmentTally.Command.Filing
