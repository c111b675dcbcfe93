import AlignmentTally.Command.Accounts
import AlignmentTally.Command.Dating
import AlignmentTally.Command.Filing.Mode
import AlignmentTally.Number.Directive

/-!
# Properties of files

What is known about a file besides what it holds: its size, the room that it takes, how many names it
has, and the numbers of its kind. Formats that describe files put such properties into fields.
-/

namespace AlignmentTally.Command.Filing

open Machine

/-- The number of names of the file under a number. -/
def nameCount (disk : Disk) (number : Nat) : Nat :=
  let file := disk.get number
  if file.isDirectory then
    2 + (file.entries.filter fun (_, n) ↦ (disk.get n).isDirectory).length
  else
    disk.files.foldl (fun count file ↦ count + (file.entries.filter (·.2 = number)).length) 0

/-- The size of a file in octets. -/
def sizeOf (file : DiskFile) : Nat :=
  match file.content with
  | .file octets => octets.size
  | .directory .. => 4096
  | .link target => target.length
  | .command _ => 65536
  | .device _ | .stream _ | .fifo => 0

/-- The room that a file takes, in units of 512 octets. -/
def roomOf (file : DiskFile) : Nat :=
  match file.content with
  | .link _ | .device _ | .stream _ | .fifo => 0
  | _ => (sizeOf file + 4095) / 4096 * 8

/-- The bits that say which kind a file is. -/
def kindBits (file : DiskFile) : Nat :=
  match file.content with
  | .file _ | .command _ => 32768
  | .directory .. => 16384
  | .link _ => 40960
  | .device _ | .stream _ => 8192
  | .fifo => 4096

/-- The numbers of a device. -/
def deviceNumbers : Device → Nat × Nat
  | .null => (1, 3)
  | .zero => (1, 5)
  | .full => (1, 7)
  | .noise => (1, 9)
  | .terminal => (5, 0)

/-- The numbers of the device that a file stands for, if it stands for one. -/
def numbersOf? (file : DiskFile) : Option (Nat × Nat) :=
  match file.content with
  | .device device => some (deviceNumbers device)
  | .stream _ => some (5, 1)
  | _ => none

/-- The numbers of the device that a file stands for, zeros if it stands for none. -/
def numbersOf (file : DiskFile) : Nat × Nat := (numbersOf? file).getD (0, 0)

/-- The flags, the width and the precision at the start of a text as a layout, and what follows. -/
def takeLayout (flagLetters text : Text) : Layout × Text :=
  let flags := text.takeWhile flagLetters.contains
  let text := text.drop flags.length
  let width := text.takeWhile Char.isDigit
  let text := text.drop width.length
  let layout := { Directive.layoutOf flags with width := Text.natOfDigits 10 width }
  match text with
  | '.' :: text =>
    let digits := text.takeWhile Char.isDigit
    ({ layout with precision := some (Text.natOfDigits 10 digits) }, text.drop digits.length)
  | text => (layout, text)

end AlignmentTally.Command.Filing
