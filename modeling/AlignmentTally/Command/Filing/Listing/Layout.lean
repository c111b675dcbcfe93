import AlignmentTally.Clock.Layout
import AlignmentTally.Command.Accounts
import AlignmentTally.Command.Dating
import AlignmentTally.Command.Filing.Listing.Plan
import AlignmentTally.Command.Sorting.Key

/-!
# The form of a listing

Files are put in order and written with what is asked for about them, below one another, in columns
or with commas between them.
-/

namespace AlignmentTally.Command.Filing

open Machine

/-- A file that is listed. -/
structure Listed where
  /-- The name under which it is listed. -/
  name : Text
  /-- The number of the file. -/
  number : Nat
  /-- The file. -/
  file : DiskFile
  /-- If it is a link: its target, and the file that it leads to. -/
  target : Option (Text × Option DiskFile) := none

namespace Listing.Settled

/-! ### Names -/

/-- The characters of names that have a backslash in some styles. -/
def special (listing : Settled) : Text :=
  (if listing.quoting = .escape then [' '] else []) ++
    match listing.marks with
    | .none | .directories => []
    | .kinds => "=>@|".toList
    | .all => "*=>@|".toList

/-- A name as it is written, without a blank in front. -/
def quoted (listing : Settled) (name : Text) : Text :=
  let shown := Quoted.inStyle listing.special listing.quoting name
  if listing.replaces ∧ [Quoted.Style.literal, .shell, .shellAlways].contains listing.quoting then
    shown.map fun c ↦ if Quoted.isPrintable c then c else '?'
  else shown

/-- Whether names without quotes are moved by one place if others have quotes. -/
def aligns (listing : Settled) : Bool :=
  (listing.shape = .long ||
    (listing.shape = .columns || listing.shape = .rows) && listing.lineLength ≠ 0) &&
  [Quoted.Style.shell, .shellEscape, .doubleMaybe].contains listing.quoting

/-- The mark behind the name of a file. -/
def mark (listing : Settled) (file : DiskFile) : Text :=
  let more := listing.marks = .kinds || listing.marks = .all
  if listing.marks = .none then []
  else
    match file.content with
    | .directory .. => ['/']
    | .file _ | .command _ => if listing.marks = .all ∧ file.isExecutable then ['*'] else []
    | .link _ => if more then ['@'] else []
    | .fifo => if more then ['|'] else []
    | .device _ | .stream _ => []

/-- How many places a text takes. -/
def places (text : Text) : Nat := (text.filter Quoted.isPrintable).length

/-! ### Order -/

/-- What follows the last point in a name. -/
def endingOf (name : Text) : Text :=
  let after := name.reverse.takeWhile (· ≠ '.')
  if after.length < name.length then '.' :: after.reverse else []

/-- The order of two texts by their octets. -/
def compareTexts (a b : Text) : Ordering :=
  if Text.before a b then .lt else if Text.before b a then .gt else .eq

/-- The order of two files. -/
def compare (listing : Settled) (a b : Listed) : Ordering :=
  let byName := compareTexts a.name b.name
  match listing.sorting with
  | .none => .eq
  | .name => byName
  | .size => (Ord.compare (sizeOf b.file) (sizeOf a.file)).then byName
  | .changed => (Ord.compare b.file.changed a.file.changed).then byName
  | .ending => (compareTexts (endingOf a.name) (endingOf b.name)).then byName
  | .version => (Sorting.compareVersions a.name b.name).then byName
  | .width =>
    (Ord.compare (places (listing.quoted a.name)) (places (listing.quoted b.name))).then byName

/-- Files in order. -/
def sorted (listing : Settled) (files : List Listed) : List Listed :=
  if listing.sorting = .none then files
  else
    let comesFirst (file : Listed) : Bool :=
      listing.directoriesFirst &&
        (file.file.isDirectory || file.target.any fun (_, file?) ↦ file?.any DiskFile.isDirectory)
    files.mergeSort fun a b ↦
      match comesFirst a, comesFirst b with
      | true, false => true
      | false, true => false
      | _, _ => (if listing.reverse then listing.compare b a else listing.compare a b) ≠ .gt

/-! ### What stands in front of names -/

/-- How far the columns in front of names reach. -/
structure Widths where
  /-- The numbers of files. -/
  number : Nat := 0
  /-- The room. -/
  room : Nat := 0
  /-- The numbers of names. -/
  names : Nat := 0
  /-- The sizes. -/
  size : Nat := 0
  /-- The first numbers of devices. -/
  major : Nat := 0
  /-- The second numbers of devices. -/
  minor : Nat := 0
  /-- The owners. -/
  owner : Nat := 0
  /-- The groups. -/
  group : Nat := 0
  /-- Whether a name has quotes. -/
  hasQuotes : Bool := false

/-- The room that a file takes, as it is shown. -/
def roomText (listing : Settled) (file : DiskFile) : Text :=
  listing.roomUnit.write (roomOf file) 512

/-- The size of a file, as it is shown. -/
def sizeText (listing : Settled) (file : DiskFile) : Text := listing.sizeUnit.write (sizeOf file) 1

/-- The owner of a file as it is shown: as a name, unless there is none or numbers are asked for. -/
def ownerName? (listing : Settled) (disk : Disk) (file : DiskFile) : Option Text :=
  if listing.numeric then none else Accounts.nameIn? (Accounts.users disk) file.owner

/-- The group of a file as it is shown. -/
def groupName? (listing : Settled) (disk : Disk) (file : DiskFile) : Option Text :=
  if listing.numeric then none else Accounts.nameIn? (Accounts.groups disk) file.group

/-- The widths that some files need. -/
def widths (listing : Settled) (disk : Disk) (files : List Listed) : Widths :=
  files.foldl
    (fun widths listed ↦
      let length (n : Nat) : Nat := (Text.ofNat n).length
      let widths : Widths := { widths with
        number := max widths.number (length (listed.number + 1))
        room := max widths.room (listing.roomText listed.file).length
        hasQuotes := widths.hasQuotes || listing.quoted listed.name ≠ listed.name }
      if listing.shape ≠ .long then widths
      else
        let file := listed.file
        let widths := { widths with
          names := max widths.names (length (nameCount disk listed.number))
          owner := max widths.owner
            ((listing.ownerName? disk file).elim (length file.owner) List.length)
          group := max widths.group
            ((listing.groupName? disk file).elim (length file.group) List.length) }
        match numbersOf? listed.file with
        | some (major, minor) =>
          let major := max widths.major (length major)
          let minor := max widths.minor (length minor)
          { widths with major, minor, size := max widths.size (major + 2 + minor) }
        | none => { widths with size := max widths.size (listing.sizeText listed.file).length })
    {}

/-- What stands in front of a name, apart from what only the long form shows. -/
def front (listing : Settled) (widths : Widths) (listed : Listed) : Text :=
  let column (width : Nat) (text : Text) : Text :=
    (if listing.shape = .commas then text else Text.padLeft ' ' width text) ++ [' ']
  (if listing.numbers then column widths.number (Text.ofNat (listed.number + 1)) else []) ++
    (if listing.room then column widths.room (listing.roomText listed.file) else [])

/-- A name with the blank that stands for a quote. -/
def shownName (listing : Settled) (widths : Widths) (name : Text) : Text :=
  let shown := listing.quoted name
  if listing.aligns ∧ widths.hasQuotes ∧ shown = name then ' ' :: shown else shown

/-- A file as it is written in any but the long form. -/
def cell (listing : Settled) (widths : Widths) (listed : Listed) : Text :=
  listing.front widths listed ++ (if listing.labels then "? ".toList else []) ++
    listing.shownName widths listed.name ++ listing.mark listed.file

/-- Half a year, in microseconds. -/
def recently : Nat := 15778476000000

/-- A line of the long form. -/
def longLine (listing : Settled) (widths : Widths) (disk : Disk) (zone : Zone) (now : Nat)
    (listed : Listed) : Text :=
  let file := listed.file
  let named (width : Nat) (name? : Option Text) (n : Nat) : Text :=
    match name? with
    | some name => Text.padRight width name
    | none => Text.padLeft ' ' width (Text.ofNat n)
  let owner := named widths.owner (listing.ownerName? disk file) file.owner
  let group := named widths.group (listing.groupName? disk file) file.group
  let column (isShown : Bool) (text : Text) : Text := if isShown then text ++ [' '] else []
  let size : Text :=
    match numbersOf? file with
    | some (major, minor) =>
      let blanks := widths.size - (widths.major + 2 + widths.minor)
      Text.padLeft ' ' (widths.major + blanks) (Text.ofNat major) ++ ", " ++
        Text.padLeft ' ' widths.minor (Text.ofNat minor)
    | none => Text.padLeft ' ' widths.size (listing.sizeText file)
  let isRecent := now - recently < file.changed && file.changed < now
  let layout := if isRecent then listing.layouts.1 else listing.layouts.2
  let time := (Civil.ofInstant zone (Present.instantOf file.changed)).inLayout (Dating.withDigits layout)
  let target : Text :=
    match listed.target with
    | none => listing.mark file
    | some (target, file?) =>
      let follows := listing.marks = .kinds || listing.marks = .all
      " -> ".toList ++ listing.quoted target ++
        (if follows then file?.elim [] listing.mark else [])
  listing.front widths listed ++ kindLetter file :: letters file.mode ++ [' '] ++
    Text.padLeft ' ' widths.names (Text.ofNat (nameCount disk listed.number)) ++ [' '] ++
    column listing.owner owner ++ column listing.group group ++ column listing.author owner ++
    column listing.labels ['?'] ++ size ++ [' '] ++ time ++ [' '] ++
    listing.shownName widths listed.name ++ target

/-! ### Columns -/

/-- The least width of a column. -/
def leastWidth : Nat := 3

/-- The greatest lengths of some lengths by the columns that they stand in. A length that is not in
the last column has two blanks behind it. -/
def columnWidths (columnOf : Nat → Nat) (count : Nat) (lengths : List Nat) : Array Nat :=
  lengths.zipIdx.foldl
    (fun widths (length, i) ↦
      let column := columnOf i
      let length := if column + 1 = count then length else length + 2
      widths.modify column (max length))
    (Array.replicate count leastWidth)

/-- The number of columns in which texts of some lengths fit into a line, and the widths of the
columns. -/
def arrange (fromAbove : Bool) (lineLength : Nat) (lengths : List Nat) : Nat × Array Nat :=
  let whole := lengths.length
  let most := (lineLength + leastWidth - 1) / leastWidth
  let most := if 0 < most ∧ most < whole then most else whole
  let widths (count : Nat) : Array Nat :=
    let rows := (whole + count - 1) / count
    columnWidths (fun i ↦ if fromAbove then i / rows else i % count) count lengths
  let fits (widths : Array Nat) : Bool :=
    widths.all (· = leastWidth) || widths.foldl (· + ·) 0 < lineLength
  let counts := (List.range' 2 (most - 1)).reverse
  match (counts.map fun count ↦ (count, widths count)).find? fun (_, widths) ↦ fits widths with
  | some found => found
  | none => (1, widths 1)

/-- The blanks and tabulators that lead from one place to another, in at most some steps. -/
def gap (tab : Nat) : Nat → (start stop : Nat) → Text
  | 0, _, _ => []
  | steps + 1, start, stop =>
    if stop ≤ start then []
    else if tab ≠ 0 ∧ (start + 1) / tab < stop / tab then
      '\t' :: gap tab steps (start + (tab - start % tab)) stop
    else ' ' :: gap tab steps (start + 1) stop

/-- A row of cells, each with its length and the width of its column. -/
def row (tab : Nat) : Nat → List (Text × Nat × Nat) → Text
  | _, [] => []
  | _, [(cell, _)] => cell
  | place, (cell, length, width) :: rest =>
    cell ++ gap tab (width + 1) (place + length) (place + width) ++ row tab (place + width) rest

/-- Cells in columns. -/
def inColumns (listing : Settled) (fromAbove : Bool) (cells : List Text) : List Text :=
  let lengths := cells.map places
  let (count, widths) := arrange fromAbove listing.lineLength lengths
  let items := (cells.zip lengths).toArray
  let rows := (cells.length + count - 1) / count
  (List.range rows).map fun i ↦
    let places := (List.range count).map fun j ↦ if fromAbove then j * rows + i else i * count + j
    let line := (places.zipIdx.filterMap fun (place, column) ↦
      items[place]?.map fun (cell, length) ↦ (cell, length, widths[column]?.getD 0))
    row listing.tabSize 0 line

/-- Cells with something between them, in lines of some length. -/
def separated (listing : Settled) (mark : Char) (cells : List Text) : List Text :=
  let take (state : Text × Nat × List Text) (cell : Text) : Text × Nat × List Text :=
    let (line, place, lines) := state
    let length := if listing.lineLength = 0 then 0 else places cell
    if listing.lineLength = 0 ∨ place + length + 2 < listing.lineLength then
      (line ++ mark :: ' ' :: cell, place + 2 + length, lines)
    else (cell, length, (line ++ [mark]) :: lines)
  match cells with
  | [] => []
  | cell :: rest =>
    let length := if listing.lineLength = 0 then 0 else places cell
    let (line, _, lines) := rest.foldl take (cell, length, [])
    (line :: lines).reverse

/-- The lines of some files. `all` are those for which there has to be room. -/
def lines (listing : Settled) (disk : Disk) (zone : Zone) (now : Nat) (all files : List Listed) :
    List Text :=
  let widths := listing.widths disk all
  if listing.shape = .long then files.map (listing.longLine widths disk zone now)
  else
    let cells := files.map (listing.cell widths)
    match listing.shape with
    | .columns =>
      if listing.lineLength = 0 then listing.separated ' ' cells else listing.inColumns true cells
    | .rows =>
      if listing.lineLength = 0 then listing.separated ' ' cells else listing.inColumns false cells
    | .commas => listing.separated ',' cells
    | _ => cells

end Listing.Settled

end AlignmentTally.Command.Filing
