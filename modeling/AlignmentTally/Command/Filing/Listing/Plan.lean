import AlignmentTally.Command.BlockUnit
import AlignmentTally.Command.Filing.Making
import AlignmentTally.Command.Filing.Property

/-!
# What a listing shows

The options of the command that lists files: which files it shows, in which order, in which form and
with what in front of their names.
-/

namespace AlignmentTally.Command.Filing

open Machine

/-- How files are put in order. -/
inductive Order where
  /-- By name. -/
  | name
  /-- By size, the largest one first. -/
  | size
  /-- By when they were changed, the last one first. -/
  | changed
  /-- By what follows the last point in their names. -/
  | ending
  /-- By the numbers in their names. -/
  | version
  /-- By the room that their names take in a line. -/
  | width
  /-- As the directory holds them. -/
  | none
  deriving DecidableEq, Repr

/-- In which form files are listed. -/
inductive Form where
  /-- One in a line. -/
  | lines
  /-- In columns that are filled from above. -/
  | columns
  /-- In columns that are filled from the left. -/
  | rows
  /-- With commas between them. -/
  | commas
  /-- One in a line, with all that is known. -/
  | long
  deriving DecidableEq, Repr

/-- Which kinds of files have a mark behind their names. -/
inductive Marks where
  /-- None. -/
  | none
  /-- Directories. -/
  | directories
  /-- All but regular files. -/
  | kinds
  /-- All but regular files that cannot be executed. -/
  | all
  deriving DecidableEq, Repr

/-- Which files are left out. -/
inductive Hiding where
  /-- Those whose names begin with a point. -/
  | points
  /-- The directory itself and the one above it. -/
  | own
  /-- None. -/
  | nothing
  deriving DecidableEq, Repr

/-- Which links are followed. -/
inductive Following where
  /-- None. -/
  | never
  /-- Arguments that lead to directories. -/
  | directories
  /-- Arguments. -/
  | arguments
  /-- All. -/
  | always
  deriving DecidableEq, Repr

/-- How files are listed. -/
structure Listing where
  /-- The form, if it was asked for. -/
  form : Option Form := none
  /-- The length of a line, if it was asked for. None is the end of it. -/
  width : Option Nat := none
  /-- How far tabulators lead, if it was asked for. -/
  tab : Option Nat := none
  /-- Which files are left out. -/
  omits : Hiding := .points
  /-- Patterns of names that are left out. -/
  ignored : List Text := []
  /-- Patterns of names that are left out with those that begin with a point. -/
  hidden : List Text := []
  /-- Whether directories are listed as files. -/
  asFiles : Bool := false
  /-- Whether what directories below hold is listed as well. -/
  recursive : Bool := false
  /-- Whether the owner is shown. -/
  owner : Bool := true
  /-- Whether the group is shown. -/
  group : Bool := true
  /-- Whether the author is shown. -/
  author : Bool := false
  /-- Whether owners are numbers. -/
  numeric : Bool := false
  /-- Which kinds of files have a mark. -/
  marks : Marks := .none
  /-- How names are quoted, if it was asked for. -/
  style : Option Quoted.Style := none
  /-- Whether what cannot be printed is replaced. -/
  replaces : Bool := false
  /-- Whether the numbers of files are shown. -/
  numbers : Bool := false
  /-- Whether the room that files take is shown. -/
  room : Bool := false
  /-- Whether labels are shown. -/
  labels : Bool := false
  /-- Which links are followed, if it was asked for. -/
  following : Option Following := none
  /-- The order, if it was asked for. -/
  order : Option Order := none
  /-- Whether another time than that of the last change was asked for. -/
  otherTime : Bool := false
  /-- Whether the order is reversed. -/
  reverse : Bool := false
  /-- Whether directories come first. -/
  directoriesFirst : Bool := false
  /-- The unit of sizes and of room, if it was asked for. -/
  unit : Option BlockUnit := none
  /-- Whether room is shown in units of 1024 octets whatever the values say. -/
  kilo : Bool := false
  /-- How times are shown, if it was asked for. -/
  timeStyle : Option Text := none
  /-- What ends a line. -/
  lineEnd : Char := '\n'

namespace Listing

/-- The exit status of a serious fault. -/
def faultStatus : Nat := 2

/-- The words for when something is done. -/
def whenWords : List (String × Option Bool) :=
  [("always", some true), ("yes", some true), ("force", some true), ("never", some false),
    ("no", some false), ("none", some false), ("auto", none), ("tty", none), ("if-tty", none)]

/-- The words for orders. -/
def orderWords : List (String × Order) :=
  [("none", .none), ("time", .changed), ("size", .size), ("extension", .ending),
    ("version", .version), ("width", .width)]

/-- The words for forms. -/
def formWords : List (String × Form) :=
  [("verbose", .long), ("long", .long), ("commas", .commas), ("horizontal", .rows),
    ("across", .rows), ("vertical", .columns), ("single-column", .lines)]

/-- The words for marks. -/
def markWords : List (String × Marks) :=
  [("none", .none), ("slash", .directories), ("file-type", .kinds), ("classify", .all)]

/-- The times of a file. -/
inductive TimeKind where
  /-- When it was read last. -/
  | access
  /-- When something about it was changed last. -/
  | status
  /-- When it was made. -/
  | birth
  deriving DecidableEq, Repr

/-- The words for times. -/
def timeWords : List (String × TimeKind) :=
  [("atime", .access), ("access", .access), ("use", .access), ("ctime", .status),
    ("status", .status), ("birth", .birth), ("creation", .birth)]

/-- A number in the notation of its first characters: octal after a zero, with letters after `0x`.
The result is absent for a text that is none. -/
def anyNumber? (text : Text) : Option Nat :=
  let text := text.dropWhile (" \t\n\x0b\x0c\r".toList.contains ·)
  let text := if text.head? = some '+' then text.drop 1 else text
  let read (base : Nat) (allowed : String) (digits : Text) : Option Nat :=
    if digits.isEmpty ∨ ¬ digits.all allowed.toList.contains then none
    else some (Text.natOfDigits base (digits.map Char.toLower))
  match text with
  | '0' :: x :: rest =>
    if x = 'x' ∨ x = 'X' then read 16 "0123456789abcdefABCDEF" rest
    else read 8 "01234567" (x :: rest)
  | text => read 10 "0123456789" text

/-- The length of a line that a text asks for. One that is too large has no end. -/
def lineLength? (text : Text) : Option Nat :=
  (anyNumber? text).map fun n ↦ if 9223372036854775807 < n then 0 else n

/-- A listing in another form, unless it is a long one. -/
def inLines (listing : Listing) : Listing :=
  if listing.form = some .long then listing else { listing with form := some .lines }

/-- A listing with one more option. -/
def withOption (listing : Listing) (letter : Char) (text : Text) : Work Listing := do
  let long : Listing := { listing with form := some .long }
  match letter with
  | 'a' => return { listing with omits := .nothing }
  | 'A' => return { listing with omits := .own }
  | 'b' => return { listing with style := some .escape }
  | 'B' => return { listing with ignored := "*~".toList :: ".*~".toList :: listing.ignored }
  | 'c' | 'u' => return { listing with otherTime := true }
  | 'C' => return { listing with form := some .columns }
  | 'd' => return { listing with asFiles := true }
  | 'l' => return long
  | 'f' =>
    return { listing with
      omits := .nothing
      order := some .none
      room := false
      form := if listing.form = some .long then none else listing.form }
  | 'F' =>
    let isAlways ←
      if text.isEmpty then pure (some true) else meaningOf "--classify" whenWords text
    return if isAlways = some true then { listing with marks := .all } else listing
  | 'g' => return { long with owner := false }
  | 'G' => return { listing with group := false }
  | 'h' => return { listing with unit := some .human }
  | 'H' => return { listing with following := some .arguments }
  | 'i' => return { listing with numbers := true }
  | 'I' => return { listing with ignored := text :: listing.ignored }
  | 'k' => return { listing with kilo := true }
  | 'L' => return { listing with following := some .always }
  | 'm' => return { listing with form := some .commas }
  | 'n' => return { long with numeric := true }
  | 'N' => return { listing with style := some .literal }
  | 'o' => return { long with group := false }
  | 'p' => return { listing with marks := .directories }
  | 'q' => return { listing with replaces := true }
  | 'Q' => return { listing with style := some .double }
  | 'r' => return { listing with reverse := true }
  | 'R' => return { listing with recursive := true }
  | 's' => return { listing with room := true }
  | 'S' => return { listing with order := some .size }
  | 't' => return { listing with order := some .changed }
  | 'T' =>
    match anyNumber? text with
    | some n => return { listing with tab := some n }
    | none => Work.fail ("invalid tab size: " ++ Quoted.word text) faultStatus
  | 'U' => return { listing with order := some .none }
  | 'v' => return { listing with order := some .version }
  | 'w' =>
    match lineLength? text with
    | some n => return { listing with width := some n }
    | none => Work.fail ("invalid line width: " ++ Quoted.word text) faultStatus
  | 'x' => return { listing with form := some .rows }
  | 'X' => return { listing with order := some .ending }
  | 'Z' => return { listing with labels := true }
  | '1' => return listing.inLines
  | '2' => return { listing with author := true }
  | '3' => return { long with timeStyle := some "full-iso" }
  | '4' => return { listing with marks := .kinds }
  | '5' => return { listing with unit := some .decimal }
  | '6' => return { listing with following := some .directories }
  | '7' => return { listing with hidden := text :: listing.hidden }
  | '8' => return { listing with marks := ← meaningOf "--indicator-style" markWords text }
  | '9' =>
    let style ← meaningOf "--quoting-style" Quoted.Style.words text
    return { listing with style := some style }
  | '!' => return { listing with replaces := false }
  | '@' => return { listing with form := some (← meaningOf "--format" formWords text) }
  | '#' => return { listing with order := some (← meaningOf "--sort" orderWords text) }
  | '$' =>
    let _ ← meaningOf "--time" timeWords text
    return { listing with otherTime := true }
  | '%' => return { listing with timeStyle := some text }
  | '&' =>
    return { listing.inLines with
      lineEnd := '\x00', replaces := false, style := some .literal }
  | '*' =>
    if ¬ text.isEmpty then let _ ← meaningOf "--color" whenWords text
    return listing
  | '-' =>
    if ¬ text.isEmpty then let _ ← meaningOf "--hyperlink" whenWords text
    return listing
  | '=' =>
    return { listing with unit := some (← BlockUnit.ofOption "--block-size" text faultStatus) }
  | '/' => return { listing with directoriesFirst := true }
  | _ => return listing

/-- The options. -/
def choices : Choices :=
  { letters := "abcdfghiklmnopqrstuvw:xABCDFGHI:LNQRST:UXZ1"
    words := [("all", 'a'), ("escape", 'b'), ("directory", 'd'), ("dired", 'D'),
      ("full-time", '3'), ("group-directories-first", '/'), ("human-readable", 'h'),
      ("inode", 'i'), ("kibibytes", 'k'), ("numeric-uid-gid", 'n'), ("no-group", 'G'),
      ("hide-control-chars", 'q'), ("reverse", 'r'), ("size", 's'), ("width=", 'w'),
      ("almost-all", 'A'), ("ignore-backups", 'B'), ("classify?", 'F'), ("file-type", '4'),
      ("si", '5'), ("dereference-command-line", 'H'),
      ("dereference-command-line-symlink-to-dir", '6'), ("hide=", '7'), ("ignore=", 'I'),
      ("indicator-style=", '8'), ("dereference", 'L'), ("literal", 'N'), ("quote-name", 'Q'),
      ("quoting-style=", '9'), ("recursive", 'R'), ("format=", '@'),
      ("show-control-chars", '!'), ("sort=", '#'), ("tabsize=", 'T'), ("time=", '$'),
      ("time-style=", '%'), ("zero", '&'), ("color?", '*'), ("hyperlink?", '-'),
      ("block-size=", '='), ("context", 'Z'), ("author", '2')]
    status := faultStatus }

/-! ### What follows from options and values -/

/-- A listing with all that the options leave open. `inColumns` says that the form is one with
columns by default, `isLong` that it is the long one. -/
structure Settled extends Listing where
  /-- The form. -/
  shape : Form
  /-- The length of a line, 0 for one without an end. -/
  lineLength : Nat
  /-- How far tabulators lead. -/
  tabSize : Nat
  /-- How names are quoted. -/
  quoting : Quoted.Style
  /-- Which links are followed. -/
  follows : Following
  /-- The order. -/
  sorting : Order
  /-- The unit of sizes. -/
  sizeUnit : BlockUnit
  /-- The unit of room. -/
  roomUnit : BlockUnit
  /-- How times are shown, those of the last months and others. -/
  layouts : Text × Text

/-- Why a value is not used. -/
def complainOfValue (words name : String) (text : Text) : Work Unit :=
  Work.warn ("ignoring invalid " ++ words.toList ++ " in environment variable " ++ name.toList ++
    ": " ++ Quoted.word text)

/-- The layouts for times that a style stands for: those of the last months and others. -/
def layoutsOf (style : Text) : Work (Text × Text) := do
  match style with
  | '+' :: layout =>
    match Text.pieces '\n' layout with
    | [old, new] => return (new, old)
    | _ :: _ :: _ => Work.fail ("invalid time style format " ++ Quoted.word layout) faultStatus
    | _ => return (layout, layout)
  | style =>
    let styles : List (String × String × String) :=
      let full := "%Y-%m-%d %H:%M:%S.%N %z"
      [("full-iso", full, full), ("long-iso", "%Y-%m-%d %H:%M", "%Y-%m-%d %H:%M"),
        ("iso", "%m-%d %H:%M", "%Y-%m-%d "), ("locale", "%b %e %H:%M", "%b %e  %Y")]
    let begins := styles.filter fun (name, _) ↦ Text.beginsWith name.toList style
    match styles.lookup (String.ofList style), begins with
    | some (new, old), _ | none, [(_, new, old)] => return (new, old)
    | none, several =>
      let kind : Text := if several.isEmpty then "invalid" else "ambiguous"
      Work.warn (kind ++ " argument " ++ Quoted.word style ++ " for 'time style'")
      Work.say "Valid arguments are:\n"
      for (name, _) in styles do Work.say ("  - [posix-]".toList ++ name.toList ++ ['\n'])
      Work.say "  - +FORMAT (e.g., +%H:%M) for a 'date'-style format\n"
      Work.advise faultStatus

/-- A style of times without what says that it is used in other languages only. The result is absent
if that leaves the usual one. -/
def ownStyle? (style : Text) : Option Text :=
  if Text.beginsWith style "posix-" then none else some style

/-- A listing with all that the options leave open. -/
def settle (listing : Listing) (usualForm : Form) (usualStyle : Quoted.Style) : Work Settled := do
  let values := (← get).values
  let value? (name : String) : Option Text := values.lookup name.toList
  let shape := listing.form.getD usualForm
  let isWide := shape = .columns || shape = .rows || shape = .commas
  let mut lineLength := listing.width
  if isWide ∧ lineLength.isNone then
    if let some text := (value? "COLUMNS").filter (!·.isEmpty) then
      lineLength := lineLength? text
      if lineLength.isNone then complainOfValue "width" "COLUMNS" text
  let mut tabSize := listing.tab
  if isWide ∧ tabSize.isNone then
    if let some text := value? "TABSIZE" then
      tabSize := anyNumber? text
      if tabSize.isNone then complainOfValue "tab size" "TABSIZE" text
  let mut quoting := listing.style
  if quoting.isNone then
    if let some text := value? "QUOTING_STYLE" then
      quoting := Quoted.Style.words.lookup (String.ofList text)
      if quoting.isNone then
        Work.warn ("ignoring invalid value of environment variable QUOTING_STYLE: " ++
          Quoted.word text)
  let isLong := shape = .long
  let follows := listing.following.getD <|
    if listing.asFiles || listing.marks = .all || isLong then .never else .directories
  let sorting := listing.order.getD <|
    if !isLong && listing.otherTime then .changed else .name
  let valueUnit ← BlockUnit.ofValues "LS_BLOCK_SIZE"
  let isGiven := (value? "LS_BLOCK_SIZE").isSome || (value? "BLOCK_SIZE").isSome
  let layouts ←
    if ¬ isLong then pure ([], [])
    else
      let style := listing.timeStyle.getD ((value? "TIME_STYLE").getD "locale")
      layoutsOf ((ownStyle? style).getD "locale")
  return { listing with
    shape
    lineLength := lineLength.getD 80
    tabSize := tabSize.getD 8
    quoting := quoting.getD usualStyle
    follows
    sorting
    sizeUnit := listing.unit.getD (if isGiven then valueUnit else { octets := 1 })
    roomUnit := listing.unit.getD (if listing.kilo then {} else valueUnit)
    layouts }

end Listing

end AlignmentTally.Command.Filing
