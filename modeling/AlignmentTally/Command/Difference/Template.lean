import AlignmentTally.Machine.Text
import AlignmentTally.Number.Directive

/-!
# Templates for differences

A template says how lines, or groups of lines, of two files are written. What a percent sign
introduces stands for a line, for the lines of a group, for a number that belongs to them, for a
character, or for one of two templates; if it introduces nothing of the kind, it stands for itself.
-/

namespace AlignmentTally.Command.Difference

open Machine

/-- Where a group of lines, or a line, comes from. -/
inductive Origin where
  /-- From the first file only. -/
  | old
  /-- From the second file only. -/
  | new
  /-- From both files. -/
  | common
  deriving DecidableEq, Repr

/-- A number that belongs to a group of lines. -/
inductive Measure where
  /-- The number of the line before the group. -/
  | before
  /-- The number of its first line. -/
  | first
  /-- The number of its last line. -/
  | last
  /-- The number of the line after it. -/
  | after
  /-- The number of its lines. -/
  | count
  deriving DecidableEq, Repr

/-- The lines of one file that belong to a group. -/
structure Extent where
  /-- The place of the first one. -/
  start : Nat
  /-- The place after the last one. -/
  stop : Nat
  deriving Repr, Inhabited

/-- A number that belongs to some lines. -/
def Extent.measure (extent : Extent) : Measure → Nat
  | .before => extent.start
  | .first => extent.start + 1
  | .last => extent.stop
  | .after => extent.stop + 1
  | .count => extent.stop - extent.start

/-- A number that a template compares. -/
inductive Quantity where
  /-- One that is written out. -/
  | fixed (n : Nat)
  /-- One that belongs to the lines of a file. -/
  | of (isSecond : Bool) (measure : Measure)
  deriving Repr

/-- How a number is laid out. -/
structure Figure where
  /-- The field. -/
  layout : Layout
  /-- The letter of the base: `d`, `o`, `x` or `X`. -/
  base : Char

/-- A number as it is laid out. -/
def Figure.write (figure : Figure) (n : Nat) : Text :=
  match figure.base with
  | 'o' => figure.layout.natural 8 false n
  | 'x' => figure.layout.natural 16 false n
  | 'X' => figure.layout.natural 16 true n
  | _ => figure.layout.integer n

/-- A piece of a template for lines. -/
inductive LinePiece where
  /-- A character. -/
  | letter (c : Char)
  /-- The line, with its end or without. -/
  | line (hasEnd : Bool)
  /-- The number of the line. -/
  | number (figure : Figure)

/-- A piece of a template for groups. -/
inductive GroupPiece where
  /-- A character. -/
  | letter (c : Char)
  /-- The lines of the group. -/
  | lines (origin : Origin)
  /-- A number that belongs to the group. -/
  | number (figure : Figure) (quantity : Quantity)
  /-- One of two templates, the first one if two numbers are equal. -/
  | choice (first second : Quantity) (equal different : List GroupPiece)

/-! ### Reading -/

/-- The measure that a letter stands for, and whether it is that of the second file. -/
def Quantity.ofLetter? (letter : Char) : Option Quantity :=
  let measure? : Option Measure :=
    match letter.toLower with
    | 'e' => some .before
    | 'f' => some .first
    | 'l' => some .last
    | 'm' => some .after
    | 'n' => some .count
    | _ => none
  measure?.map (.of letter.isUpper)

/-- The character that is written between apostrophes, after the first one, or by its octal code. -/
def readLetter : Text → Option (Char × Text)
  | '\\' :: text =>
    let digits := text.takeWhile fun c ↦ '0' ≤ c && c ≤ '7'
    match text.drop digits.length with
    | '\'' :: rest =>
      if 1 ≤ digits.length ∧ digits.length ≤ 3 then
        some (.ofNat (Text.natOfDigits 8 digits % 256), rest)
      else none
    | _ => none
  | '\'' :: _ => none
  | c :: '\'' :: rest => some (c, rest)
  | _ => none

/-- The field and the kind of value that a text after a percent sign asks for. -/
def readFigure (text : Text) : Figure × Text :=
  let flags := text.takeWhile fun c ↦ "-'0".toList.contains c
  let text := text.drop flags.length
  let width := text.takeWhile Char.isDigit
  let text := text.drop width.length
  let (precision, text) : Option Nat × Text :=
    match text with
    | '.' :: rest =>
      let digits := rest.takeWhile Char.isDigit
      (some (Text.natOfDigits 10 digits), rest.drop digits.length)
    | _ => (none, text)
  let layout :=
    { Directive.layoutOf flags with width := Text.natOfDigits 10 width, precision }
  (⟨layout, text.headD ' '⟩, text.drop 1)

/-- The pieces of a template for lines. -/
def readLinePieces : Nat → Text → List LinePiece
  | 0, _ => []
  | _, [] => []
  | fuel + 1, '%' :: rest =>
    let (figure, after) := readFigure rest
    match rest, figure.base, after with
    | '%' :: rest, _, _ => .letter '%' :: readLinePieces fuel rest
    | 'l' :: rest, _, _ => .line false :: readLinePieces fuel rest
    | 'L' :: rest, _, _ => .line true :: readLinePieces fuel rest
    | _, 'c', '\'' :: after =>
      match readLetter after with
      | some (c, after) => .letter c :: readLinePieces fuel after
      | none => .letter '%' :: readLinePieces fuel rest
    | _, base, 'n' :: after =>
      if "doxX".toList.contains base then .number figure :: readLinePieces fuel after
      else .letter '%' :: readLinePieces fuel rest
    | _, _, _ => .letter '%' :: readLinePieces fuel rest
  | fuel + 1, c :: rest => .letter c :: readLinePieces fuel rest

/-- A number that is compared, and what follows it. -/
def readQuantity (text : Text) : Option (Quantity × Text) :=
  let digits := text.takeWhile Char.isDigit
  if digits.isEmpty then
    text.head?.bind fun letter ↦ (Quantity.ofLetter? letter).map fun quantity ↦
      (quantity, text.drop 1)
  else some (.fixed (Text.natOfDigits 10 digits), text.drop digits.length)

/-- The two numbers that are compared, and what follows them. -/
def readCondition (text : Text) : Option (Quantity × Quantity × Text) :=
  match readQuantity text with
  | some (first, '=' :: rest) =>
    match readQuantity rest with
    | some (second, '?' :: rest) => some (first, second, rest)
    | _ => none
  | _ => none

/-- The pieces of a template for groups, up to a character that ends it, and what is left, that
character included. -/
def readGroupPieces : Nat → Option Char → Text → List GroupPiece × Text
  | 0, _, text => ([], text)
  | _, _, [] => ([], [])
  | fuel + 1, ending, '%' :: rest =>
    let goOn (piece : GroupPiece) (rest : Text) : List GroupPiece × Text :=
      let (pieces, rest) := readGroupPieces fuel ending rest
      (piece :: pieces, rest)
    let (figure, after) := readFigure rest
    match rest with
    | '%' :: rest => goOn (.letter '%') rest
    | '<' :: rest => goOn (.lines .old) rest
    | '>' :: rest => goOn (.lines .new) rest
    | '=' :: rest => goOn (.lines .common) rest
    | '(' :: inside =>
      match readCondition inside with
      | some (first, second, inside) =>
        let (equal, rest) := readGroupPieces fuel (some ':') inside
        let (different, rest) :=
          match rest with
          | [] => ([], [])
          | _ :: rest =>
            let (different, rest) := readGroupPieces fuel (some ')') rest
            (different, rest.drop 1)
        goOn (.choice first second equal different) rest
      | none => goOn (.letter '%') rest
    | _ =>
      match figure.base, after with
      | 'c', '\'' :: after =>
        match readLetter after with
        | some (c, after) => goOn (.letter c) after
        | none => goOn (.letter '%') rest
      | base, letter :: after =>
        match Quantity.ofLetter? letter with
        | some quantity =>
          if "doxX".toList.contains base then goOn (.number figure quantity) after
          else goOn (.letter '%') rest
        | none => goOn (.letter '%') rest
      | _, [] => goOn (.letter '%') rest
  | fuel + 1, ending, c :: rest =>
    if ending = some c then ([], c :: rest)
    else
      let (pieces, rest) := readGroupPieces fuel ending rest
      (.letter c :: pieces, rest)

/-! ### Writing -/

/-- Templates for lines and for groups of lines, as far as they are given. -/
structure Templates where
  /-- For lines of the first file. -/
  oldLine : Option Text := none
  /-- For lines of the second file. -/
  newLine : Option Text := none
  /-- For lines of both files. -/
  commonLine : Option Text := none
  /-- For groups of lines of the first file. -/
  oldGroup : Option Text := none
  /-- For groups of lines of the second file. -/
  newGroup : Option Text := none
  /-- For groups of lines of both files. -/
  commonGroup : Option Text := none
  /-- For groups of lines of the first file that stand for others in the second one. -/
  changedGroup : Option Text := none

namespace Templates

/-- The template for lines. -/
def line (templates : Templates) : Origin → Text
  | .old => templates.oldLine.getD "%l\n"
  | .new => templates.newLine.getD "%l\n"
  | .common => templates.commonLine.getD "%l\n"

/-- The template for groups that one file has. -/
def group (templates : Templates) : Origin → Text
  | .old => (templates.oldGroup.or templates.changedGroup).getD "%<"
  | .new => (templates.newGroup.or templates.changedGroup).getD "%>"
  | .common => templates.commonGroup.getD "%="

/-- The template for groups of lines that stand for others. -/
def changed (templates : Templates) : Text :=
  templates.changedGroup.getD (templates.group .old ++ templates.group .new)

/-- Whether nothing is written of lines that both files have. -/
def hidesCommon (templates : Templates) : Bool :=
  let group := templates.group .common
  group.isEmpty || (group = ['%', '='] && (templates.line .common).isEmpty)

/-- Templates that put lines which are not in both files under conditions on a name. -/
def underName (name : Text) : Templates where
  oldGroup := some ("#ifndef " ++ name ++ "\n%<#endif /* ! " ++ name ++ " */\n".toList)
  newGroup := some ("#ifdef " ++ name ++ "\n%>#endif /* " ++ name ++ " */\n".toList)
  commonGroup := some ['%', '=']
  changedGroup := some ("#ifndef " ++ name ++ "\n%<#else /* " ++ name ++ " */\n%>#endif /* " ++
    name ++ " */\n".toList)

end Templates

/-- Lines of a file as a template writes them. `line` is what a line reads, with its end or
without. -/
def writeLines (pieces : List LinePiece) (line : Nat → Bool → Text) (extent : Extent) : Text :=
  (List.range (extent.stop - extent.start)).flatMap fun i ↦
    let place := extent.start + i
    pieces.flatMap fun piece ↦
      match piece with
      | .letter c => [c]
      | .line hasEnd => line place hasEnd
      | .number figure => figure.write (place + 1)

/-- A group of lines of two files. -/
structure Group where
  /-- The lines of the first file. -/
  first : Extent
  /-- The lines of the second file. -/
  second : Extent
  /-- The lines as they are written if they come from somewhere. -/
  lines : Origin → Text

namespace Group

/-- What a quantity amounts to. -/
def amount (group : Group) : Quantity → Nat
  | .fixed n => n
  | .of isSecond measure => (if isSecond then group.second else group.first).measure measure

mutual

/-- A piece of a template as it is written. -/
def writePiece (group : Group) : GroupPiece → Text
  | .letter c => [c]
  | .lines origin => group.lines origin
  | .number figure quantity => figure.write (group.amount quantity)
  | .choice first second equal different =>
    if group.amount first = group.amount second then write group equal
    else write group different

/-- A group as a template writes it. -/
def write (group : Group) : List GroupPiece → Text
  | [] => []
  | piece :: pieces => writePiece group piece ++ write group pieces

end

end Group

end AlignmentTally.Command.Difference
