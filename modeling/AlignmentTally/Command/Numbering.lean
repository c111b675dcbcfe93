import AlignmentTally.Command.Columns
import AlignmentTally.Command.Fields

/-!
# Numbering lines

The lines of files with numbers in front of them. Marks on lines of their own divide files into pages
of a head, a body and a foot, each of which has a style of its own.
-/

namespace AlignmentTally.Command

open Machine

namespace Numbering

/-- Which lines are numbered. -/
inductive Style where
  /-- All of them. -/
  | all
  /-- Those that are not empty. -/
  | nonempty
  /-- None. -/
  | never
  /-- Those that a regular expression fits. -/
  | fitting (regex : Regex)

/-- The part of a page. -/
inductive Part where
  /-- The head. -/
  | head
  /-- The body. -/
  | body
  /-- The foot. -/
  | foot

/-- How lines are numbered. -/
structure Scheme where
  /-- The lines that are numbered in the head of a page. -/
  head : Style := .never
  /-- The lines that are numbered in its body. -/
  body : Style := .nonempty
  /-- The lines that are numbered in its foot. -/
  foot : Style := .never
  /-- The first number. -/
  first : Int := 1
  /-- The step from number to number. -/
  step : Int := 1
  /-- How many empty lines count as one. -/
  blanks : Nat := 1
  /-- The width of a number. -/
  width : Nat := 6
  /-- Whether a number stands at the left, at the right or at the right after zeros. -/
  format : Text := "rn"
  /-- What follows a number. -/
  separator : Text := "\t"
  /-- Whether the numbers go on from page to page. -/
  goesOn : Bool := false
  /-- What a mark is made of. -/
  mark : Text := "\\:"

/-- The style of a part. -/
def Scheme.style (scheme : Scheme) : Part → Style
  | .head => scheme.head
  | .body => scheme.body
  | .foot => scheme.foot

/-- A number in its field. -/
def Scheme.field (scheme : Scheme) (n : Int) : Text :=
  let digits := Text.ofNat n.natAbs
  let sign := if n < 0 then ['-'] else []
  if scheme.format = "ln".toList then Text.padRight scheme.width (sign ++ digits)
  else if scheme.format = "rz".toList then
    sign ++ Text.padLeft '0' (scheme.width - sign.length) digits
  else Text.padLeft ' ' scheme.width (sign ++ digits)

/-- The part that a line announces. -/
def Scheme.part? (scheme : Scheme) (line : Text) : Option Part :=
  let mark := scheme.mark
  if mark.isEmpty then none
  else if line = mark ++ mark ++ mark then some .head
  else if line = mark ++ mark then some .body
  else if line = mark then some .foot
  else none

/-- How far lines have been numbered. -/
structure Place where
  /-- The part of the page. -/
  part : Part := .body
  /-- The next number. -/
  next : Int
  /-- The empty lines before. -/
  blanks : Nat := 0

/-- A line with its number, and the place after it. -/
def Scheme.line (scheme : Scheme) (place : Place) (line : Text) : Text × Place :=
  match scheme.part? line with
  | some part =>
    let next := if scheme.goesOn then place.next else scheme.first
    (['\n'], { place with part, next })
  | none =>
    let (counts, blanks) : Bool × Nat :=
      match scheme.style place.part with
      | .all =>
        if scheme.blanks ≤ 1 then (true, place.blanks)
        else if line.isEmpty ∧ place.blanks + 1 ≠ scheme.blanks then (false, place.blanks + 1)
        else (true, 0)
      | .nonempty => (!line.isEmpty, place.blanks)
      | .never => (false, place.blanks)
      | .fitting regex => ((regex.find? {} line).isSome, place.blanks)
    if counts then
      (scheme.field place.next ++ scheme.separator ++ line ++ ['\n'],
        { place with next := place.next + scheme.step, blanks })
    else
      let blank := List.replicate (scheme.width + scheme.separator.length) ' '
      (blank ++ line ++ ['\n'], { place with blanks })

/-- Lines with numbers, from a place on, and the place after them. -/
def Scheme.lines (scheme : Scheme) :
    List Text → Place → List Text → List Text × Place
  | [], place, done => (done.reverse, place)
  | line :: rest, place, done =>
    let (text, place) := scheme.line place line
    scheme.lines rest place (text :: done)

/-! ### Arguments -/

/-- The style that a text asks for. Complaints are remembered. -/
def styleOf (name : String) (usual : Style) (text : Text) : Work Style := do
  match text with
  | ['a'] => return .all
  | ['t'] => return .nonempty
  | ['n'] => return .never
  | 'p' :: pattern =>
    match Regex.read { extended := false } pattern with
    | .ok (regex, _) => return .fitting regex
    | .error fault => Work.fail fault.words 1
  | text =>
    Work.complain ("invalid ".toList ++ name.toList ++ " numbering style: ".toList ++
      Quoted.word text)
    return usual

/-- The greatest number. -/
def numberLimit : Int := 9223372036854775807

/-- The integer that a text writes, at least some number. Complaints end the command. -/
def integerOf (name : String) (least most : Int) (text : Text) : Work Int := do
  let invalid := "invalid ".toList ++ name.toList ++ ": ".toList ++ Quoted.word text
  let digits := text.dropWhile fun c ↦ c = ' ' || c = '\t'
  let digits := if digits.head? = some '+' then digits.drop 1 else digits
  match Text.toInt? digits with
  | none => Work.fail invalid 1
  | some n =>
    if n < -numberLimit - 1 ∨ numberLimit < n then
      Work.fail (invalid ++ ": Value too large for defined data type") 1
    if n < least ∨ most < n then Work.fail (invalid ++ ": Numerical result out of range") 1
    return n

/-- Writes files with their lines numbered. -/
def nl (arguments : List Text) : Work Unit := do
  let (chosen, paths) ← Choices.take
    { letters := "h:b:f:v:i:pl:s:w:n:d:"
      words := [("header-numbering=", 'h'), ("body-numbering=", 'b'), ("footer-numbering=", 'f'),
        ("starting-line-number=", 'v'), ("line-increment=", 'i'), ("no-renumber", 'p'),
        ("join-blank-lines=", 'l'), ("number-separator=", 's'), ("number-width=", 'w'),
        ("number-format=", 'n'), ("section-delimiter=", 'd')] } arguments
  let mut scheme : Scheme := {}
  for (letter, text) in chosen do
    match letter with
    | 'h' => scheme := { scheme with head := ← styleOf "header" .never text }
    | 'b' => scheme := { scheme with body := ← styleOf "body" .nonempty text }
    | 'f' => scheme := { scheme with foot := ← styleOf "footer" .never text }
    | 'v' =>
      let first ← integerOf "starting line number" (-numberLimit - 1) numberLimit text
      scheme := { scheme with first }
    | 'i' =>
      let step ← integerOf "line number increment" (-numberLimit - 1) numberLimit text
      scheme := { scheme with step }
    | 'p' => scheme := { scheme with goesOn := true }
    | 'l' =>
      let blanks ← integerOf "line number of blank lines" 0 numberLimit text
      scheme := { scheme with blanks := blanks.toNat }
    | 's' => scheme := { scheme with separator := text }
    | 'w' =>
      let width ← integerOf "line number field width" 1 2147483647 text
      scheme := { scheme with width := width.toNat }
    | 'n' =>
      if ["ln".toList, "rn".toList, "rz".toList].contains text then
        scheme := { scheme with format := text }
      else Work.complain ("invalid line numbering format: " ++ Quoted.word text)
    | 'd' =>
      scheme := { scheme with mark := if text.length = 1 then text ++ [':'] else text }
    | _ => pure ()
  if (← get).status ≠ 0 then Work.advise 1
  let act (place : Place) (text : Text) : Work Place := do
    let (lines, place) := scheme.lines (Text.lines text) place []
    Work.put lines.flatten
    return place
  let _ ← Work.foldFiles '\n' paths act { next := scheme.first }

end Numbering

end AlignmentTally.Command
