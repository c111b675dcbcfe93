import AlignmentTally.Machine.Disk
import AlignmentTally.Shell.Pattern
import AlignmentTally.Shell.Syntax

/-!
# Fields

A word expands to pieces, and the pieces to fields. Quoted text and text that is written out stay
in one field; what an expansion gives is cut at separators. Of the separators, blanks that stand
together count as one, and at the ends of a text not at all; any other one ends a field each time.
A field that is a pattern stands for the paths that it fits.
-/

namespace AlignmentTally.Shell

open Machine

/-- A part of an expanded word. -/
inductive Piece where
  /-- A text, whether it is quoted, and whether it is cut at separators. -/
  | text (quoted cuts : Bool) (text : Text)
  /-- The end of a field. -/
  | cut
  deriving DecidableEq, Repr, Inhabited

/-- A field: its texts, and whether each is quoted. -/
abbrev Field := List (Bool × Text)

/-- The text of a field. -/
def Field.text (field : Field) : Text := field.flatMap Prod.snd

/-- The characters of a field with their quotes. -/
def Field.glyphs (field : Field) : List Glyph :=
  field.flatMap fun (quoted, text) ↦ text.map fun c ↦ ⟨c, quoted⟩

namespace Piece

/-- The text of pieces, with nothing between fields. -/
def toText (pieces : List Piece) : Text :=
  pieces.flatMap fun piece ↦
    match piece with
    | .text _ _ content => content
    | .cut => []

/-- The characters of pieces with their quotes. -/
def toGlyphs (pieces : List Piece) : List Glyph :=
  pieces.flatMap fun piece ↦
    match piece with
    | .text quoted _ content => content.map fun c ↦ ⟨c, quoted⟩
    | .cut => []

end Piece

/-- What a separator has left to be skipped. -/
inductive Skipping where
  /-- Nothing. -/
  | nothing
  /-- Blanks. -/
  | blanks
  /-- Blanks, and one separator that is none. -/
  | blanksAndOne
  deriving DecidableEq

/-- Fields as far as they were cut, everything in reverse. -/
structure Cutting where
  /-- The fields that are closed. -/
  closed : List Field := []
  /-- The texts of the open field, if one is open. -/
  open_ : Option Field := none
  /-- The text at the end of the open field. -/
  run : Text := []
  /-- What is skipped next. -/
  skipping : Skipping := .nothing

namespace Cutting

/-- The open field with its last text. -/
def field? (cutting : Cutting) : Option Field :=
  if cutting.run.isEmpty then cutting.open_.map List.reverse
  else some ((false, cutting.run.reverse) :: cutting.open_.getD []).reverse

/-- The fields when the open one has been closed, empty or not. -/
def close (cutting : Cutting) (evenEmpty : Bool) (skipping : Skipping) : Cutting :=
  match cutting.field? with
  | some field => ⟨field :: cutting.closed, none, [], skipping⟩
  | none => ⟨if evenEmpty then [] :: cutting.closed else cutting.closed, none, [], skipping⟩

/-- Whether a separator is a blank, so that it counts together with others. -/
def isBlank (c : Char) : Bool := c = ' ' || c = '\t' || c = '\n'

/-- Takes one character of a text that is cut. -/
def step (separators : Text) (cutting : Cutting) (c : Char) : Cutting :=
  if separators.contains c then
    match cutting.skipping with
    | .blanks =>
      if isBlank c then cutting else cutting.close true .blanks
    | .blanksAndOne =>
      if isBlank c then cutting else { cutting with skipping := .blanks }
    | .nothing =>
      if isBlank c then
        if cutting.field?.isNone then cutting else cutting.close false .blanksAndOne
      else cutting.close true .blanks
  else { cutting with run := c :: cutting.run, skipping := .nothing }

/-- Takes one piece. -/
def take (separators : Text) (cutting : Cutting) (piece : Piece) : Cutting :=
  match piece with
  | .cut => cutting.close false .nothing
  | .text quoted true text =>
    let cutting := { cutting with skipping := .nothing }
    if quoted then cutting else text.foldl (step separators) cutting
  | .text quoted false text =>
    if text.isEmpty ∧ ¬ quoted then cutting
    else
      let before :=
        if cutting.run.isEmpty then cutting.open_.getD []
        else (false, cutting.run.reverse) :: cutting.open_.getD []
      { cutting with open_ := some ((quoted, text) :: before), run := [], skipping := .nothing }

end Cutting

/-- The fields of pieces. -/
def fieldsOf (separators : Text) (pieces : List Piece) : List Field :=
  ((pieces.foldl (Cutting.take separators) {}).close false .nothing).closed.reverse

/-! ### Paths -/

namespace Glob

/-- How patterns for paths are understood. -/
structure Manner where
  /-- How the parts of a pattern between slashes are written. -/
  style : PatternStyle := {}
  /-- Whether a directory counts among its own names, and the one that it is in. -/
  hasSelf : Bool := true
  /-- Whether a dot at the start of a name has to be written out. -/
  hidesDots : Bool := true
  /-- Whether two stars for a name stand for any number of directories. -/
  isDeep : Bool := false

/-- Whether a field is a pattern. -/
def isPattern (style : PatternStyle) : List Glyph → Bool
  | [] => false
  | glyph :: rest =>
    (!glyph.quoted && "*?[".toList.contains glyph.char) ||
      (Place.group? style (glyph :: rest)).isSome || isPattern style rest

/-- The parts of a pattern between slashes. -/
def components (glyphs : List Glyph) : List (List Glyph) :=
  let (parts, last) := glyphs.foldl
    (fun (parts, last) glyph ↦
      if glyph.char = '/' then (last.reverse :: parts, []) else (parts, glyph :: last))
    (([] : List (List Glyph)), ([] : List Glyph))
  (last.reverse :: parts).reverse

/-- The names in a directory that a pattern fits. -/
def names (manner : Manner) (disk : Disk) (number : Nat) (pattern : List Glyph) : List Text :=
  let places := Place.ofGlyphs manner.style (pattern.length + 1) pattern
  let own := if manner.hasSelf then [['.'], ['.', '.']] else []
  let all := own ++ (disk.get number).entries.map Prod.fst
  let wantsDot := !manner.hidesDots || Place.beginsWithDot places
  all.filter fun name ↦ (wantsDot || name.head? ≠ some '.') && Place.fits places name

/-- What is below a directory, at most some levels down: the path of each file, and whether it is a
directory. Links are not followed. -/
def below (manner : Manner) (disk : Disk) : Nat → Text → Nat → List (Text × Bool)
  | 0, _, _ => []
  | levels + 1, before, directory =>
    (disk.get directory).entries.flatMap fun (name, number) ↦
      if manner.hidesDots ∧ name.head? = some '.' then []
      else
        let path := before ++ name
        let isDirectory := (disk.get number).isDirectory
        (path, isDirectory) ::
          if isDirectory then below manner disk levels (path ++ ['/']) number else []

/-- Two stars, which stand for any number of directories. -/
def twoStars : List Glyph := [⟨'*', false⟩, ⟨'*', false⟩]

/-- The parts of a pattern with two stars only once where they follow each other. -/
def joinStars : List (List Glyph) → List (List Glyph)
  | [] => []
  | part :: rest =>
    match joinStars rest with
    | next :: others =>
      if part = twoStars ∧ next = twoStars then next :: others else part :: next :: others
    | [] => [part]

/-- The paths that the parts of a pattern fit, after a path that leads to a directory. `hasPattern`
says that a part before was a pattern. -/
def paths (manner : Manner) (disk : Disk) (directory : Nat) (before : Text) (hasPattern : Bool) :
    List (List Glyph) → List Text
  | [] => [before]
  | part :: rest =>
    let slash := fun path : Text ↦ if rest.isEmpty then path else path ++ ['/']
    if isPattern manner.style part then
      let here := if before.isEmpty then ['.'] else before
      match disk.find directory here with
      | .error _ => []
      | .ok number =>
        if ¬ (disk.get number).isDirectory then []
        else if manner.isDeep ∧ part = twoStars then
          let all := below manner disk disk.files.size before number
          if rest.isEmpty then
            let own := if hasPattern then before.dropLast else before
            (if before.isEmpty then [] else [own]) ++ all.map Prod.fst
          else
            let directories := (all.filter (·.2)).map fun (path, _) ↦ path ++ ['/']
            (before :: directories).flatMap fun path ↦ paths manner disk directory path true rest
        else
          (names manner disk number part).flatMap fun name ↦
            let path := before ++ name
            let isThere :=
              if rest.isEmpty then true
              else (disk.file? directory path).any (·.isDirectory)
            if isThere then paths manner disk directory (slash path) true rest else []
    else
      let path := before ++ part.map (·.char)
      if rest.isEmpty then
        let there := if path.getLast? = some '/' then path ++ ['.'] else path
        if (disk.findWith false directory there).isOk then [path] else []
      else paths manner disk directory (slash path) hasPattern rest

/-- The paths that a pattern fits, in order. -/
def expand (manner : Manner) (disk : Disk) (directory : Nat) (glyphs : List Glyph) :
    List Text :=
  let parts := components glyphs
  let joined := if manner.isDeep then joinStars parts else parts
  let hasPattern := joined.length < parts.length
  (paths manner disk directory [] hasPattern joined).mergeSort fun a b ↦ !Text.before b a

end Glob

end AlignmentTally.Shell
