import AlignmentTally.Machine.Text
import AlignmentTally.Shell.Syntax

/-!
# Braces in words

In the extended dialect a word with braces stands for several words: one for each text between the
commas, or one for each number or letter from a first to a last one, always with what stands before
and behind the braces. Braces that hold neither stand for themselves, and so does everything that
is quoted.
-/

namespace AlignmentTally.Shell

open Machine

namespace Brace

/-- A word in small pieces: a character without quotes, or a part that is taken as it is. -/
inductive Atom where
  /-- A character that stands outside of quotes. -/
  | char (c : Char)
  /-- A part of a word. -/
  | part (part : Part)

/-- The atoms of a word. -/
def toAtoms (word : Word) : List Atom :=
  word.flatMap fun part ↦
    match part with
    | .literal false text => text.map .char
    | part => [.part part]

/-- The word of atoms. -/
def toWord (atoms : List Atom) : Word :=
  atoms.foldr (fun atom word ↦
    match atom, word with
    | .char c, .literal false text :: rest => .literal false (c :: text) :: rest
    | .char c, word => .literal false [c] :: word
    | .part part, word => part :: word) []

/-- The texts between the commas of braces, as far as they were read, everything in reverse. -/
structure Inside where
  /-- The texts before the last comma. -/
  closed : List (List Atom) := []
  /-- The text behind it. -/
  open_ : List Atom := []

/-- Goes through braces from their start to their end: the texts between their commas, and what
follows them; `none` if they have no end. -/
def split? (depth : Nat) (inside : Inside) : List Atom → Option (List (List Atom) × List Atom)
  | [] => none
  | atom :: rest =>
    let keep : Inside := { inside with open_ := atom :: inside.open_ }
    match atom, depth with
    | .char '{', depth => split? (depth + 1) keep rest
    | .char '}', 0 => some ((inside.open_.reverse :: inside.closed).reverse, rest)
    | .char '}', depth + 1 => split? depth keep rest
    | .char ',', 0 => split? 0 ⟨inside.open_.reverse :: inside.closed, []⟩ rest
    | _, depth => split? depth keep rest

/-- The text of atoms, if they are nothing but characters. -/
def text? (atoms : List Atom) : Option Text :=
  atoms.mapM fun atom ↦
    match atom with
    | .char c => some c
    | .part _ => none

/-- Where the first two points that follow each other divide a text. -/
def atPoints? : Text → Option (Text × Text)
  | '.' :: '.' :: rest => some ([], rest)
  | c :: rest => (atPoints? rest).map fun (before, after) ↦ (c :: before, after)
  | [] => none

/-- The whole numbers from one to another one in steps of a size. -/
def numbers (first last : Int) (step : Nat) : List Int :=
  let count := (last - first).natAbs / step + 1
  (List.range count).map fun i ↦
    if first ≤ last then first + (i * step : Nat) else first - (i * step : Nat)

/-- Whether a number is written with a zero in front of it. -/
def isPadded (text : Text) : Bool :=
  match text with
  | '-' :: '0' :: _ :: _ => true
  | '0' :: _ :: _ => true
  | _ => false

/-- A number with zeros in front of it, in a width. -/
def padded (width : Nat) (n : Int) : Text :=
  if n < 0 then '-' :: Text.padLeft '0' (width - 1) (Text.ofNat n.natAbs)
  else Text.padLeft '0' width (Text.ofNat n.natAbs)

/-- The texts that a first, a last and perhaps a step stand for. -/
def sequence? (text : Text) : Option (List Text) := do
  let (first, rest) ← atPoints? text
  let (last, step) : Text × Option Text :=
    match atPoints? rest with
    | some (last, step) => (last, some step)
    | none => (rest, none)
  let step ←
    match step with
    | none => some 1
    | some step => (Text.toInt? step).map fun n ↦ max 1 n.natAbs
  match Text.toInt? first, Text.toInt? last with
  | some low, some high =>
    let width := if isPadded first ∨ isPadded last then max first.length last.length else 0
    return (numbers low high step).map (padded width)
  | none, none =>
    match first, last with
    | [low], [high] =>
      if ¬ low.isAlpha ∨ ¬ high.isAlpha then none
      return (numbers low.toNat high.toNat step).map fun n ↦ [.ofNat n.toNat]
    | _, _ => none
  | _, _ => none

/-- The words that the atoms of a word stand for, with at most some braces one after another or
inside of one another. -/
def expand : Nat → List Atom → List (List Atom)
  | 0, atoms => [atoms]
  | rounds + 1, atoms =>
    match atoms with
    | [] => [[]]
    | .char '{' :: rest =>
      let literally := (expand rounds rest).map (.char '{' :: ·)
      match split? 0 {} rest with
      | none => literally
      | some (texts, after) =>
        let alternatives? : Option (List (List Atom)) :=
          match texts with
          | [inside] => do
            let texts ← sequence? (← text? inside)
            return texts.map (·.map .char)
          | texts => some (texts.flatMap (expand rounds))
        match alternatives? with
        | none => literally
        | some alternatives =>
          let behind := expand rounds after
          alternatives.flatMap fun alternative ↦ behind.map (alternative ++ ·)
    | atom :: rest => (expand rounds rest).map (atom :: ·)

/-- The words that a word with braces stands for. -/
def words (word : Word) : List Word :=
  let hasBraces (part : Part) : Bool :=
    match part with
    | .literal false text => text.contains '{'
    | _ => false
  if ¬ word.any hasBraces then [word]
  else
    let atoms := toAtoms word
    (expand (atoms.length + 1) atoms).map toWord

end Brace

end AlignmentTally.Shell
