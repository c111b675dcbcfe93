import AlignmentTally.Machine.CharSet
import AlignmentTally.Shell.Syntax

/-!
# Patterns

What words are compared with. A star fits every text, a question mark every character, and
brackets one character out of a set; a group fits one of several patterns, so and so often in a row;
any other character fits itself, and so does every character that is quoted.

A pattern is followed through a text from a set of positions to a set of positions, so that the
time it takes does not grow with the number of ways in which it fits.
-/

namespace AlignmentTally.Shell

open Machine

/-- A character, and whether it is quoted. -/
structure Glyph where
  /-- The character. -/
  char : Char
  /-- Whether it stands for itself in any case. -/
  quoted : Bool
  deriving DecidableEq, Repr, Inhabited

/-- How often one of several patterns comes in a row. -/
inductive Times where
  /-- Once or not at all. -/
  | atMostOnce
  /-- As often as one likes. -/
  | any
  /-- Once or more often. -/
  | atLeastOnce
  /-- Once. -/
  | once
  /-- Never: in its place stands a text that none of them fits. -/
  | never
  deriving DecidableEq, Repr, Inhabited

/-- What the character in front of a group says about it. -/
def Times.ofChar? : Char → Option Times
  | '?' => some .atMostOnce
  | '*' => some .any
  | '+' => some .atLeastOnce
  | '@' => some .once
  | '!' => some .never
  | _ => none

/-- What one place of a pattern fits. -/
inductive Place where
  /-- One character. -/
  | char (c : Char)
  /-- Any character. -/
  | one
  /-- Any text. -/
  | many
  /-- A character in one of some sets, or in none of them. -/
  | among (inside : Bool) (sets : List CharSet)
  /-- One of several patterns, so and so often. -/
  | group (times : Times) (choices : List (List Place))
  deriving Inhabited

/-- How patterns are written. -/
structure PatternStyle where
  /-- Whether a caret negates brackets as an exclamation mark does. -/
  carets : Bool := false
  /-- Whether there are groups. -/
  groups : Bool := false
  /-- Whether letters fit those of the other case. -/
  foldsCase : Bool := false
  deriving Inhabited

namespace Place

/-- A set with the letters of the other case. -/
def folded : CharSet → List CharSet
  | .range low high =>
    [.range low high, .range low.toLower high.toLower, .range low.toUpper high.toUpper]
  | .named name =>
    if name = "upper".toList ∨ name = "lower".toList then [.named "alpha".toList] else [.named name]

/-- A place that fits a character. -/
def ofChar (style : PatternStyle) (c : Char) : Place :=
  if style.foldsCase ∧ c.isAlpha then among true (folded (.range c c)) else char c

/-- A place that fits a character in one of some sets, or in none of them. -/
def ofSets (style : PatternStyle) (inside : Bool) (sets : List CharSet) : Place :=
  among inside (if style.foldsCase then sets.flatMap folded else sets)

/-- Reads the name of a class after `[:`, and what follows its end. -/
def readClass? (glyphs : List Glyph) : Option (CharSet × List Glyph) :=
  let name := glyphs.takeWhile (·.char.isAlpha)
  match glyphs.drop name.length with
  | ⟨':', _⟩ :: ⟨']', _⟩ :: rest => some (.named (name.map (·.char)), rest)
  | _ => none

/-- Reads the sets between brackets, up to the closing one. -/
def readSets? (isFirst : Bool) : Nat → List Glyph → Option (List CharSet × List Glyph)
  | 0, _ => none
  | rounds + 1, glyphs =>
    match glyphs with
    | [] => none
    | ⟨']', false⟩ :: rest =>
      if isFirst then do
        let (sets, rest) ← readSets? false rounds rest
        return (.range ']' ']' :: sets, rest)
      else some ([], rest)
    | ⟨'[', false⟩ :: ⟨':', _⟩ :: rest =>
      match readClass? rest with
      | some (set, rest) => do
        let (sets, rest) ← readSets? false rounds rest
        return (set :: sets, rest)
      | none => do
        let (sets, rest) ← readSets? false rounds (⟨':', false⟩ :: rest)
        return (.range '[' '[' :: sets, rest)
    | low :: ⟨'-', false⟩ :: ⟨']', false⟩ :: rest => do
      let (sets, rest) ← readSets? false rounds (⟨']', false⟩ :: rest)
      return (.range low.char low.char :: .range '-' '-' :: sets, rest)
    | low :: ⟨'-', false⟩ :: high :: rest => do
      let (sets, rest) ← readSets? false rounds rest
      return (.range low.char high.char :: sets, rest)
    | c :: rest => do
      let (sets, rest) ← readSets? false rounds rest
      return (.range c.char c.char :: sets, rest)

/-- Reads the choices of a group up to the bracket that closes it, within a number of open brackets.
`done` is the part of a choice that was read, the last glyph first. -/
def readChoices? : Nat → List Glyph → List (List Glyph) → List Glyph →
    Option (List (List Glyph) × List Glyph)
  | _, _, _, [] => none
  | depth, done, choices, glyph :: rest =>
    if glyph.quoted then readChoices? depth (glyph :: done) choices rest
    else if glyph.char = '(' then readChoices? (depth + 1) (glyph :: done) choices rest
    else if glyph.char = ')' then
      match depth with
      | 0 => some ((done.reverse :: choices).reverse, rest)
      | depth + 1 => readChoices? depth (glyph :: done) choices rest
    else if glyph.char = '|' ∧ depth = 0 then
      readChoices? depth [] (done.reverse :: choices) rest
    else readChoices? depth (glyph :: done) choices rest

/-- The choices of a group that glyphs begin with, and what follows it. -/
def group? (style : PatternStyle) : List Glyph → Option (Times × List (List Glyph) × List Glyph)
  | ⟨c, false⟩ :: ⟨'(', false⟩ :: rest => do
    let times ← if style.groups then Times.ofChar? c else none
    let (choices, rest) ← readChoices? 0 [] [] rest
    return (times, choices, rest)
  | _ => none

/-- The pattern that glyphs write, with at most some places. -/
def ofGlyphs (style : PatternStyle) : Nat → List Glyph → List Place
  | 0, _ => []
  | _ + 1, [] => []
  | rounds + 1, ⟨c, quoted⟩ :: rest =>
    match group? style (⟨c, quoted⟩ :: rest) with
    | some (times, choices, rest) =>
      group times (choices.map (ofGlyphs style rounds)) :: ofGlyphs style rounds rest
    | none =>
      if quoted then ofChar style c :: ofGlyphs style rounds rest
      else if c = '*' then many :: ofGlyphs style rounds rest
      else if c = '?' then one :: ofGlyphs style rounds rest
      else if c = '\\' then
        match rest with
        | next :: rest => ofChar style next.char :: ofGlyphs style rounds rest
        | [] => [char '\\']
      else if c = '[' then
        let (inside, set) :=
          match rest with
          | ⟨'!', false⟩ :: set => (false, set)
          | ⟨'^', false⟩ :: set => if style.carets then (false, set) else (true, rest)
          | set => (true, set)
        match readSets? true (set.length + 1) set with
        | some (sets, rest) => ofSets style inside sets :: ofGlyphs style rounds rest
        | none => ofChar style c :: ofGlyphs style rounds rest
      else ofChar style c :: ofGlyphs style rounds rest

/-- The pattern that a text without quotes writes. -/
def ofText (text : Text) : List Place :=
  ofGlyphs { carets := true } (text.length + 1) (text.map fun c ↦ ⟨c, false⟩)

/-- Whether a place for one character fits it. -/
def fitsChar (place : Place) (c : Char) : Bool :=
  match place with
  | char d => c = d
  | one => true
  | among inside sets => sets.any (·.contains c) = inside
  | many | group .. => false

/-! ### Following a pattern -/

/-- The positions of two lists of positions, each once. Like every list of positions, they are in
order. -/
def merge : List Nat → List Nat → List Nat
  | [], others => others
  | first, [] => first
  | a :: as, b :: bs =>
    if a < b then a :: merge as (b :: bs)
    else if b < a then b :: merge (a :: as) bs
    else a :: merge as bs
termination_by as bs => as.length + bs.length

/-- The positions from one on in a text of some length. -/
def positionsFrom (length first : Nat) : List Nat := List.range' first (length + 1 - first)

/-- The positions that are reached from some by any number of steps, at most so many. `seen` are
those that were reached before. -/
def reached (step : List Nat → List Nat) : Nat → List Nat → List Nat → List Nat
  | 0, _, seen => seen
  | steps + 1, fresh, seen =>
    let found := (step fresh).filter (!seen.contains ·)
    if found.isEmpty then seen else reached step steps found (merge seen found)

/-- The positions to which one of several patterns leads, so and so often, if `step` is what they
lead to when they come once. -/
def repeated (length : Nat) (times : Times) (step : List Nat → List Nat) (positions : List Nat) :
    List Nat :=
  match times with
  | .once => step positions
  | .atMostOnce => merge positions (step positions)
  | .any => reached step (length + 1) positions positions
  | .atLeastOnce =>
    let first := step positions
    reached step (length + 1) first first
  | .never =>
    (positions.map fun position ↦
      let fitted := step [position]
      (positionsFrom length position).filter (!fitted.contains ·)).foldl merge []

mutual

/-- The positions in a text to which a place leads from some positions. -/
def leads (text : Array Char) : Place → List Nat → List Nat
  | many, [] => []
  | many, first :: _ => positionsFrom text.size first
  | group times choices, positions =>
    repeated text.size times (fun positions ↦ choicesLead text choices positions) positions
  | place, positions =>
    positions.filterMap fun i ↦ if text[i]?.any place.fitsChar then some (i + 1) else none

/-- The positions in a text to which a pattern leads from some positions. -/
def patternLeads (text : Array Char) : List Place → List Nat → List Nat
  | [], positions => positions
  | place :: rest, positions => patternLeads text rest (leads text place positions)

/-- The positions in a text to which one of several patterns leads from some positions. -/
def choicesLead (text : Array Char) : List (List Place) → List Nat → List Nat
  | [], _ => []
  | choice :: others, positions =>
    merge (patternLeads text choice positions) (choicesLead text others positions)

end

/-- Whether a pattern fits a whole text. -/
def fits (places : List Place) (text : Text) : Bool :=
  (patternLeads text.toArray places [0]).contains text.length

/-- A text without the shortest or longest start that a pattern fits. -/
def trimStart (longest : Bool) (places : List Place) (text : Text) : Text :=
  let ends := patternLeads text.toArray places [0]
  text.drop ((if longest then ends.getLast? else ends.head?).getD 0)

/-- A text without the shortest or longest end that a pattern fits. -/
def trimEnd (longest : Bool) (places : List Place) (text : Text) : Text :=
  let all := text.toArray
  let starts := List.range (text.length + 1)
  let starts := if longest then starts else starts.reverse
  match starts.find? fun n ↦ (patternLeads all places [n]).contains text.length with
  | some n => text.take n
  | none => text

/-- The end of the longest part of a text that begins at a position and that a pattern fits. -/
def longestEnd? (places : List Place) (text : Array Char) (start : Nat) : Option Nat :=
  (patternLeads text places [start]).getLast?

mutual

/-- Whether a place can be a dot that is written out. -/
def writesDot : Place → Bool
  | char c => c = '.'
  | group _ choices => anyWritesDot choices
  | _ => false

/-- Whether a pattern can begin with a dot that is written out. -/
def beginsWithDot : List Place → Bool
  | [] => false
  | place :: _ => writesDot place

/-- Whether one of some patterns can begin with a dot that is written out. -/
def anyWritesDot : List (List Place) → Bool
  | [] => false
  | choice :: others => beginsWithDot choice || anyWritesDot others

end

end Place

end AlignmentTally.Shell
