import AlignmentTally.Machine.CharSet

/-!
# Regular expressions

What a regular expression fits in a text, from a place on: all the ends that it can reach, each
with the texts of the groups on the way there. Of several ways to an end the first one counts: the
first of two alternatives comes before the second, and one more repetition comes before none. Every
end is kept once, so that the work does not grow with the number of ways. Of all ends, the longest
fit is taken.
-/

namespace AlignmentTally

open Machine

/-- A regular expression. -/
inductive Regex where
  /-- Fits the empty text. -/
  | nothing
  /-- Fits one character: one in some of the sets, or in none of them. -/
  | among (inside : Bool) (sets : List CharSet)
  /-- Fits the empty text at the start of a line. -/
  | lineStart
  /-- Fits the empty text at the end of a line. -/
  | lineEnd
  /-- Fits the empty text at the start of the whole text. -/
  | textStart
  /-- Fits the empty text at the end of the whole text. -/
  | textEnd
  /-- Fits the empty text at the start of a word. -/
  | wordStart
  /-- Fits the empty text at the end of a word. -/
  | wordEnd
  /-- Fits the empty text at an edge of a word, or anywhere else. -/
  | wordEdge (inside : Bool)
  /-- Fits what an expression fits, and remembers it under a number. -/
  | group (number : Nat) (body : Regex)
  /-- Fits what was remembered under a number. -/
  | again (number : Nat)
  /-- Fits a text after another one. -/
  | both (first second : Regex)
  /-- Fits what one of two expressions fits. -/
  | either (first second : Regex)
  /-- Fits a number of texts, one after another. -/
  | times (body : Regex) (least : Nat) (most : Option Nat)
  deriving Repr, Inhabited

namespace Regex

/-- What is taken into account when an expression is compared with a text. -/
structure Manner where
  /-- Whether small and capital letters are the same. -/
  foldsCase : Bool := false
  /-- Whether lines start and end within the text. -/
  hasLines : Bool := false
  deriving DecidableEq, Repr, Inhabited

/-- A place in a text. -/
structure Place where
  /-- The number of characters before it. -/
  index : Nat
  /-- The character before it. -/
  before : Option Char
  /-- The characters after it. -/
  rest : Text
  deriving Repr, Inhabited

/-- A text that was remembered. -/
structure Group where
  /-- The number under which it was remembered. -/
  number : Nat
  /-- Where it starts. -/
  start : Nat
  /-- The text. -/
  text : Text
  deriving DecidableEq, Repr, Inhabited

/-- An end that was reached. -/
structure End where
  /-- The place. -/
  place : Place
  /-- The groups on the way there, the last one first. -/
  groups : List Group
  deriving Repr, Inhabited

/-- The place behind the next characters. -/
def Place.forward : Nat → Place → Place
  | 0, place => place
  | n + 1, place =>
    match place.rest with
    | [] => place
    | c :: rest => forward n ⟨place.index + 1, some c, rest⟩

/-- Whether a character may be part of a word. -/
def isWordChar (c : Char) : Bool := c.isAlphanum || c = '_'

/-- Whether a character is in one of some sets, or in none of them. -/
def fitsChar (manner : Manner) (inside : Bool) (sets : List CharSet) (c : Char) : Bool :=
  let fits (c : Char) : Bool := sets.any (·.contains c)
  (if manner.foldsCase then fits c.toLower || fits c.toUpper else fits c) = inside

/-- Whether a word starts or ends at a place: whether there is a word before and after it. -/
def Place.wordsAround (place : Place) : Bool × Bool :=
  (place.before.any isWordChar, place.rest.head?.any isWordChar)

/-- Whether a place is among ends. -/
def reaches (ends : List End) (place : Place) : Bool := ends.any (·.place.index = place.index)

/-- Ends with further ones behind them, each place once. -/
def join (ends further : List End) : List End :=
  match ends, further with
  | [], further => further
  | ends, [] => ends
  | ends, further => ends ++ further.filter fun e ↦ !reaches ends e.place

/-- The ends that are reached from one of some others. -/
def fromAll (next : End → List End) (ends : List End) : List End :=
  ends.foldl (fun reached e ↦ join reached (next e)) []

/-- The ends that are reached in a number of steps. -/
def steps (next : End → List End) : Nat → List End → List End
  | 0, ends => ends
  | n + 1, ends => steps next n (fromAll next ends)

/-- The ends that are reached in at most a number of steps, those with more steps first. -/
def atMost (next : End → List End) : Nat → End → List End
  | 0, e => [e]
  | n + 1, e =>
    let isMoved (other : End) : Bool := other.place.index ≠ e.place.index
    join (fromAll (atMost next n) ((next e).filter isMoved)) [e]

/-- The ends that were found, the last one first, and the places that were gone through. -/
structure Found where
  /-- The ends. -/
  ends : List End := []
  /-- The places, by their numbers. -/
  seen : List Nat := []

/-- Finds the ends that are reached in any number of steps, those with more steps first. No place is
gone through twice. -/
def explore (next : End → List End) : Nat → Found → End → Found
  | 0, found, _ => found
  | depth + 1, found, e =>
    if found.seen.contains e.place.index then found
    else
      let found := { found with seen := e.place.index :: found.seen }
      let found := (next e).foldl (explore next depth) found
      { found with ends := e :: found.ends }

/-- The ends after one, two and more characters with a property, before those that were reached. -/
def run (fits : Char → Bool) (groups : List Group) : Place → List End → List End
  | ⟨_, _, []⟩, reached => reached
  | ⟨index, _, c :: rest⟩, reached =>
    if fits c then
      let place : Place := ⟨index + 1, some c, rest⟩
      run fits groups place (⟨place, groups⟩ :: reached)
    else reached
termination_by place => place.rest.length

/-- The ends that an expression reaches. -/
def ends (manner : Manner) : Regex → End → List End
  | nothing, e => [e]
  | among inside sets, ⟨⟨index, _, rest⟩, groups⟩ =>
    match rest with
    | [] => []
    | c :: rest =>
      if fitsChar manner inside sets c then [⟨⟨index + 1, some c, rest⟩, groups⟩] else []
  | lineStart, e =>
    if e.place.index = 0 ∨ manner.hasLines ∧ e.place.before = some '\n' then [e] else []
  | lineEnd, e =>
    if e.place.rest.isEmpty ∨ manner.hasLines ∧ e.place.rest.head? = some '\n' then [e] else []
  | textStart, e => if e.place.index = 0 then [e] else []
  | textEnd, e => if e.place.rest.isEmpty then [e] else []
  | wordStart, e => if e.place.wordsAround = (false, true) then [e] else []
  | wordEnd, e => if e.place.wordsAround = (true, false) then [e] else []
  | wordEdge inside, e =>
    let (before, after) := e.place.wordsAround
    if (before ≠ after) = inside then [e] else []
  | group number body, e =>
    (ends manner body e).map fun reached ↦
      let text := e.place.rest.take (reached.place.index - e.place.index)
      ⟨reached.place, ⟨number, e.place.index, text⟩ :: reached.groups⟩
  | again number, e =>
    match e.groups.find? (·.number = number) with
    | none => []
    | some known =>
      let same (c d : Char) : Bool := if manner.foldsCase then c.toLower = d.toLower else c = d
      let found := e.place.rest.take known.text.length
      if found.length = known.text.length ∧ (found.zip known.text).all fun (c, d) ↦ same c d then
        [⟨e.place.forward found.length, e.groups⟩]
      else []
  | both first second, e => fromAll (ends manner second) (ends manner first e)
  | either first second, e => join (ends manner first e) (ends manner second e)
  | times (among inside sets) least most, e =>
    let isCounted (reached : End) : Bool :=
      let count := reached.place.index - e.place.index
      least ≤ count && most.all (count ≤ ·)
    (run (fitsChar manner inside sets) e.groups e.place [e]).filter isCounted
  | times body least most, e =>
    let next := ends manner body
    let reached := steps next least [e]
    match most with
    | some most => fromAll (atMost next (most - least)) reached
    | none =>
      let depth := e.place.rest.length + 1
      (reached.foldl (explore next depth) {}).ends.reverse

/-- The longest of some ends; of several, the first one. -/
def longest? (ends : List End) : Option End :=
  ends.foldl (fun best? e ↦
    match best? with
    | none => some e
    | some best => if best.place.index < e.place.index then some e else some best) none

/-- The longest text that an expression fits from a place on. -/
def fitAt? (manner : Manner) (regex : Regex) (place : Place) : Option End :=
  longest? (regex.ends manner ⟨place, []⟩)

/-- Where an expression fits. -/
structure Fit where
  /-- Where the fit starts. -/
  start : Place
  /-- Where it ends. -/
  finish : Place
  /-- The groups. -/
  groups : List Group
  deriving Repr, Inhabited

/-- The text that an expression fits. -/
def Fit.text (fit : Fit) : Text := fit.start.rest.take (fit.finish.index - fit.start.index)

/-- The text of a group; that of the whole fit has the number 0. -/
def Fit.group (fit : Fit) (number : Nat) : Text :=
  if number = 0 then fit.text
  else ((fit.groups.find? (·.number = number)).map (·.text)).getD []

/-- The first fit from some places on. -/
def searchFrom (manner : Manner) (regex : Regex) : Text → Nat → Option Char → Option Fit
  | rest, index, before =>
    match fitAt? manner regex ⟨index, before, rest⟩ with
    | some e => some ⟨⟨index, before, rest⟩, e.place, e.groups⟩
    | none =>
      match rest with
      | [] => none
      | c :: rest => searchFrom manner regex rest (index + 1) (some c)

/-- The first fit at a place or behind it. -/
def search (manner : Manner) (regex : Regex) (place : Place) : Option Fit :=
  searchFrom manner regex place.rest place.index place.before

/-- The first fit in a text. -/
def find? (manner : Manner) (regex : Regex) (text : Text) : Option Fit :=
  search manner regex ⟨0, none, text⟩

end Regex

end AlignmentTally
