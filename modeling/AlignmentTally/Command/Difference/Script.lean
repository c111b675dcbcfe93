import AlignmentTally.Machine.Text

/-!
# Edit scripts

What has to be taken out of one sequence and put into another place so that the first becomes the
second: the fewest elements. They are found from both ends at once: on each diagonal, where the two
places are some number apart, it is noted how far one comes with some number of changes, until the
two searches meet; what lies before that place and what lies after it are then two smaller tasks.

Elements that stand in only one of the sequences, and some in the midst of such, are left out of the
search. Afterwards each run of changes is moved as far to the end as it can be, so that runs grow
together, and then back to a run of the other sequence.
-/

namespace AlignmentTally.Command.Difference

open Machine

/-- A run of changes: from places in two sequences on, elements of the first are taken out and
elements of the second are put in. -/
structure Change where
  /-- The place in the first sequence. -/
  first : Nat
  /-- The place in the second sequence. -/
  second : Nat
  /-- The number of elements that are taken out. -/
  deleted : Nat
  /-- The number of elements that are put in. -/
  inserted : Nat
  /-- Whether the change does not count. -/
  isMinor : Bool := false
  deriving Inhabited

/-- Two sequences of elements of which only equality matters. -/
structure Pair where
  /-- The first sequence. -/
  first : Array Nat
  /-- The second sequence. -/
  second : Array Nat

/-- A part of each of two sequences, from a place up to another one. -/
structure Area where
  /-- The start in the first sequence. -/
  left : Int
  /-- The end in the first sequence. -/
  right : Int
  /-- The start in the second sequence. -/
  top : Int
  /-- The end in the second sequence. -/
  bottom : Int

namespace Pair

/-- Whether the elements at two places are equal. -/
def agrees (pair : Pair) (x y : Int) : Bool :=
  pair.first[x.toNat]? = pair.second[y.toNat]?

/-- The area of the whole sequences. -/
def area (pair : Pair) : Area := ⟨0, pair.first.size, 0, pair.second.size⟩

/-- How far one comes from a place without changes, in at most some steps. -/
def slideOn (pair : Pair) (area : Area) : Nat → Int → Int → Int
  | 0, x, _ => x
  | steps + 1, x, y =>
    if x < area.right ∧ y < area.bottom ∧ pair.agrees x y then
      slideOn pair area steps (x + 1) (y + 1)
    else x

/-- How far one comes back from a place without changes, in at most some steps. -/
def slideBack (pair : Pair) (area : Area) : Nat → Int → Int → Int
  | 0, x, _ => x
  | steps + 1, x, y =>
    if area.left < x ∧ area.top < y ∧ pair.agrees (x - 1) (y - 1) then
      slideBack pair area steps (x - 1) (y - 1)
    else x

/-- The number of steps that no way through the sequences exceeds. -/
def bound (pair : Pair) : Nat := pair.first.size + pair.second.size + 3

end Pair

/-! ### The search for a place in the middle -/

/-- How far a search has come on each diagonal. -/
structure Front where
  /-- The places in the first sequence. -/
  places : Array Int
  /-- The place at which the diagonal 0 is kept. -/
  origin : Nat
  /-- The least diagonal that was reached. -/
  least : Int
  /-- The greatest diagonal that was reached. -/
  most : Int

namespace Front

/-- How far the search has come on a diagonal. -/
def at_ (front : Front) (diagonal : Int) : Int :=
  (front.places[(diagonal + front.origin).toNat]?).getD 0

/-- A search that has come to a place on a diagonal. -/
def reach (front : Front) (diagonal place : Int) : Front :=
  { front with places := front.places.setIfInBounds (diagonal + front.origin).toNat place }

/-- A search with one more diagonal on both sides, as far as they lie between two limits, from which
nothing is reached: `beyond` is the place that tells so. -/
def widen (front : Front) (first last beyond : Int) : Front :=
  let front :=
    if first < front.least then
      { front.reach (front.least - 2) beyond with least := front.least - 1 }
    else { front with least := front.least + 1 }
  if front.most < last then
    { front.reach (front.most + 2) beyond with most := front.most + 1 }
  else { front with most := front.most - 1 }

end Front

/-- Two searches that go towards each other. -/
structure Searches where
  /-- The search from the start. -/
  onward : Front
  /-- The search from the end. -/
  backward : Front

/-- Goes one change on from the start on each diagonal, from the greatest one down. The result is the
place where the search from the end is met, if that may be and is so. -/
def sweepOn (pair : Pair) (area : Area) (mayMeet : Bool) :
    Nat → Int → Searches → Searches × Option (Int × Int)
  | 0, _, searches => (searches, none)
  | rounds + 1, d, searches =>
    let front := searches.onward
    if d < front.least then (searches, none)
    else
      let low := front.at_ (d - 1)
      let high := front.at_ (d + 1)
      let start := if low < high then high else low + 1
      let x := pair.slideOn area pair.bound start (start - d)
      let searches := { searches with onward := front.reach d x }
      let other := searches.backward
      if mayMeet ∧ other.least ≤ d ∧ d ≤ other.most ∧ other.at_ d ≤ x then
        (searches, some (x, x - d))
      else sweepOn pair area mayMeet rounds (d - 2) searches

/-- Goes one change back from the end on each diagonal, from the greatest one down. The result is the
place where the search from the start is met, if that may be and is so. -/
def sweepBack (pair : Pair) (area : Area) (mayMeet : Bool) :
    Nat → Int → Searches → Searches × Option (Int × Int)
  | 0, _, searches => (searches, none)
  | rounds + 1, d, searches =>
    let front := searches.backward
    if d < front.least then (searches, none)
    else
      let low := front.at_ (d - 1)
      let high := front.at_ (d + 1)
      let start := if low < high then low else high - 1
      let x := pair.slideBack area pair.bound start (start - d)
      let searches := { searches with backward := front.reach d x }
      let other := searches.onward
      if mayMeet ∧ other.least ≤ d ∧ d ≤ other.most ∧ x ≤ other.at_ d then
        (searches, some (x, x - d))
      else sweepBack pair area mayMeet rounds (d - 2) searches

/-- The place in an area at which the two searches meet, with at most some changes. -/
def meeting (pair : Pair) (area : Area) (isOdd : Bool) : Nat → Searches → Int × Int
  | 0, _ => (area.left, area.top)
  | changes + 1, searches =>
    let first := area.left - area.bottom
    let last := area.right - area.top
    let onward := searches.onward.widen first last (-1)
    let (searches, met) :=
      sweepOn pair area isOdd pair.bound onward.most { searches with onward }
    match met with
    | some place => place
    | none =>
      let backward := searches.backward.widen first last (pair.bound * 2)
      let (searches, met) :=
        sweepBack pair area (!isOdd) pair.bound backward.most { searches with backward }
      match met with
      | some place => place
      | none => meeting pair area isOdd changes searches

/-- A place in an area through which a shortest way leads. -/
def middle (pair : Pair) (area : Area) : Int × Int :=
  let start := area.left - area.top
  let stop := area.right - area.bottom
  let places := Array.replicate (2 * pair.bound + 2) (0 : Int)
  let front (diagonal place : Int) : Front :=
    ({ places, origin := pair.bound, least := diagonal, most := diagonal } : Front).reach
      diagonal place
  meeting pair area ((start - stop) % 2 ≠ 0) pair.bound
    ⟨front start area.left, front stop area.right⟩

/-! ### What is changed -/

/-- Which elements of two sequences are changed. -/
structure Marks where
  /-- Those of the first one. -/
  first : Array Bool
  /-- Those of the second one. -/
  second : Array Bool

/-- The marks with all elements of an area marked. -/
def Marks.all (marks : Marks) (area : Area) : Marks :=
  let mark (flags : Array Bool) (start stop : Int) : Array Bool :=
    (List.range (stop - start).toNat).foldl
      (fun flags i ↦ flags.setIfInBounds (start.toNat + i) true) flags
  ⟨mark marks.first area.left area.right, mark marks.second area.top area.bottom⟩

/-- Marks the elements of an area that are changed, in at most some levels of smaller areas. -/
def markArea (pair : Pair) : Nat → Area → Marks → Marks
  | 0, _, marks => marks
  | levels + 1, area, marks =>
    let left := pair.slideOn area pair.bound area.left area.top
    let area := { area with left, top := area.top + (left - area.left) }
    let right := pair.slideBack area pair.bound area.right area.bottom
    let area := { area with right, bottom := area.bottom - (area.right - right) }
    if area.left = area.right ∨ area.top = area.bottom then marks.all area
    else
      let (x, y) := middle pair area
      let marks := markArea pair levels { area with right := x, bottom := y } marks
      markArea pair levels { area with left := x, top := y } marks

/-! ### Elements that are left out of the search -/

/-- What is known of an element before the search. -/
inductive Standing where
  /-- It is searched for. -/
  | kept
  /-- It stands in only one of the sequences. -/
  | lone
  /-- It stands in the other sequence many times. -/
  | common
  deriving DecidableEq

/-- A square root, rounded to a power of two, of a number of which a quarter was taken. -/
def rootOf : Nat → Nat → Nat → Nat
  | 0, _, root => root
  | rounds + 1, n, root => if n / 4 = 0 then root else rootOf rounds (n / 4) (root * 2)

/-- How the elements of a sequence stand, by how often each stands in the other one. -/
def standings (counts : Array Nat) (elements : Array Nat) : List Standing :=
  let many := rootOf 64 (elements.size / 64) 5
  elements.toList.map fun element ↦
    match counts[element]?.getD 0 with
    | 0 => .lone
    | n => if many < n then .common else .kept

/-- Keeps the common elements near the start of a run, up to where three lone ones stand together or
a lone one stands far enough from the start. -/
def keepNear : Nat → Nat → List Standing → List Standing
  | _, _, [] => []
  | place, together, standing :: rest =>
    if 8 ≤ place ∧ standing = .lone then standing :: rest
    else
      match standing with
      | .lone =>
        if together = 2 then standing :: rest
        else standing :: keepNear (place + 1) (together + 1) rest
      | .common | .kept => .kept :: keepNear (place + 1) 0 rest

/-- Keeps the common elements that stand together in numbers not less than some. -/
def keepGroups (least : Nat) : Nat → List Standing → List Standing
  | 0, run => run
  | _, [] => []
  | rounds + 1, standing :: rest =>
    let group := (standing :: rest).takeWhile (· = .common)
    if group.isEmpty then standing :: keepGroups least rounds rest
    else
      let standing : Standing := if least ≤ group.length then .kept else .common
      List.replicate group.length standing ++
        keepGroups least rounds ((standing :: rest).drop group.length)

/-- A run of elements that may be left out, of which those are kept that stand too near its ends or
too many together. -/
def settleRun (run : List Standing) : List Standing :=
  let isCommon (standing : Standing) : Bool := standing = .common
  let front := run.takeWhile isCommon
  let back := (run.drop front.length).reverse.takeWhile isCommon
  let inside := (run.drop front.length).take (run.length - front.length - back.length)
  let common := (inside.filter isCommon).length
  let kept := inside.map fun standing ↦ if isCommon standing then .kept else standing
  let inside :=
    if inside.length < common * 4 then kept
    else
      let inside := keepGroups (rootOf 64 (inside.length / 4) 1 + 1) inside.length inside
      (keepNear 0 0 (keepNear 0 0 inside).reverse).reverse
  front.map (fun _ ↦ .kept) ++ inside ++ back.map fun _ ↦ .kept

/-- Settles which elements are left out, run by run, in at most some rounds. -/
def settle : Nat → List Standing → List Standing
  | 0, all => all
  | _, [] => []
  | rounds + 1, standing :: rest =>
    let run := (standing :: rest).takeWhile (· ≠ .kept)
    if run.isEmpty then standing :: settle rounds rest
    else settleRun run ++ settle rounds ((standing :: rest).drop run.length)

/-- How often each element stands in a sequence. -/
def countsOf (size : Nat) (elements : Array Nat) : Array Nat :=
  elements.foldl (fun counts element ↦ counts.modify element (· + 1)) (Array.replicate size 0)

/-- The places of the elements that are searched for: all, or those that are not left out. -/
def searched (leavesOut : Bool) (counts elements : Array Nat) : Array Nat :=
  let settled := settle elements.size (standings counts elements)
  ((settled.mapIdx fun i standing ↦ (i, standing)).filterMap fun (i, standing) ↦
    if ¬ leavesOut ∨ standing = .kept then some i else none).toArray

/-! ### Moving runs of changes -/

/-- A run of changes in one sequence that is moved. -/
structure Moving where
  /-- Which elements of the sequence are changed. -/
  marks : Array Bool
  /-- Where the run begins. -/
  start : Nat
  /-- Where it ends. -/
  stop : Nat
  /-- The place in the other sequence. -/
  other : Nat
  /-- Where the run ended when it last stood against one of the other sequence. -/
  matching : Option Nat := none

/-- Whether the element at a place is marked; there is none beyond the end. -/
def isMarked (marks : Array Bool) (place : Nat) : Bool := (marks[place]?).getD false

/-- The first place from some on at which no element is marked. -/
def skipOn (marks : Array Bool) : Nat → Nat → Nat
  | 0, place => place
  | steps + 1, place => if isMarked marks place then skipOn marks steps (place + 1) else place

/-- The first place from some on, back to the start, before which no element is marked. -/
def skipBack (marks : Array Bool) : Nat → Nat
  | 0 => 0
  | place + 1 => if isMarked marks place then skipBack marks place else place + 1

/-- The last place before some at which no element is marked. -/
def previous (marks : Array Bool) : Nat → Nat
  | 0 => 0
  | place + 1 => if isMarked marks place then previous marks place else place

namespace Moving

/-- A run that is moved one element back. -/
def stepBack (others : Array Bool) (run : Moving) : Moving :=
  let marks := (run.marks.setIfInBounds (run.start - 1) true).setIfInBounds (run.stop - 1) false
  { run with
    marks
    start := skipBack marks (run.start - 1)
    stop := run.stop - 1
    other := previous others run.other }

/-- A run that is moved back as long as the element before it equals its last one, in at most some
steps. -/
def toStart (elements : Array Nat) (others : Array Bool) : Nat → Moving → Moving
  | 0, run => run
  | steps + 1, run =>
    if run.start ≠ 0 ∧ elements[run.start - 1]? = elements[run.stop - 1]? then
      toStart elements others steps (run.stepBack others)
    else run

/-- A run that is moved on as long as the element after it equals its first one, in at most some
steps. -/
def toEnd (elements : Array Nat) (others : Array Bool) : Nat → Moving → Moving
  | 0, run => run
  | steps + 1, run =>
    if run.stop < elements.size ∧ elements[run.start]? = elements[run.stop]? then
      let marks := (run.marks.setIfInBounds run.start false).setIfInBounds run.stop true
      let stop := skipOn marks elements.size (run.stop + 1)
      let other := skipOn others others.size (run.other + 1)
      toEnd elements others steps
        { marks, start := run.start + 1, stop, other
          matching := if other = run.other + 1 then run.matching else some stop }
    else run

/-- A run that is moved back to where it stands against one of the other sequence, in at most some
steps. -/
def toMatching (others : Array Bool) : Nat → Moving → Moving
  | 0, run => run
  | steps + 1, run =>
    if run.matching.any (· < run.stop) then
      let marks := (run.marks.setIfInBounds (run.start - 1) true).setIfInBounds (run.stop - 1) false
      toMatching others steps
        { run with
          marks
          start := run.start - 1
          stop := run.stop - 1
          other := previous others run.other }
    else run

/-- A run that is moved to and fro until it grows no more, in at most some rounds. -/
def grow (elements : Array Nat) (others : Array Bool) : Nat → Moving → Moving
  | 0, run => run
  | rounds + 1, run =>
    let size := run.stop - run.start
    let run := run.toStart elements others elements.size
    let isMatched : Bool := run.other ≠ 0 && isMarked others (run.other - 1)
    let run := { run with matching := if isMatched then some run.stop else none }
    let run := run.toEnd elements others elements.size
    if run.stop - run.start = size then run else grow elements others rounds run

end Moving

/-- Moves all runs of changes of one sequence, from a place on, in at most some rounds. -/
def moveRuns (elements : Array Nat) (others : Array Bool) :
    Nat → Nat → Nat → Array Bool → Array Bool
  | 0, _, _, marks => marks
  | rounds + 1, place, other, marks =>
    if elements.size ≤ place then marks
    else if ¬ isMarked marks place then
      moveRuns elements others rounds (place + 1) (skipOn others others.size other + 1) marks
    else
      let stop := skipOn marks elements.size place
      let other := skipOn others others.size other
      let run : Moving := { marks, start := place, stop, other }
      let run := run.grow elements others (elements.size + 1)
      let run := run.toMatching others elements.size
      moveRuns elements others rounds run.stop run.other run.marks

/-! ### The script -/

/-- The runs of changes that marks tell of, from two places on, in at most some rounds. -/
def runsOf (marks : Marks) : Nat → Nat → Nat → List Change
  | 0, _, _ => []
  | rounds + 1, x, y =>
    let first := skipOn marks.first marks.first.size x
    let second := skipOn marks.second marks.second.size y
    let rest := runsOf marks rounds (first + 1) (second + 1)
    if first = x ∧ second = y then
      if marks.first.size ≤ x ∧ marks.second.size ≤ y then [] else rest
    else ⟨x, y, first - x, second - y, false⟩ :: rest

/-- The changes that make one sequence the other. Elements are left out of the search if that is
asked for. -/
def script (leavesOut : Bool) (pair : Pair) : List Change :=
  let size := (pair.first ++ pair.second).foldl max 0 + 1
  let counts := (countsOf size pair.first, countsOf size pair.second)
  let places := (searched leavesOut counts.2 pair.first, searched leavesOut counts.1 pair.second)
  let inner : Pair :=
    ⟨places.1.map fun i ↦ (pair.first[i]?).getD 0, places.2.map fun i ↦ (pair.second[i]?).getD 0⟩
  let none : Marks :=
    ⟨Array.replicate inner.first.size false, Array.replicate inner.second.size false⟩
  let found := markArea inner inner.bound inner.area none
  -- what was left out is changed as well
  let spread (size : Nat) (places : Array Nat) (marks : Array Bool) : Array Bool :=
    (places.zip marks).foldl (fun all (place, isChanged) ↦ all.setIfInBounds place isChanged)
      (Array.replicate size true)
  let first := spread pair.first.size places.1 found.first
  let second := spread pair.second.size places.2 found.second
  let rounds := pair.bound
  let first := moveRuns pair.first second rounds 0 0 first
  let second := moveRuns pair.second first rounds 0 0 second
  runsOf ⟨first, second⟩ rounds 0 0

end AlignmentTally.Command.Difference
