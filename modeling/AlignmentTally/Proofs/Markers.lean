import AlignmentTally.Marker
import AlignmentTally.Proofs.Lines
import AlignmentTally.Proofs.Search

/-!
# Markers on lines

Both markers are read segment by segment, and the first segment that has one decides
(`inSegments`). What follows from this alone holds for each of them whatever it looks for in a
segment.

## Lines and segments

* A line reports what the first of its own lines between line feeds reports
  (`inSegments_eq_findSome?_lines`).
* A `\r` at the end of a line goes unnoticed as soon as it goes unnoticed in a segment
  (`returnBlind_inSegments`). In a segment it does, because both markers end their search at a
  character that is not `\r` (`returnBlind_testNameIn?`, `returnBlind_rejectedDescriptorIn?`).
* A name is a part of a segment, so it has no line feed (`feed_notMem_of_testName?`). The plain
  report of tests can be read back because of this.

A pass looks at a line through both markers at once (`marks`), and this is all that it looks at.

## Markers put together from their parts

The last part is about single segments. It says where a marker that is put together from its parts
is read back: the name between the bracket and the slash (`testNameIn?_assembled`), the descriptor
between its outer braces (`rejectedDescriptorIn?_assembled`). The conditions on the parts are about
words that would be found later than the right ones.
-/

namespace AlignmentTally.Marker

open Text LineEnding

/-! ### The first segment decides -/

/-- What the first segment of a line from which something can be read holds. -/
def inSegments (readSegment : List Char → Option (List Char)) (line : String) : Option String :=
  ((splitLf line.toList).findSome? readSegment).map String.ofList

section Segments

variable {readSegment : List Char → Option (List Char)}

/-- A line without line feeds is its own only segment. -/
theorem inSegments_of_notMem {line : String} (h : '\n' ∉ line.toList) :
    inSegments readSegment line = (readSegment line.toList).map String.ofList := by
  rw [inSegments, splitLf_of_notMem h]
  simp

/-- **A line reports what the first of its segments to report anything reports**, each segment
taken as a line of its own. -/
theorem inSegments_eq_findSome?_lines (line : String) :
    inSegments readSegment line = (lf.lines line).findSome? (inSegments readSegment) := by
  have hsegment : ∀ segment ∈ splitLf line.toList,
      inSegments readSegment (String.ofList segment) =
        (readSegment segment).map String.ofList := by
    intro segment hs
    have hfeed : '\n' ∉ (String.ofList segment).toList := by
      rw [String.toList_ofList]
      exact notMem_of_mem_splitLf hs
    rw [inSegments_of_notMem hfeed, String.toList_ofList]
  rw [lines, split, List.findSome?_map, inSegments]
  generalize splitLf line.toList = segments at hsegment
  induction segments with
  | nil => rfl
  | cons segment rest ih =>
    have hrest := ih fun s hs ↦ hsegment s (List.mem_cons_of_mem _ hs)
    rw [List.findSome?_cons, List.findSome?_cons, Function.comp_apply,
      hsegment segment List.mem_cons_self]
    cases readSegment segment with
    | none => exact hrest
    | some found => rfl

/-- A line reads the same with a `\r` at its end if each segment does. -/
theorem returnBlind_inSegments (h : ReturnBlind readSegment) :
    ReturnBlind fun piece ↦ inSegments readSegment (String.ofList piece) := by
  intro piece
  have hmap := congrArg (List.findSome? id) (h.map_splitLf_append_return piece)
  simp only [List.findSome?_map, Function.id_comp] at hmap
  simp only [inSegments, String.toList_ofList, hmap]

end Segments

/-! ### A `\r` at the end of a line -/

/-- The name of a test ends at a slash, so a `\r` after it is of no account. -/
theorem returnBlind_testNameIn? : ReturnBlind testNameIn? := by
  intro segment
  simp only [testNameIn?]
  rw [afterFirst?_concat (by decide)]
  cases afterFirst? "RUN".toList segment with
  | none => rfl
  | some started =>
    simp only [Option.map_some, Option.bind_eq_bind, Option.bind_some]
    rw [beforeLast?_concat (by decide)]

/-- A descriptor ends at a brace, so a `\r` after it is of no account. -/
theorem returnBlind_rejectedDescriptorIn? : ReturnBlind rejectedDescriptorIn? := by
  intro segment
  simp only [rejectedDescriptorIn?]
  rw [afterFirst?_concat (by decide)]
  cases afterFirst? "Resource alignment".toList segment with
  | none => rfl
  | some rejected =>
    simp only [Option.map_some, Option.bind_eq_bind, Option.bind_some]
    rw [beforeLast?_concat (by decide)]

/-- What a line says of a test and of a rejection. -/
def marks (line : String) : Option String × Option String :=
  (testName? line, rejectedDescriptor? line)

theorem marks_eq_inSegments (line : String) :
    marks line = (inSegments testNameIn? line, inSegments rejectedDescriptorIn? line) := rfl

/-- A line without line feeds says what its only segment says. -/
theorem marks_of_notMem {line : String} (h : '\n' ∉ line.toList) :
    marks line = ((testNameIn? line.toList).map String.ofList,
      (rejectedDescriptorIn? line.toList).map String.ofList) := by
  rw [marks_eq_inSegments, inSegments_of_notMem h, inSegments_of_notMem h]

/-- **Neither marker sees a `\r` at the end of a line.** -/
theorem returnBlind_marks : ReturnBlind fun piece ↦ marks (String.ofList piece) := by
  intro piece
  have hname := returnBlind_inSegments returnBlind_testNameIn? piece
  have hdescriptor := returnBlind_inSegments returnBlind_rejectedDescriptorIn? piece
  exact Prod.ext hname hdescriptor

/-! ### Names -/

/-- A name stands in the segment that announces it. -/
theorem infix_of_testNameIn? {segment name : List Char} (h : testNameIn? segment = some name) :
    name <:+: segment := by
  simp only [testNameIn?, Option.bind_eq_bind, Option.bind_eq_some_iff] at h
  obtain ⟨started, hstarted, named, hnamed, hname⟩ := h
  obtain ⟨before, rfl⟩ := eq_append_of_afterFirst? hstarted
  obtain ⟨suffix, rfl, -⟩ := eq_append_of_beforeLast? hnamed
  obtain ⟨between, rfl⟩ := eq_append_of_afterLast? hname
  exact ⟨before ++ "RUN".toList ++ (between ++ "] ".toList), '/' :: suffix, by simp⟩

/-- A name has no line feed, because no segment has one. -/
theorem feed_notMem_of_testName? {line name : String} (h : testName? line = some name) :
    '\n' ∉ name.toList := by
  obtain ⟨chars, hchars, rfl⟩ := Option.map_eq_some_iff.1 h
  obtain ⟨segment, hsegment, hname⟩ := List.exists_of_findSome?_eq_some hchars
  rw [String.toList_ofList]
  exact fun hc ↦ notMem_of_mem_splitLf hsegment ((infix_of_testNameIn? hname).subset hc)

/-! ### Markers put together from their parts -/

/-- A segment without the word `RUN` announces no test. -/
theorem testNameIn?_eq_none {segment : List Char} (h : ¬ "RUN".toList <:+: segment) :
    testNameIn? segment = none := by
  rw [testNameIn?, afterFirst?_eq_none_iff.2 h]
  rfl

/-- A segment without the words `Resource alignment` reports no rejection. -/
theorem rejectedDescriptorIn?_eq_none {segment : List Char}
    (h : ¬ "Resource alignment".toList <:+: segment) : rejectedDescriptorIn? segment = none := by
  rw [rejectedDescriptorIn?, afterFirst?_eq_none_iff.2 h]
  rfl

/-- The name is read back whatever stands before `RUN` and before the bracket. Slashes in the name
do no harm, since the last slash of the segment is the one that ends it. -/
theorem testNameIn?_assembled (before between : List Char) {name suffix : List Char}
    (hname : ¬ "] ".toList <:+: name) (hsuffix : '/' ∉ suffix) :
    testNameIn? (before ++ "RUN".toList ++ (between ++ "] ".toList ++ name ++ '/' :: suffix)) =
      some name := by
  -- an earlier `RUN` only leaves more text in front of the bracket
  obtain ⟨gap, hrun⟩ := exists_afterFirst?_append before "RUN".toList
    (between ++ "] ".toList ++ name ++ '/' :: suffix)
  have hslash : beforeLast? '/' (gap ++ (between ++ "] ".toList ++ name ++ '/' :: suffix)) =
      some (gap ++ between ++ "] ".toList ++ name) := by
    simpa using beforeLast?_append_cons (gap ++ between ++ "] ".toList ++ name) hsuffix
  have hbracket : afterLast? "] ".toList (gap ++ between ++ "] ".toList ++ name) = some name :=
    afterLast?_append_word ']' [] ' ' (by decide) (gap ++ between) hname
  rw [testNameIn?, hrun]
  simp only [Option.bind_eq_bind, Option.bind_some]
  rw [hslash, Option.bind_some, hbracket]

/-- The descriptor is read back whatever stands before it. Braces in it do no harm, since the last
closing brace of the segment is the one that ends it, and neither do earlier occurrences of the
words before it. -/
theorem rejectedDescriptorIn?_assembled (before between : List Char) {inside after : List Char}
    (hinside : ¬ "resource : \x7b".toList <:+: inside) (hafter : '}' ∉ after) :
    rejectedDescriptorIn? (before ++ "Resource alignment".toList ++
      (between ++ "resource : \x7b".toList ++ inside ++ '}' :: after)) =
        some ('{' :: inside ++ ['}']) := by
  -- earlier words of a rejection only leave more text in front of the descriptor
  obtain ⟨gap, hwords⟩ := exists_afterFirst?_append before "Resource alignment".toList
    (between ++ "resource : \x7b".toList ++ inside ++ '}' :: after)
  have hclose : beforeLast? '}'
      (gap ++ (between ++ "resource : \x7b".toList ++ inside ++ '}' :: after)) =
        some (gap ++ between ++ "resource : \x7b".toList ++ inside) := by
    simpa using
      beforeLast?_append_cons (gap ++ between ++ "resource : \x7b".toList ++ inside) hafter
  have hopen : afterLast? "resource : \x7b".toList
      (gap ++ between ++ "resource : \x7b".toList ++ inside) = some inside :=
    afterLast?_append_word 'r' "esource : ".toList '{' (by decide) (gap ++ between) hinside
  rw [rejectedDescriptorIn?, hwords]
  simp only [Option.bind_eq_bind, Option.bind_some]
  rw [hclose, Option.bind_some, hopen]
  rfl

end AlignmentTally.Marker
