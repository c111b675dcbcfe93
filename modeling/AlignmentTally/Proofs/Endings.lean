import AlignmentTally.Proofs.Attribution
import AlignmentTally.Proofs.Markers
import AlignmentTally.Report.Text
import Mathlib.Data.List.Perm.Subperm

/-!
# Tallies under different line endings

A pass sees of a line only what its markers say, and no marker sees a `\r` at the end of a line.
So cutting at line feeds gives the same tallies whether or not the `\r` before each is dropped, and
the same as cutting at `\r\n` when each line feed follows a `\r`: the lines have the same marks
(`map_marks_lines_any`, `map_marks_lines_crlf`).

## Several segments in a piece

On other texts a `\r\n` piece may hold several segments between line feeds. It reports what the
first of its rejecting segments reports, and the others go unseen. `pieceReports` lists for each
piece what its segments report on their own: the log cut at line feeds reports all of it, and the
log cut at `\r\n` the first item of each list (`filterMap_lf_lines`, `filterMap_crlf_lines`). From
that the comparison of the two follows by counting.

## What each theorem rests on

* `Tallies.ofText_same` rests on the marks of the lines being **equal lists**, so it yields equal
  tallies, with the order of their keys.
* `Tallies.ofText_crlf_le_lf` rests on the heads of some lists being a **sublist** of all their
  items (`sublist_flatten_of_heads`). It compares resources only. In a piece the name may come from
  a later segment than the rejection, so a rejection may count for another test than under `lf`,
  and the counts of tests cannot be compared one by one.
-/

namespace AlignmentTally

open LineEnding

/-! ### Lines with the same marks -/

/-- What the markers say of the lines, for a reading of the pieces as they are cut. -/
theorem map_marks_lines (ending : LineEnding) (text : String) :
    (ending.lines text).map Marker.marks =
      (ending.split text.toList).map fun piece ↦ Marker.marks (String.ofList piece) := by
  rw [lines, List.map_map]
  rfl

/-- A pass sees of the lines only what the markers say. -/
theorem Scan.rejections_congr {lines others : List String}
    (h : lines.map Marker.marks = others.map Marker.marks) (test : String) :
    rejections test lines = rejections test others := by
  induction lines generalizing others test with
  | nil =>
    cases others with
    | nil => rfl
    | cons other others => simp at h
  | cons line rest ih =>
    cases others with
    | nil => simp at h
    | cons other others =>
      rw [List.map_cons, List.map_cons, List.cons.injEq] at h
      obtain ⟨hmarks, hrest⟩ := h
      have hname : Marker.testName? line = Marker.testName? other := congrArg Prod.fst hmarks
      have hdescriptor : Marker.rejectedDescriptor? line = Marker.rejectedDescriptor? other :=
        congrArg Prod.snd hmarks
      rw [rejections, rejections, rejection?, rejection?, hname, hdescriptor, ih hrest]

/-- The tallies of a log are those of a pass over any lines with the same marks. -/
theorem Tallies.ofText_eq_run {ending : LineEnding} {text : String} {lines : List String}
    (h : (ending.lines text).map Marker.marks = lines.map Marker.marks) :
    ofText ending text = (Scan.run {} lines).tallies := by
  rw [ofText_eq_ofRejections, Scan.tallies_run, Scan.rejections_congr h]
  rfl

theorem map_marks_lines_any (text : String) :
    (any.lines text).map Marker.marks = (lf.lines text).map Marker.marks := by
  rw [map_marks_lines, map_marks_lines, split, split, List.map_map]
  refine List.map_congr_left fun piece _ ↦ ?_
  exact Marker.returnBlind_marks.read_dropFinalReturn piece

theorem map_marks_lines_crlf {text : String} (h : FeedsFollowReturns text.toList) :
    (crlf.lines text).map Marker.marks = (lf.lines text).map Marker.marks := by
  rw [map_marks_lines, map_marks_lines]
  exact Marker.returnBlind_marks.map_splitCrlf_eq_map_splitLf h

/-- **The line ending does not matter where it should not.** Dropping the `\r` before each line
feed never makes a difference, and neither does cutting at `\r\n` if each line feed follows a `\r`:
the tallies are the same, in the same order, and so are the number of lines and the plain
report. -/
theorem Tallies.ofText_same (text : String) :
    (ofText .lf text = ofText .any text ∧
        (lf.lines text).length = (any.lines text).length ∧
        Report.text (ofText .lf text) = Report.text (ofText .any text)) ∧
      (FeedsFollowReturns text.toList →
        ofText .crlf text = ofText .lf text ∧ ofText .crlf text = ofText .any text ∧
        (crlf.lines text).length = (lf.lines text).length ∧
        (crlf.lines text).length = (any.lines text).length ∧
        Report.text (ofText .crlf text) = Report.text (ofText .lf text) ∧
        Report.text (ofText .crlf text) = Report.text (ofText .any text)) := by
  have hany := map_marks_lines_any text
  have hsame : ofText .lf text = ofText .any text := ofText_eq_run hany.symm
  have hlength : (lf.lines text).length = (any.lines text).length := by
    simpa using congrArg List.length hany.symm
  refine ⟨⟨hsame, hlength, by rw [hsame]⟩, fun h ↦ ?_⟩
  have hcrlf := map_marks_lines_crlf h
  have hcrlfSame : ofText .crlf text = ofText .lf text := ofText_eq_run hcrlf
  have hcrlfLength : (crlf.lines text).length = (lf.lines text).length := by
    simpa using congrArg List.length hcrlf
  refine ⟨hcrlfSame, hcrlfSame.trans hsame, hcrlfLength, hcrlfLength.trans hlength, ?_, ?_⟩
  · rw [hcrlfSame]
  · rw [hcrlfSame, hsame]

/-- A log with a `\r` too many before one line feed and a `\r` at its end. -/
theorem Tallies.ofText_same_extra_returns :
    let text := "[ RUN      ] a/x\r\r\nResource alignment, resource : \x7b\x7d\r\n\r"
    FeedsFollowReturns text.toList ∧ ofText .crlf text = ofText .any text ∧
      (crlf.lines text).length = 3 ∧ (any.lines text).length = 3 := by
  intro text
  have hfeeds : FeedsFollowReturns text.toList := by decide
  obtain ⟨-, hsame, -, hlength, -⟩ := (ofText_same text).2 hfeeds
  have hcrlf : (crlf.lines text).length = 3 := by decide
  exact ⟨hfeeds, hsame, hcrlf, hlength ▸ hcrlf⟩

/-! ### Several segments in a piece -/

section Heads

variable {α : Type*}

/-- The first items of some lists are among all their items, in the same order. -/
theorem sublist_flatten_of_heads (parts : List (List α)) :
    (parts.filterMap List.head?).Sublist parts.flatten := by
  induction parts with
  | nil => exact List.Sublist.refl []
  | cons part rest ih =>
    cases part with
    | nil => exact ih
    | cons first others =>
      exact (ih.trans (List.sublist_append_right others rest.flatten)).cons_cons first

/-- There are no first items exactly when there are no items. -/
theorem heads_eq_nil_iff (parts : List (List α)) :
    parts.filterMap List.head? = [] ↔ parts.flatten = [] := by
  rw [List.filterMap_eq_nil_iff, List.flatten_eq_nil_iff]
  simp only [List.head?_eq_none_iff]

/-- The first items are as many as all items exactly when no list has two. -/
theorem length_heads_eq_iff (parts : List (List α)) :
    (parts.filterMap List.head?).length = parts.flatten.length ↔
      ∀ part ∈ parts, part.length < 2 := by
  induction parts with
  | nil => simp
  | cons part rest ih =>
    have hle := (sublist_flatten_of_heads rest).length_le
    rw [List.forall_mem_cons, ← ih]
    cases part with
    | nil =>
      rw [List.filterMap_cons_none List.head?_nil, List.flatten_cons, List.nil_append]
      simp only [List.length_nil, Nat.zero_lt_succ, true_and]
    | cons first others =>
      rw [List.filterMap_cons_some (List.head?_cons ..), List.flatten_cons]
      simp only [List.length_cons, List.length_append]
      omega

end Heads

/-- What the segments of each `\r\n` piece report on their own. -/
def pieceReports (text : String) : List (List String) :=
  (crlf.lines text).map fun piece ↦ (lf.lines piece).filterMap Marker.rejectedDescriptor?

/-- The log cut at line feeds reports all that the segments report. -/
theorem filterMap_lf_lines (text : String) :
    (lf.lines text).filterMap Marker.rejectedDescriptor? = (pieceReports text).flatten := by
  have hblind : ReturnBlind fun piece ↦ Marker.rejectedDescriptor? (String.ofList piece) :=
    Marker.returnBlind_inSegments Marker.returnBlind_rejectedDescriptorIn?
  have hsegments := congrArg (List.filterMap id) (hblind.map_splitLf_eq_flatMap text.toList)
  rw [List.filterMap_map, List.filterMap_map] at hsegments
  rw [lines, split, List.filterMap_map]
  refine hsegments.trans ?_
  rw [pieceReports, lines, split, List.map_map, ← List.flatMap_def, List.filterMap_flatMap]
  refine List.flatMap_congr fun piece _ ↦ ?_
  rw [Function.comp_apply, lines, split, String.toList_ofList, List.filterMap_map]
  rfl

/-- The log cut at `\r\n` reports the first item that the segments of each piece report. -/
theorem filterMap_crlf_lines (text : String) :
    (crlf.lines text).filterMap Marker.rejectedDescriptor? =
      (pieceReports text).filterMap List.head? := by
  rw [pieceReports, List.filterMap_map]
  refine List.filterMap_congr fun line _ ↦ ?_
  rw [Function.comp_apply, List.head?_filterMap]
  exact Marker.inSegments_eq_findSome?_lines line

/-- **Cutting at `\r\n` never counts a rejection too many, and never misses that there is one.**
It counts as many as cutting at line feeds exactly when no `\r\n` piece holds two segments that are
rejections on their own. -/
theorem Tallies.ofText_crlf_le_lf (text : String) :
    (∀ descriptor, (ofText .crlf text).byResource.count descriptor ≤
        (ofText .lf text).byResource.count descriptor) ∧
      (ofText .crlf text).uniqueResources ≤ (ofText .lf text).uniqueResources ∧
      (ofText .crlf text).totalRejections ≤ (ofText .lf text).totalRejections ∧
      (ofText .crlf text).isEmpty = (ofText .lf text).isEmpty ∧
      ((ofText .crlf text).totalRejections = (ofText .lf text).totalRejections ↔
        ∀ piece ∈ crlf.lines text,
          (lf.lines piece).countP (fun segment ↦ (Marker.rejectedDescriptor? segment).isSome) <
            2) := by
  have hcrlf : (ofText .crlf text).byResource =
      .tally ((pieceReports text).filterMap List.head?) := by
    rw [byResource_ofText, filterMap_crlf_lines]
  have hlf : (ofText .lf text).byResource = .tally (pieceReports text).flatten := by
    rw [byResource_ofText, filterMap_lf_lines]
  have hsub := sublist_flatten_of_heads (pieceReports text)
  simp only [uniqueResources, totalRejections, isEmpty, hcrlf, hlf]
  refine ⟨fun descriptor ↦ ?_, ?_, ?_, ?_, ?_⟩
  · rw [Counts.count_tally, Counts.count_tally]
    exact hsub.count_le descriptor
  · rw [Counts.size_eq_length_keys, Counts.size_eq_length_keys]
    refine (List.subperm_of_subset (Counts.nodup_keys _) fun key hk ↦ ?_).length_le
    exact Counts.mem_keys_tally.2 (hsub.subset (Counts.mem_keys_tally.1 hk))
  · rw [Counts.total_tally, Counts.total_tally]
    exact hsub.length_le
  · rw [Bool.eq_iff_iff, Counts.isEmpty_tally, Counts.isEmpty_tally, List.isEmpty_iff,
      List.isEmpty_iff]
    exact heads_eq_nil_iff _
  · rw [Counts.total_tally, Counts.total_tally, length_heads_eq_iff, pieceReports,
      List.forall_mem_map]
    refine forall₂_congr fun piece _ ↦ ?_
    rw [List.length_filterMap_eq_countP]

end AlignmentTally
