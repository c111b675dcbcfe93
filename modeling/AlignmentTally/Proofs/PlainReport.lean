import AlignmentTally.Proofs.Conservation
import AlignmentTally.Report.Text

/-!
# The plain report and the document

The plain report says what the document says of the tests and the formats, in fewer words.
`Report.Document.plain` writes a document in these words; it looks only at what is in the document.
The plain report of some rejections is the document on them so written, and where the one cannot be
made, neither can the other, for the same reason (`Report.text_eq_map_plain`).

## Two ways of making a report

The two are made in different ways. The plain report stops early when there is no descriptor and
then reads none; the document always reads the descriptors and leaves its sections empty. That they
agree rests on two things.

* **Rejections, distinct descriptors and tests are absent together**
  (`Tallies.totalRejections_pos_iff`). This holds of the tallies of a list of rejections and not of
  any two maps, which is why the statement is about such tallies.
* **Without descriptors there is nothing to fail on** (`Tallies.formatCounts_of_isEmpty`), so the
  document can be made as well, and its plain form is the short one
  (`Report.Document.plain_of_not_pos`).

Where there are rejections, both go through the same formats, and the listings are equal entry by
entry (`Report.pairs_entriesOf`). Metadata are in the document only and have no influence on what
the two agree on.
-/

namespace AlignmentTally

namespace Tallies

/-- There are rejections exactly when some descriptor was rejected. -/
theorem totalRejections_pos_iff (rejections : List Rejection) :
    0 < (ofRejections rejections).totalRejections ↔ (ofRejections rejections).isEmpty = false := by
  rw [totalRejections_ofRejections, isEmpty, byResource_ofRejections, Counts.isEmpty_tally]
  cases rejections <;> simp

/-- There is nothing exactly when there is no distinct descriptor. -/
theorem isEmpty_eq_decide (tallies : Tallies) :
    tallies.isEmpty = decide (tallies.uniqueResources = 0) := by
  rw [isEmpty, uniqueResources, Counts.isEmpty, Counts.size]
  cases tallies.byResource.entries <;> rfl

end Tallies

namespace Report

/-- A document in the words of the plain report. The sections on tests and formats are there if
there are rejections. -/
def Document.plain (report : Document) : String :=
  s!"Unique resources alignment rejected: {report.uniqueResources}\n\n" ++
    if 0 < report.totalRejections then
      "Occurrences by test:\n" ++
        String.join (report.byTest.map fun entry ↦ s!"{entry.name} ({entry.count}).\n") ++ "\n" ++
      "Total occurrences (by format):\n" ++
        String.join (report.byFormat.map fun entry ↦
          s!"Format ID:{entry.name} ({entry.count}).\n") ++ "\n"
    else ""

theorem Document.plain_of_not_pos {report : Document} (h : ¬ 0 < report.totalRejections) :
    report.plain = uniqueSection report.uniqueResources := by
  unfold plain uniqueSection
  rw [if_neg h, String.append_empty]

theorem Document.plain_of_pos {report : Document} (h : 0 < report.totalRejections) :
    report.plain = uniqueSection report.uniqueResources ++
      testSection (report.byTest.map fun entry ↦ (entry.name, entry.count)) ++
      formatSection (report.byFormat.map fun entry ↦ (entry.name, entry.count)) := by
  unfold plain uniqueSection testSection formatSection
  rw [if_pos h, List.map_map, List.map_map]
  simp only [String.append_assoc, Function.comp_def, countLine]
  rfl

theorem pairs_entriesOf {κ : Type} (name : κ → String) (counts : Counts κ) :
    ((entriesOf name counts).map fun entry ↦ (entry.name, entry.count)) =
      counts.ranked.map fun entry ↦ (name entry.1, entry.2) := by
  rw [entriesOf, List.map_map]
  rfl

/-- Entries under their own names are read back as they were. -/
theorem pairs_entriesOf_id (counts : Counts String) :
    ((entriesOf id counts).map fun entry ↦ (entry.name, entry.count)) = counts.ranked :=
  (pairs_entriesOf id counts).trans (List.map_id _)

/-- Without rejections the plain report is its first section. -/
theorem text_of_isEmpty {tallies : Tallies} (h : tallies.isEmpty) :
    text tallies = .ok (uniqueSection tallies.uniqueResources) := by
  rw [text, if_pos h]
  rfl

/-- With rejections the plain report needs the formats and writes all its sections. -/
theorem text_of_not_isEmpty {tallies : Tallies} (h : tallies.isEmpty = false) :
    text tallies = tallies.formatCounts.map fun formats ↦
      uniqueSection tallies.uniqueResources ++ testSection tallies.byTest.ranked ++
        formatSection (formats.ranked.map fun entry ↦ (entry.1.label, entry.2)) := by
  rw [text, if_neg (by simp [h])]
  cases tallies.formatCounts <;> rfl

/-- The plain report looks only at the number of distinct descriptors, the tests and the formats. -/
theorem text_congr {tallies other : Tallies}
    (hunique : tallies.uniqueResources = other.uniqueResources)
    (htests : tallies.byTest = other.byTest)
    (hformats : tallies.formatCounts = other.formatCounts) : text tallies = text other := by
  rw [text, text, Tallies.isEmpty_eq_decide, Tallies.isEmpty_eq_decide, hunique, htests, hformats]

/-- **The plain report of some rejections is the document on them, written plainly.** -/
theorem text_eq_map_plain (rejections : List Rejection) (metadata : Metadata) :
    text (.ofRejections rejections) =
      (document (.ofRejections rejections) metadata).map Document.plain := by
  have hpos := Tallies.totalRejections_pos_iff rejections
  generalize Tallies.ofRejections rejections = tallies at hpos ⊢
  rw [document_eq_map]
  cases hempty : tallies.isEmpty with
  | true =>
    have hnone : ¬ 0 < (documentOf tallies metadata .empty).totalRejections := by
      intro h
      simp [hpos.1 h] at hempty
    rw [text_of_isEmpty hempty, Tallies.formatCounts_of_isEmpty hempty, Except.map, Except.map,
      Document.plain_of_not_pos hnone]
    rfl
  | false =>
    rw [text_of_not_isEmpty hempty]
    cases tallies.formatCounts with
    | error error => rfl
    | ok formats =>
      have hsome : 0 < (documentOf tallies metadata formats).totalRejections := hpos.2 hempty
      rw [Except.map, Except.map, Except.map, Document.plain_of_pos hsome, documentOf,
        pairs_entriesOf_id, pairs_entriesOf]

/-- **The plain report and the document agree.** Each fails exactly when the other does, with the
same error, and otherwise the plain report is the document in plain words. -/
theorem text_agrees_document (rejections : List Rejection) (metadata : Metadata) :
    (∀ error, text (.ofRejections rejections) = .error error ↔
        document (.ofRejections rejections) metadata = .error error) ∧
      text (.ofRejections rejections) =
        (document (.ofRejections rejections) metadata).map Document.plain := by
  have htext := text_eq_map_plain rejections metadata
  refine ⟨fun error ↦ ?_, htext⟩
  rw [htext]
  cases document (.ofRejections rejections) metadata with
  | error cause =>
    rw [Except.map, Except.error.injEq, Except.error.injEq]
  | ok report =>
    constructor
    · intro h
      cases h
    · intro h
      cases h

end Report

end AlignmentTally
