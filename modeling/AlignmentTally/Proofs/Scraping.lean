import AlignmentTally.Proofs.ReportLines

/-!
# What can be read off the plain report of a log

A plain report is read by lines, so what can be read off it depends on what names are written into
its lines. Tests and formats differ in this.

## Tests

The names of tests have no line feeds, because a marker stands in a segment between line feeds. So
from the plain report of a log the number of distinct resources and the listing of tests are read
back (`Report.reads_back_of_text`), and two logs with the same plain report agree on both, whatever
their tests are called (`Report.text_determines_tests`). This rests on the readers being functions
of the report alone. They know neither the log nor the line ending under which it was cut.

## Formats

The labels of formats are another matter. A label stands on one line unless the format is a string
with a line feed, and a descriptor may spell such a string with an escape, on one line of the log.

* The listing of formats has one line for each format exactly when there is no such string
  (`Tallies.FormatsOnOneLine`), and then its counts add up to the number of distinct resources
  (`Report.text_lists_formats`). The condition is exact because no other value has a label with a
  line feed (`Format.feed_mem_label_iff`).
* Otherwise the entry of one format may look like several, with counts that were never taken. The
  log at the end of this module has a format that reads as two entries (`Report.text_forged_entry`).
-/

namespace AlignmentTally

open LineEnding

namespace Tallies

/-- The name of a test under which a log counts rejections has no line feed. -/
theorem feed_notMem_of_mem_byTest {ending : LineEnding} {log name : String}
    (h : name ∈ (ofText ending log).byTest.keys) : '\n' ∉ name.toList := by
  rw [ofText_eq_ofRejections, byTest_ofRejections, Counts.mem_keys_tally] at h
  obtain ⟨rejection, hrejection, rfl⟩ := List.mem_map.1 h
  rcases Scan.test_of_mem_rejections hrejection with htest | ⟨_, -, hannounced⟩
  · rw [htest]
    decide
  · exact Marker.feed_notMem_of_testName? hannounced

/-- No format of a rejected resource is a string with a line feed. -/
def FormatsOnOneLine (tallies : Tallies) : Prop :=
  ∀ descriptor ∈ tallies.byResource.keys, ∀ value format, Json.read descriptor = .ok value →
    value.member? "Format" = some (.string format) → '\n' ∉ format.toList

/-- The labels are on one line each exactly when no format is a string with a line feed. -/
theorem formatsOnOneLine_iff {tallies : Tallies} {formats : Counts Format}
    (h : tallies.formatCounts = .ok formats) :
    tallies.FormatsOnOneLine ↔ ∀ format ∈ formats.keys, '\n' ∉ format.label.toList := by
  constructor
  · intro hone format hformat hfeed
    obtain ⟨descriptor, hdescriptor, hread⟩ := (mem_keys_formatCounts_iff h).1 hformat
    obtain ⟨value, member, hvalue, hmember, rfl⟩ := Format.ofDescriptor_eq_ok_iff.1 hread
    obtain ⟨s, rfl, hs⟩ := Format.feed_mem_label_iff.1 hfeed
    exact hone descriptor hdescriptor value s hvalue hmember hs
  · intro hlabels descriptor hdescriptor value s hvalue hmember hs
    have hread : Format.ofDescriptor descriptor = .ok (.ofValue (.string s)) :=
      Format.ofDescriptor_eq_ok_iff.2 ⟨value, .string s, hvalue, hmember, rfl⟩
    exact hlabels _ ((mem_keys_formatCounts_iff h).2 ⟨descriptor, hdescriptor, hread⟩)
      (Format.feed_mem_label_iff.2 ⟨s, rfl, hs⟩)

end Tallies

namespace Report

variable {ending : LineEnding} {log report : String}

/-- A plain report of a log is some document on it, written plainly. -/
theorem exists_document_of_text (h : text (.ofText ending log) = .ok report) :
    ∃ full, document (.ofText ending log) {} = .ok full ∧ full.plain = report := by
  rw [Tallies.ofText_eq_ofRejections] at h ⊢
  rwa [text_eq_map_plain _ {}, map_eq_ok_iff] at h

/-- A document on a log lists tests whose names have no line feeds. -/
theorem feed_notMem_of_mem_byTest {full : Document}
    (h : document (.ofText ending log) {} = .ok full) :
    ∀ entry ∈ full.byTest, '\n' ∉ entry.name.toList := by
  obtain ⟨_, -, rfl⟩ := document_eq_ok_iff.1 h
  intro entry hentry
  obtain ⟨pair, hpair, rfl⟩ := List.mem_map.1 hentry
  exact Tallies.feed_notMem_of_mem_byTest
    (List.mem_map_of_mem ((Counts.ranked_perm _).mem_iff.1 hpair))

/-! ### Tests -/

/-- **The number of distinct resources and the listing of tests are read back.** -/
theorem reads_back_of_text (h : text (.ofText ending log) = .ok report) :
    uniqueOn? report = some (Tallies.ofText ending log).uniqueResources ∧
      listingUnder? "Occurrences by test:" report =
        some (entriesOf id (Tallies.ofText ending log).byTest) := by
  obtain ⟨full, hfull, rfl⟩ := exists_document_of_text h
  have htests := feed_notMem_of_mem_byTest hfull
  have hlisted : Accounts full.byTest full.totalRejections := by
    rw [Tallies.ofText_eq_ofRejections] at hfull
    obtain ⟨htotal, -, htest, -⟩ := accounts_of_ofRejections hfull
    exact htotal ▸ htest
  have hunique := uniqueOn?_plain full
  have hlisting := listingUnder?_plain htests hlisted
  obtain ⟨_, -, rfl⟩ := document_eq_ok_iff.1 hfull
  exact ⟨hunique, hlisting⟩

/-- **A plain report determines the tests.** Logs with the same plain report have as many distinct
resources and count the same tests as often, in the same order of listing. -/
theorem text_determines_tests {ending₁ ending₂ : LineEnding} {log₁ log₂ report : String}
    (h₁ : text (.ofText ending₁ log₁) = .ok report)
    (h₂ : text (.ofText ending₂ log₂) = .ok report) :
    (Tallies.ofText ending₁ log₁).uniqueResources =
        (Tallies.ofText ending₂ log₂).uniqueResources ∧
      (Tallies.ofText ending₁ log₁).byTest.ranked =
        (Tallies.ofText ending₂ log₂).byTest.ranked := by
  obtain ⟨hunique₁, hlisting₁⟩ := reads_back_of_text h₁
  obtain ⟨hunique₂, hlisting₂⟩ := reads_back_of_text h₂
  have hentries : entriesOf id (Tallies.ofText ending₁ log₁).byTest =
      entriesOf id (Tallies.ofText ending₂ log₂).byTest :=
    Option.some.inj (hlisting₁.symm.trans hlisting₂)
  have hpairs := congrArg (List.map fun entry ↦ (entry.name, entry.count)) hentries
  rw [pairs_entriesOf_id, pairs_entriesOf_id] at hpairs
  exact ⟨Option.some.inj (hunique₁.symm.trans hunique₂), hpairs⟩

/-- Logs that differ in their line endings, in what else they say and in how they spell a
descriptor, but not in their plain report. One test is named like a heading, and the name of the
other one ends like an entry. -/
theorem text_determines_tests_misleading_names :
    let lines₁ := ["RUN] Total occurrences (by format):/",
      "Resource alignment, resource : \x7b\"Format\": 1\x7d",
      "RUN] a (3)./",
      "Resource alignment, resource : \x7b\"Format\": 1\x7d"]
    let lines₂ := ["started",
      "RUN] Total occurrences (by format):/",
      "Resource alignment, resource : \x7b\"Format\":1\x7d",
      "RUN] a (3)./",
      "Resource alignment, resource : \x7b\"Format\":1\x7d"]
    let log₁ := "\n".intercalate lines₁
    let log₂ := "\r\n".intercalate lines₂
    ∃ report, text (.ofText .lf log₁) = .ok report ∧ text (.ofText .crlf log₂) = .ok report ∧
      (Tallies.ofText .lf log₁).uniqueResources = (Tallies.ofText .crlf log₂).uniqueResources ∧
      (Tallies.ofText .lf log₁).byTest.ranked = (Tallies.ofText .crlf log₂).byTest.ranked := by
  intro lines₁ lines₂ log₁ log₂
  have hlines₁ : lf.lines log₁ = lines₁ := lines_intercalate (by decide) (by decide) (by decide)
  have hlines₂ : crlf.lines log₂ = lines₂ := lines_intercalate (by decide) (by decide) (by decide)
  have htallies₁ : Tallies.ofText .lf log₁ = ⟨⟨[("\x7b\"Format\": 1\x7d", 2)], by decide⟩,
      ⟨[("Total occurrences (by format):", 1), ("a (3).", 1)], by decide⟩⟩ := by
    rw [Tallies.ofText, hlines₁]
    decide +kernel
  have htallies₂ : Tallies.ofText .crlf log₂ = ⟨⟨[("\x7b\"Format\":1\x7d", 2)], by decide⟩,
      ⟨[("Total occurrences (by format):", 1), ("a (3).", 1)], by decide⟩⟩ := by
    rw [Tallies.ofText, hlines₂]
    decide +kernel
  have hformats₁ : (Tallies.ofText .lf log₁).formatCounts =
      .ok ⟨[(⟨"1", "1"⟩, 1)], by decide⟩ := by
    rw [htallies₁]
    decide +kernel
  have hformats₂ : (Tallies.ofText .crlf log₂).formatCounts =
      .ok ⟨[(⟨"1", "1"⟩, 1)], by decide⟩ := by
    rw [htallies₂]
    decide +kernel
  have hsame : text (.ofText .crlf log₂) = text (.ofText .lf log₁) := by
    refine text_congr ?_ ?_ (hformats₂.trans hformats₁.symm)
    · rw [htallies₁, htallies₂]
      rfl
    · rw [htallies₁, htallies₂]
  have hempty : (Tallies.ofText .lf log₁).isEmpty = false := by
    rw [htallies₁]
    rfl
  have hreport := text_of_not_isEmpty hempty
  rw [hformats₁] at hreport
  exact ⟨_, hreport, hsame.trans hreport, text_determines_tests hreport (hsame.trans hreport)⟩

/-! ### Formats -/

/-- The lines that list formats, one for each. -/
def formatLines (formats : Counts Format) : List String :=
  formats.ranked.map fun entry ↦ s!"Format ID:{entry.1.label} ({entry.2})."

/-- The listing of formats as it is read back: the words before a label count as part of a name. -/
def formatEntries (formats : Counts Format) : List Entry :=
  entriesOf (fun format ↦ "Format ID:" ++ format.label) formats

theorem formatLines_eq (formats : Counts Format) :
    formatLines formats = (formatEntries formats).map Entry.line := by
  rw [formatLines, formatEntries, entriesOf, List.map_map]
  rfl

theorem map_line_entriesOf_label (formats : Counts Format) :
    ((entriesOf Format.label formats).map fun entry ↦ "Format ID:" ++ entry.line) =
      formatLines formats := by
  rw [formatLines, entriesOf, List.map_map]
  refine List.map_congr_left fun entry _ ↦ ?_
  simp only [Function.comp_apply, Entry.line, String.append_assoc]
  rfl

/-- The line of a format is one line exactly when its label is. -/
theorem feed_notMem_formatLines_iff {formats : Counts Format} :
    (∀ line ∈ formatLines formats, '\n' ∉ line.toList) ↔
      ∀ format ∈ formats.keys, '\n' ∉ format.label.toList := by
  rw [formatLines_eq, formatEntries, entriesOf, List.map_map, List.forall_mem_map, Counts.keys,
    List.forall_mem_map]
  simp only [Function.comp_apply, Entry.feed_mem_line_iff, (Counts.ranked_perm _).mem_iff]
  simp

/-- The lines of a plain report with rejections. A label takes as many lines as it has. -/
theorem lines_text (h : text (.ofText ending log) = .ok report)
    (hrejected : 0 < (Tallies.ofText ending log).totalRejections) :
    ∃ formats, (Tallies.ofText ending log).formatCounts = .ok formats ∧
      lf.lines report =
        [uniqueLine (Tallies.ofText ending log).uniqueResources, ""] ++
          "Occurrences by test:" ::
            (entriesOf id (Tallies.ofText ending log).byTest).map Entry.line ++
          "" :: "Total occurrences (by format):" :: (formatLines formats).flatMap lf.lines ++
          ["", ""] := by
  obtain ⟨full, hfull, rfl⟩ := exists_document_of_text h
  have htests := feed_notMem_of_mem_byTest hfull
  obtain ⟨formats, hformats, rfl⟩ := document_eq_ok_iff.1 hfull
  refine ⟨formats, hformats, ?_⟩
  rw [lines_plain hrejected htests, documentOf, map_line_entriesOf_label]

/-- The heading of the listing of formats does not stand before it, whatever the tests are
called. -/
theorem formatHeading_notMem (uniqueResources : Nat) (tests : List Entry) :
    "Total occurrences (by format):" ∉
      [uniqueLine uniqueResources, ""] ++ "Occurrences by test:" :: tests.map Entry.line ++
        [""] := by
  have hfirst : "Total occurrences (by format):" ≠ uniqueLine uniqueResources :=
    (uniqueLine_ne (by decide)).symm
  have htests : "Total occurrences (by format):" ∉ tests.map Entry.line := by
    rw [List.mem_map]
    rintro ⟨entry, -, hentry⟩
    exact entry.line_ne_of_suffix (by decide) hentry
  simp [hfirst, htests]

/-- **The listing of formats has one line for each format exactly when no format is a string with a
line feed**, and then the counts on these lines add up to the number on the first line. -/
theorem text_lists_formats (hreport : text (.ofText ending log) = .ok report)
    (hrejected : 0 < (Tallies.ofText ending log).totalRejections) :
    ∃ formats, (Tallies.ofText ending log).formatCounts = .ok formats ∧
      lf.lines report =
        [uniqueLine (Tallies.ofText ending log).uniqueResources, ""] ++
          "Occurrences by test:" ::
            (entriesOf id (Tallies.ofText ending log).byTest).map Entry.line ++
          "" :: "Total occurrences (by format):" :: (formatLines formats).flatMap lf.lines ++
          ["", ""] ∧
      (linesUnder "Total occurrences (by format):" (lf.lines report) = formatLines formats ↔
        (Tallies.ofText ending log).FormatsOnOneLine) ∧
      ((Tallies.ofText ending log).FormatsOnOneLine →
        ∃ entries, listingUnder? "Total occurrences (by format):" report = some entries ∧
          uniqueOn? report = some (Entry.total entries)) := by
  obtain ⟨formats, hformats, hlines⟩ := lines_text hreport hrejected
  have hone := (Tallies.formatsOnOneLine_iff hformats).trans feed_notMem_formatLines_iff.symm
  have hunder : (∀ line ∈ formatLines formats, '\n' ∉ line.toList) →
      linesUnder "Total occurrences (by format):" (lf.lines report) = formatLines formats := by
    intro hfeeds
    have hblank : "" ∉ formatLines formats := formatLines_eq formats ▸ blank_notMem_map_line _
    have hheading := formatHeading_notMem (Tallies.ofText ending log).uniqueResources
      (entriesOf id (Tallies.ofText ending log).byTest)
    rw [hlines, flatMap_lf_lines hfeeds]
    simpa using @linesUnder_section _ _ _ [""] hheading hblank
  refine ⟨formats, hformats, hlines, ⟨fun h ↦ ?_, fun h ↦ hunder (hone.1 h)⟩, fun h ↦ ?_⟩
  · refine hone.2 fun line hline ↦ ?_
    rw [← h] at hline
    exact feed_notMem_of_mem_lf_lines (linesUnder_subset _ _ hline)
  · refine ⟨formatEntries formats, ?_, ?_⟩
    · rw [listingUnder?, hunder (hone.1 h), formatLines_eq, mapM_ofLine?_line]
    · rw [(reads_back_of_text hreport).1, formatEntries, total_entriesOf,
        Tallies.total_of_formatCounts hformats]

/-- Two formats that are listed alike, during a test that is named like a heading. -/
theorem text_lists_formats_same_label :
    let lines := ["RUN] Total occurrences (by format):/",
      "Resource alignment, resource : \x7b\"Format\": 1\x7d",
      "Resource alignment, resource : \x7b\"Format\": \"1\"\x7d"]
    let log := "\n".intercalate lines
    ∃ report, text (.ofText .lf log) = .ok report ∧
      0 < (Tallies.ofText .lf log).totalRejections ∧ (Tallies.ofText .lf log).FormatsOnOneLine ∧
      linesUnder "Total occurrences (by format):" (lf.lines report) =
        ["Format ID:1 (1).", "Format ID:1 (1)."] ∧
      ∃ entries, listingUnder? "Total occurrences (by format):" report = some entries ∧
        uniqueOn? report = some (Entry.total entries) := by
  intro lines log
  have hlines : lf.lines log = lines := lines_intercalate (by decide) (by decide) (by decide)
  have htallies : Tallies.ofText .lf log =
      ⟨⟨[("\x7b\"Format\": 1\x7d", 1), ("\x7b\"Format\": \"1\"\x7d", 1)], by decide⟩,
        ⟨[("Total occurrences (by format):", 2)], by decide⟩⟩ := by
    rw [Tallies.ofText, hlines]
    decide +kernel
  have hformats : (Tallies.ofText .lf log).formatCounts =
      .ok ⟨[(⟨"1", "1"⟩, 1), (⟨"\"1\"", "1"⟩, 1)], by decide⟩ := by
    rw [htallies]
    decide +kernel
  have hempty : (Tallies.ofText .lf log).isEmpty = false := by
    rw [htallies]
    rfl
  have hrejected : 0 < (Tallies.ofText .lf log).totalRejections := by
    rw [htallies]
    decide
  have hone : (Tallies.ofText .lf log).FormatsOnOneLine := by
    rw [Tallies.formatsOnOneLine_iff hformats]
    decide
  have hreport := text_of_not_isEmpty hempty
  rw [hformats] at hreport
  obtain ⟨formats, hread, -, hlisted, htotal⟩ := text_lists_formats hreport hrejected
  obtain rfl : _ = formats := Except.ok.inj (hformats.symm.trans hread)
  refine ⟨_, hreport, hrejected, hone, (hlisted.2 hone).trans ?_, htotal hone⟩
  rw [formatLines, Counts.ranked_of_pairwise (by decide)]
  decide +kernel

/-- The format of the only rejected resource has an escaped line feed. Its entry takes two lines,
each of which looks like an entry, and their counts add up to 6 where 1 resource was rejected. -/
theorem text_forged_entry :
    let log := "Resource alignment, resource : \x7b\"Format\": \"x (5).\\nFormat ID:y\"\x7d"
    let lines := ["Unique resources alignment rejected: 1", "",
      "Occurrences by test:", " (1).", "",
      "Total occurrences (by format):", "Format ID:x (5).", "Format ID:y (1).", "", ""]
    let report := "\n".intercalate lines
    text (.ofText .lf log) = .ok report ∧ (Tallies.ofText .lf log).totalRejections = 1 ∧
      (∃ formats, (Tallies.ofText .lf log).formatCounts = .ok formats ∧ formats.size = 1) ∧
      linesUnder "Total occurrences (by format):" (lf.lines report) =
        ["Format ID:x (5).", "Format ID:y (1)."] ∧
      uniqueOn? report = some 1 ∧
      (listingUnder? "Total occurrences (by format):" report).map Entry.total = some 6 := by
  intro log lines report
  have htallies : Tallies.ofText .lf log =
      ⟨⟨[("\x7b\"Format\": \"x (5).\\nFormat ID:y\"\x7d", 1)], by decide⟩,
        ⟨[("", 1)], by decide⟩⟩ := by decide +kernel
  have hformats : (Tallies.ofText .lf log).formatCounts =
      .ok ⟨[(⟨"\"x (5).\\nFormat ID:y\"", "x (5).\nFormat ID:y"⟩, 1)], by decide⟩ := by
    rw [htallies]
    decide +kernel
  have hempty : (Tallies.ofText .lf log).isEmpty = false := by
    rw [htallies]
    rfl
  have hreport : text (.ofText .lf log) = .ok report := by
    rw [text_of_not_isEmpty hempty, hformats, htallies, Except.map,
      Counts.ranked_of_pairwise (by decide), Counts.ranked_of_pairwise (by decide)]
    exact congrArg Except.ok (by decide +kernel)
  have hlines : lf.lines report = lines :=
    lines_intercalate (by decide) (by decide) (by decide)
  refine ⟨hreport, ?_, ⟨_, hformats, rfl⟩, ?_, ?_, ?_⟩
  · rw [htallies]
    decide
  · rw [hlines]
    decide
  · rw [uniqueOn?, hlines]
    decide
  · rw [listingUnder?, hlines]
    decide

end Report

end AlignmentTally
