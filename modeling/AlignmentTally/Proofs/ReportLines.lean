import AlignmentTally.Proofs.Json.Printable
import AlignmentTally.Proofs.Markers
import AlignmentTally.Proofs.PlainReport

/-!
# Reading the plain report by lines

Scripts read the plain report line by line: the number of distinct resources from the first line
(`Report.uniqueOn?`), a listing from the lines under its heading up to the next blank one
(`Report.listingUnder?`), and from each of these lines a name and a count (`Report.Entry.ofLine?`).
These readers are written down here, as the program itself only writes.

## What can be taken for what

The count stands in the last parentheses of its line, so nothing in a name can be taken for it
(`Report.Entry.ofLine?_line`). Neither a heading nor a blank line can be taken for an entry, because
an entry ends in a full stop (`Report.Entry.line_ne_of_suffix`).

## What is read back

The lines of a report are those of its sections one after another (`Report.lines_plain`), and a name
takes as many lines as it has. So the number of resources is always read back
(`Report.uniqueOn?_plain`), and the listing of tests if their names have no line feeds
(`Report.listingUnder?_plain`). Both are about documents as such. Which names the tests of a log can
have, and what becomes of labels, is said in `AlignmentTally.Proofs.Scraping`.
-/

namespace AlignmentTally

/-! ### Lines of a text that is written line by line -/

namespace LineEnding

/-- A line feed ends a line, whatever follows it. -/
theorem lf_lines_append_feed (before after : String) :
    lf.lines (before ++ "\n" ++ after) = lf.lines before ++ lf.lines after := by
  have htext : (before ++ "\n" ++ after).toList = before.toList ++ '\n' :: after.toList := by simp
  rw [lines, split, htext, splitLf_append_feed, List.map_append]
  rfl

/-- A text without line feeds is one line. -/
theorem lf_lines_of_notMem {text : String} (h : '\n' ∉ text.toList) : lf.lines text = [text] := by
  rw [lines, split, splitLf_of_notMem h, List.map_singleton, String.ofList_toList]

/-- No line holds the line feed that ends it. -/
theorem feed_notMem_of_mem_lf_lines {text line : String} (h : line ∈ lf.lines text) :
    '\n' ∉ line.toList := by
  obtain ⟨segment, hsegment, rfl⟩ := List.mem_map.1 h
  rw [String.toList_ofList]
  exact notMem_of_mem_splitLf hsegment

/-- Items without line feeds are their own lines. -/
theorem flatMap_lf_lines {items : List String} (h : ∀ item ∈ items, '\n' ∉ item.toList) :
    items.flatMap lf.lines = items := by
  rw [List.flatMap_congr fun item hitem ↦ lf_lines_of_notMem (h item hitem)]
  exact List.flatMap_singleton' items

/-- The lines of some items are theirs one after another, if each item ends in a line feed. -/
theorem lf_lines_join (items : List String) (after : String) :
    lf.lines (String.join (items.map (· ++ "\n")) ++ after) =
      items.flatMap lf.lines ++ lf.lines after := by
  induction items with
  | nil => simp
  | cons item rest ih =>
    rw [List.map_cons, String.join_cons, String.append_assoc, lf_lines_append_feed, ih,
      List.flatMap_cons, List.append_assoc]

/-- The lines of a heading, some items under it, and a blank line that closes them. -/
theorem lf_lines_section {heading : String} (h : '\n' ∉ heading.toList) (items : List String)
    (after : String) :
    lf.lines (heading ++ "\n" ++ (String.join (items.map (· ++ "\n")) ++ ("" ++ "\n" ++ after))) =
      heading :: items.flatMap lf.lines ++ "" :: lf.lines after := by
  rw [lf_lines_append_feed, lf_lines_join, lf_lines_append_feed, lf_lines_of_notMem h]
  rfl

end LineEnding

open LineEnding Text

namespace Report

/-! ### Entries on lines -/

/-- The line of a listing for an entry. -/
def Entry.line (entry : Entry) : String := s!"{entry.name} ({entry.count})."

/-- The entry that a line is for: the digits in the last parentheses are the count, and what stands
before these parentheses and a space is the name. -/
def Entry.ofLine? (line : String) : Option Entry := do
  let named ← beforeLast? '(' line.toList
  let counted ← afterLast? ['('] line.toList
  let digits := counted.takeWhile Char.isDigit
  if [' '] <:+ named ∧ digits ≠ [] ∧ counted = digits ++ ").".toList then
    some ⟨String.ofList named.dropLast, Nat.ofDigitChars 10 digits 0⟩
  else none

theorem Entry.toList_line (entry : Entry) :
    entry.line.toList =
      entry.name.toList ++ " (".toList ++ Nat.toDigits 10 entry.count ++ ").".toList := by
  simp only [line, String.toList_append, Nat.toString_eq_repr, Nat.toList_repr]
  rfl

/-- A line is one line exactly when its name is. -/
theorem Entry.feed_mem_line_iff (entry : Entry) :
    '\n' ∈ entry.line.toList ↔ '\n' ∈ entry.name.toList := by
  have hdigits : '\n' ∉ Nat.toDigits 10 entry.count := (Json.printable_toDigits _).feed_notMem
  rw [toList_line]
  simp [hdigits]

/-- **A line gives its entry back**, whatever parentheses and digits are in the name. -/
theorem Entry.ofLine?_line (entry : Entry) : ofLine? entry.line = some entry := by
  have hdigit : ∀ c ∈ Nat.toDigits 10 entry.count, c.isDigit = true := fun c hc ↦
    Nat.isDigit_of_mem_toDigits (by decide) (by decide) hc
  have hparenthesis : '(' ∉ Nat.toDigits 10 entry.count ++ ").".toList := by
    rw [List.mem_append]
    rintro (hc | hc)
    · exact absurd (hdigit _ hc) (by decide)
    · exact absurd hc (by decide)
  have hline : entry.line.toList =
      (entry.name.toList ++ [' ']) ++ '(' :: (Nat.toDigits 10 entry.count ++ ").".toList) := by
    rw [toList_line]
    simp
  have hnamed : beforeLast? '(' entry.line.toList = some (entry.name.toList ++ [' ']) := by
    rw [hline]
    exact beforeLast?_append_cons _ hparenthesis
  have hcounted : afterLast? ['('] entry.line.toList =
      some (Nat.toDigits 10 entry.count ++ ").".toList) := by
    refine afterLast?_eq_some_iff.2 ⟨⟨entry.name.toList ++ [' '], by rw [hline]; simp⟩, ?_⟩
    exact fun h ↦ hparenthesis (h.subset List.mem_cons_self)
  have hdigits : (Nat.toDigits 10 entry.count ++ ").".toList).takeWhile Char.isDigit =
      Nat.toDigits 10 entry.count := by
    rw [List.takeWhile_append_of_pos hdigit]
    simp
  rw [ofLine?, hnamed, hcounted]
  simp only [Option.bind_eq_bind, Option.bind_some, hdigits]
  rw [if_pos ⟨List.suffix_append .., Nat.toDigits_ne_nil, trivial⟩, List.dropLast_concat,
    String.ofList_toList, Nat.ofDigitChars_ten_toDigits]

/-! ### Lines of the plain report -/

theorem countLine_eq (name : String) (count : Nat) :
    countLine name count = Entry.line ⟨name, count⟩ ++ "\n" := by
  simp only [countLine, Entry.line, String.append_assoc]
  rfl

/-- The first line of the plain report. -/
def uniqueLine (uniqueResources : Nat) : String :=
  s!"Unique resources alignment rejected: {uniqueResources}"

theorem toList_uniqueLine (uniqueResources : Nat) :
    (uniqueLine uniqueResources).toList =
      "Unique resources alignment rejected: ".toList ++ Nat.toDigits 10 uniqueResources := by
  unfold uniqueLine
  simp only [String.toList_append, Nat.toString_eq_repr, Nat.toList_repr]
  rfl

theorem uniqueLine_ne {uniqueResources : Nat} {line : String} (h : ¬ ['U'] <+: line.toList) :
    uniqueLine uniqueResources ≠ line := by
  rintro rfl
  rw [toList_uniqueLine] at h
  exact h ⟨_, rfl⟩

theorem lines_uniqueSection (uniqueResources : Nat) (after : String) :
    lf.lines (uniqueSection uniqueResources ++ after) =
      uniqueLine uniqueResources :: "" :: lf.lines after := by
  have htext : uniqueSection uniqueResources ++ after =
      uniqueLine uniqueResources ++ "\n" ++ ("" ++ "\n" ++ after) := by
    unfold uniqueSection uniqueLine
    simp only [String.append_assoc, String.empty_append]
    rfl
  have hline : '\n' ∉ (uniqueLine uniqueResources).toList := by
    rw [toList_uniqueLine, List.mem_append, not_or]
    exact ⟨by decide, (Json.printable_toDigits _).feed_notMem⟩
  rw [htext, lf_lines_append_feed, lf_lines_append_feed, lf_lines_of_notMem hline]
  rfl

theorem lines_testSection (entries : List Entry) (after : String) :
    lf.lines (testSection (entries.map fun entry ↦ (entry.name, entry.count)) ++ after) =
      "Occurrences by test:" :: (entries.map Entry.line).flatMap lf.lines ++
        "" :: lf.lines after := by
  have hjoin : (entries.map fun entry ↦ (entry.name, entry.count)).map
      (fun entry ↦ countLine entry.1 entry.2) = (entries.map Entry.line).map (· ++ "\n") := by
    simp only [List.map_map, Function.comp_def, countLine_eq]
  rw [← lf_lines_section (by decide), ← hjoin]
  unfold testSection
  simp only [String.append_assoc]
  rfl

theorem lines_formatSection (entries : List Entry) (after : String) :
    lf.lines (formatSection (entries.map fun entry ↦ (entry.name, entry.count)) ++ after) =
      "Total occurrences (by format):" ::
        (entries.map fun entry ↦ "Format ID:" ++ entry.line).flatMap lf.lines ++
        "" :: lf.lines after := by
  have hjoin : (entries.map fun entry ↦ (entry.name, entry.count)).map
      (fun entry ↦ "Format ID:" ++ countLine entry.1 entry.2) =
        (entries.map fun entry ↦ "Format ID:" ++ entry.line).map (· ++ "\n") := by
    simp only [List.map_map, Function.comp_def, countLine_eq, String.append_assoc]
  rw [← lf_lines_section (by decide), ← hjoin]
  unfold formatSection
  simp only [String.append_assoc]
  rfl

/-- **The lines of the plain report.** The names of tests are on one line each; a label takes as
many lines as it has. -/
theorem lines_plain {report : Document} (hpos : 0 < report.totalRejections)
    (htests : ∀ entry ∈ report.byTest, '\n' ∉ entry.name.toList) :
    lf.lines report.plain =
      [uniqueLine report.uniqueResources, ""] ++
        "Occurrences by test:" :: report.byTest.map Entry.line ++
        "" :: "Total occurrences (by format):" ::
          (report.byFormat.map fun entry ↦ "Format ID:" ++ entry.line).flatMap lf.lines ++
        ["", ""] := by
  have hnames : (report.byTest.map Entry.line).flatMap lf.lines = report.byTest.map Entry.line := by
    refine flatMap_lf_lines ?_
    rw [List.forall_mem_map]
    exact fun entry hentry ↦ mt entry.feed_mem_line_iff.1 (htests entry hentry)
  have hformats := lines_formatSection report.byFormat ""
  rw [String.append_empty] at hformats
  rw [Document.plain_of_pos hpos, String.append_assoc, lines_uniqueSection, lines_testSection,
    hformats, hnames]
  simp only [List.cons_append, List.nil_append, List.append_assoc]
  rfl

/-- Without rejections the plain report is one line and a blank one. -/
theorem lines_plain_of_not_pos {report : Document} (h : ¬ 0 < report.totalRejections) :
    lf.lines report.plain = [uniqueLine report.uniqueResources, "", ""] := by
  rw [Document.plain_of_not_pos h, ← String.append_empty (s := uniqueSection _),
    lines_uniqueSection]
  rfl

/-! ### Reading the listings back -/

/-- The lines under a heading, up to the next blank line. -/
def linesUnder (heading : String) (lines : List String) : List String :=
  ((lines.dropWhile (· ≠ heading)).drop 1).takeWhile (· ≠ "")

/-- The listing under a heading of a plain report. -/
def listingUnder? (heading report : String) : Option (List Entry) :=
  (linesUnder heading (lf.lines report)).mapM Entry.ofLine?

/-- The number of distinct resources on the first line of a plain report. -/
def uniqueOn? (report : String) : Option Nat := do
  let line ← (lf.lines report).head?
  let digits ← afterWord? "Unique resources alignment rejected: ".toList line.toList
  return Nat.ofDigitChars 10 digits 0

/-- Lines before the first occurrence of a line differ from it. -/
theorem forall_decide_ne {word : String} {lines : List String} (h : word ∉ lines) :
    ∀ line ∈ lines, decide (line ≠ word) = true := fun _ hline ↦
  decide_eq_true fun he ↦ h (he ▸ hline)

/-- What is between a heading and a blank line is under the heading. -/
theorem linesUnder_section {heading : String} {before items after : List String}
    (hbefore : heading ∉ before) (hitems : "" ∉ items) :
    linesUnder heading (before ++ heading :: items ++ "" :: after) = items := by
  have hskipped : (before ++ heading :: (items ++ "" :: after)).dropWhile (· ≠ heading) =
      heading :: (items ++ "" :: after) := by
    rw [List.dropWhile_append_of_pos (forall_decide_ne hbefore)]
    simp
  have htaken : (items ++ "" :: after).takeWhile (· ≠ "") = items := by
    rw [List.takeWhile_append_of_pos (forall_decide_ne hitems)]
    simp
  rw [linesUnder, List.append_assoc, List.cons_append, hskipped, List.drop_one, List.tail_cons,
    htaken]

/-- Under a heading that is not there is nothing. -/
theorem linesUnder_of_notMem {heading : String} {lines : List String} (h : heading ∉ lines) :
    linesUnder heading lines = [] := by
  have hskipped : lines.dropWhile (· ≠ heading) = [] := by
    rw [← List.append_nil lines, List.dropWhile_append_of_pos (forall_decide_ne h),
      List.dropWhile_nil]
  rw [linesUnder, hskipped]
  rfl

theorem linesUnder_subset (heading : String) (lines : List String) :
    linesUnder heading lines ⊆ lines :=
  (((List.takeWhile_sublist _).trans (List.drop_sublist _ _)).trans
    (List.dropWhile_sublist _)).subset

/-- No entry stands on a blank line, nor on a line that ends like a heading. -/
theorem Entry.line_ne_of_suffix (entry : Entry) {line : String} (h : ¬ ['.'] <:+ line.toList) :
    entry.line ≠ line := by
  rintro rfl
  refine h ⟨entry.name.toList ++ " (".toList ++ Nat.toDigits 10 entry.count ++ [')'], ?_⟩
  rw [toList_line]
  simp

theorem blank_notMem_map_line (entries : List Entry) : "" ∉ entries.map Entry.line := by
  rw [List.mem_map]
  rintro ⟨entry, -, hentry⟩
  exact entry.line_ne_of_suffix (by decide) hentry

theorem mapM_ofLine?_line (entries : List Entry) :
    (entries.map Entry.line).mapM Entry.ofLine? = some entries := by
  induction entries with
  | nil => rfl
  | cons entry rest ih =>
    rw [List.map_cons, List.mapM_cons, Entry.ofLine?_line, ih]
    rfl

/-- **The number of distinct resources is read back.** -/
theorem uniqueOn?_plain (report : Document) :
    uniqueOn? report.plain = some report.uniqueResources := by
  obtain ⟨after, hplain⟩ : ∃ after,
      report.plain = uniqueSection report.uniqueResources ++ after := by
    by_cases hpos : 0 < report.totalRejections
    · exact ⟨_, (Document.plain_of_pos hpos).trans String.append_assoc⟩
    · exact ⟨"", (Document.plain_of_not_pos hpos).trans String.append_empty.symm⟩
  rw [uniqueOn?, hplain, lines_uniqueSection, List.head?_cons]
  simp only [Option.bind_eq_bind, Option.bind_some]
  rw [toList_uniqueLine, afterWord?_append_self]
  simp only [Option.bind_some, Nat.ofDigitChars_ten_toDigits]
  rfl

/-- **The listing of tests is read back**, if the names of tests have no line feeds and no tests are
listed without rejections. -/
theorem listingUnder?_plain {report : Document}
    (htests : ∀ entry ∈ report.byTest, '\n' ∉ entry.name.toList)
    (hlisted : Accounts report.byTest report.totalRejections) :
    listingUnder? "Occurrences by test:" report.plain = some report.byTest := by
  have hfirst : "Occurrences by test:" ≠ uniqueLine report.uniqueResources :=
    (uniqueLine_ne (by decide)).symm
  by_cases hpos : 0 < report.totalRejections
  · have hbefore : "Occurrences by test:" ∉ [uniqueLine report.uniqueResources, ""] := by
      simp [hfirst]
    have hunder : linesUnder "Occurrences by test:" (lf.lines report.plain) =
        report.byTest.map Entry.line := by
      rw [lines_plain hpos htests, List.append_assoc]
      exact linesUnder_section hbefore (blank_notMem_map_line _)
    rw [listingUnder?, hunder, mapM_ofLine?_line]
  · have hnone : report.byTest = [] := by
      have hlength := hlisted.length_le
      exact List.length_eq_zero_iff.1 (by omega)
    have hnotMem : "Occurrences by test:" ∉ lf.lines report.plain := by
      rw [lines_plain_of_not_pos hpos]
      simp [hfirst]
    rw [listingUnder?, linesUnder_of_notMem hnotMem, hnone]
    rfl

end Report

end AlignmentTally
