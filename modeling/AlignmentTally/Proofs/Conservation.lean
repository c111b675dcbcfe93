import AlignmentTally.Proofs.Attribution
import AlignmentTally.Proofs.Formats
import AlignmentTally.Proofs.Lines
import AlignmentTally.Report.Document
import Mathlib.Data.List.Perm.Basic

/-!
# What the sections of a report account for

Each section of a report lists a tally of something: of the descriptors that lines report, of the
tests during which they do, of the formats of the distinct descriptors. A listing of a tally
accounts for the list that was tallied (`Report.Accounts`): its counts add up to the length of that
list, each of them is at least 1, and they ascend (`Report.accounts_entriesOf_tally`). Sorting has
no say in this, because it only permutes the entries.

Two things follow from the sum alone: no count exceeds it, and neither does the number of entries
(`Report.Accounts.count_le`, `Report.Accounts.length_le`). So everything in a report on a log is
bounded by the number of lines of the log.

## What the main result rests on

`Report.document_conserves` is about a report on a log.

* Two sections account for the same number, because **each rejection is recorded once in each map**.
  The lists that are tallied differ, but they are the two projections of one list of rejections.
* The formats account for the number of distinct descriptors, because a report is made only when
  **each descriptor has a format** (`Tallies.total_of_formatCounts`).
* There are no more rejections than lines, because **a line holds at most one**
  (`Scan.length_rejections_le`), and no more lines than characters of the text and one.

The number of lines that a report states is part of its metadata, which a caller supplies. The
result is for reports whose metadata state the number under the line ending of the pass.
-/

namespace AlignmentTally

/-! ### Entries of a tally -/

namespace Counts

variable {κ : Type}

/-- Sorting by count does not change the sum of the counts. -/
theorem total_ranked (counts : Counts κ) :
    counts.ranked.foldr (fun entry sum ↦ entry.2 + sum) 0 = counts.total := by
  refine counts.ranked_perm.foldr_eq' (fun x _ y _ sum ↦ ?_) 0
  omega

/-- Entries that ascend stay as they are. -/
theorem ranked_of_pairwise {counts : Counts κ}
    (h : counts.entries.Pairwise fun a b ↦ a.2 ≤ b.2) : counts.ranked = counts.entries :=
  List.mergeSort_of_pairwise (h.imp fun hle ↦ decide_eq_true hle)

/-- Sorting by count keeps the keys distinct. -/
theorem nodup_map_fst_ranked (counts : Counts κ) : (counts.ranked.map Prod.fst).Nodup :=
  (counts.ranked_perm.map Prod.fst).nodup_iff.2 counts.nodup_keys

variable [DecidableEq κ]

/-- What a tally lists was counted. -/
theorem one_le_of_mem_tally {keys : List κ} {entry : κ × Nat} (h : entry ∈ (tally keys).entries) :
    1 ≤ entry.2 := by
  have hkey : entry.1 ∈ keys := mem_keys_tally.1 (List.mem_map_of_mem h)
  rw [← count_eq_of_mem h, count_tally]
  exact List.count_pos_iff.2 hkey

end Counts

/-- Tallies of rejections count one as soon as there is one. -/
theorem Tallies.totalRejections_ofRejections (rejections : List Rejection) :
    (ofRejections rejections).totalRejections = rejections.length := by
  rw [totalRejections, byResource_ofRejections, Counts.total_tally, List.length_map]

/-! ### Listings -/

namespace Report

/-- The sum of the counts of a listing. -/
def Entry.total (entries : List Entry) : Nat := entries.foldr (fun entry sum ↦ entry.count + sum) 0

/-- A listing accounts for a number of things: each is counted under one name, no name is listed for
nothing, and the names are listed ascending by count. -/
structure Accounts (entries : List Entry) (things : Nat) : Prop where
  /-- The counts add up. -/
  total_eq : Entry.total entries = things
  /-- Each count is at least 1. -/
  one_le : ∀ entry ∈ entries, 1 ≤ entry.count
  /-- The counts ascend. -/
  ascending : entries.Pairwise fun a b ↦ a.count ≤ b.count

theorem Entry.count_le_total {entries : List Entry} {entry : Entry} (h : entry ∈ entries) :
    entry.count ≤ total entries := by
  induction entries with
  | nil => cases h
  | cons first rest ih =>
    rw [total, List.foldr_cons, ← total]
    rcases List.mem_cons.1 h with rfl | h
    · omega
    · have hrest := ih h
      omega

/-- A listing in which nothing is listed for nothing has no more entries than it counts. -/
theorem Entry.length_le_total {entries : List Entry} (h : ∀ entry ∈ entries, 1 ≤ entry.count) :
    entries.length ≤ total entries := by
  induction entries with
  | nil => exact Nat.le_refl 0
  | cons first rest ih =>
    rw [List.forall_mem_cons] at h
    have hrest := ih h.2
    rw [total, List.foldr_cons, ← total, List.length_cons]
    omega

theorem Accounts.count_le {entries : List Entry} {things : Nat} (h : Accounts entries things) :
    ∀ entry ∈ entries, entry.count ≤ things := fun _ hentry ↦
  h.total_eq ▸ Entry.count_le_total hentry

theorem Accounts.length_le {entries : List Entry} {things : Nat} (h : Accounts entries things) :
    entries.length ≤ things :=
  h.total_eq ▸ Entry.length_le_total h.one_le

section Entries

variable {κ : Type} (name : κ → String)

theorem length_entriesOf (counts : Counts κ) : (entriesOf name counts).length = counts.size := by
  rw [entriesOf, List.length_map, counts.ranked_perm.length_eq, Counts.size]

theorem total_entriesOf (counts : Counts κ) :
    Entry.total (entriesOf name counts) = counts.total := by
  rw [Entry.total, entriesOf, List.foldr_map, Counts.total_ranked]

/-- Names under which keys can be told apart are listed once. -/
theorem nodup_names_entriesOf_id (counts : Counts String) :
    ((entriesOf id counts).map Entry.name).Nodup := by
  rw [entriesOf, List.map_map]
  exact counts.nodup_map_fst_ranked

/-- **The listing of a tally accounts for the list that was tallied.** -/
theorem accounts_entriesOf_tally [DecidableEq κ] (keys : List κ) :
    Accounts (entriesOf name (.tally keys)) keys.length where
  total_eq := by rw [total_entriesOf, Counts.total_tally]
  one_le := by
    rw [entriesOf, List.forall_mem_map]
    exact fun entry h ↦ Counts.one_le_of_mem_tally ((Counts.ranked_perm _).mem_iff.1 h)
  ascending := by
    rw [entriesOf, List.pairwise_map]
    exact Counts.pairwise_ranked _

end Entries

/-! ### A report on a log -/

/-- The document on tallies whose formats were read. -/
def documentOf (tallies : Tallies) (metadata : Metadata) (formats : Counts Format) : Document where
  metadata
  uniqueResources := tallies.uniqueResources
  totalRejections := tallies.totalRejections
  byResource := entriesOf id tallies.byResource
  byTest := entriesOf id tallies.byTest
  byFormat := entriesOf Format.label formats

/-- A document needs the formats and nothing else that can fail. -/
theorem document_eq_map (tallies : Tallies) (metadata : Metadata) :
    document tallies metadata = tallies.formatCounts.map (documentOf tallies metadata) := by
  rw [document]
  cases tallies.formatCounts <;> rfl

theorem document_eq_ok_iff {tallies : Tallies} {metadata : Metadata} {report : Document} :
    document tallies metadata = .ok report ↔
      ∃ formats, tallies.formatCounts = .ok formats ∧
        documentOf tallies metadata formats = report := by
  rw [document_eq_map, map_eq_ok_iff]

/-- What the tallies of some rejections list accounts for these rejections, and the formats account
for the distinct descriptors among them. -/
theorem accounts_of_ofRejections {rejections : List Rejection} {metadata : Metadata}
    {report : Document} (h : document (.ofRejections rejections) metadata = .ok report) :
    report.totalRejections = rejections.length ∧
      Accounts report.byResource rejections.length ∧ Accounts report.byTest rejections.length ∧
      Accounts report.byFormat report.uniqueResources ∧
      report.byResource.length = report.uniqueResources := by
  obtain ⟨formats, hformats, rfl⟩ := document_eq_ok_iff.1 h
  obtain ⟨named, hnamed, rfl⟩ := Tallies.formatCounts_eq_ok_iff.1 hformats
  have hresource := accounts_entriesOf_tally id (rejections.map Rejection.descriptor)
  have htest := accounts_entriesOf_tally id (rejections.map Rejection.test)
  have hformat := accounts_entriesOf_tally Format.label named
  rw [List.length_map, ← Tallies.byResource_ofRejections] at hresource
  rw [List.length_map, ← Tallies.byTest_ofRejections] at htest
  rw [← hnamed.length_eq, ← Counts.size_eq_length_keys] at hformat
  exact ⟨Tallies.totalRejections_ofRejections _, hresource, htest, hformat, length_entriesOf id _⟩

/-- **Nothing is lost or counted twice between the lines of a log and the report on it.** The
rejections by resource and by test add up to the same number, the formats add up to the number of
distinct resources, and nothing exceeds the number of lines, which is itself bounded by the length
of the text. -/
theorem document_conserves {ending : LineEnding} {text : String} {metadata : Metadata}
    {report : Document} (hlines : metadata.linesScanned = (ending.lines text).length)
    (hreport : document (.ofText ending text) metadata = .ok report) :
    (Accounts report.byResource report.totalRejections ∧
        Accounts report.byTest report.totalRejections ∧
        Accounts report.byFormat report.uniqueResources) ∧
      report.byResource.length = report.uniqueResources ∧
      (report.byResource.map Entry.name).Nodup ∧ (report.byTest.map Entry.name).Nodup ∧
      (report.uniqueResources ≤ report.totalRejections ∧
        report.totalRejections ≤ report.metadata.linesScanned) ∧
      (∀ entry ∈ report.byResource ++ report.byTest ++ report.byFormat,
        entry.count ≤ report.metadata.linesScanned) ∧
      report.metadata.linesScanned ≤ text.length + 1 := by
  have hnames : (report.byResource.map Entry.name).Nodup ∧ (report.byTest.map Entry.name).Nodup ∧
      report.metadata = metadata := by
    obtain ⟨_, _, rfl⟩ := document_eq_ok_iff.1 hreport
    exact ⟨nodup_names_entriesOf_id _, nodup_names_entriesOf_id _, rfl⟩
  obtain ⟨hresourceNames, htestNames, hmetadata⟩ := hnames
  rw [Tallies.ofText_eq_ofRejections] at hreport
  obtain ⟨htotal, hresource, htest, hformat, hlength⟩ := accounts_of_ofRejections hreport
  rw [← htotal] at hresource htest
  have hunique : report.uniqueResources ≤ report.totalRejections := hlength ▸ hresource.length_le
  have hscanned : report.totalRejections ≤ report.metadata.linesScanned := by
    rw [htotal, hmetadata, hlines]
    exact Scan.length_rejections_le _ _
  refine ⟨⟨hresource, htest, hformat⟩, hlength, hresourceNames, htestNames,
    ⟨hunique, hscanned⟩, ?_, ?_⟩
  · intro entry hentry
    rcases List.mem_append.1 hentry with hentry | hentry
    · rcases List.mem_append.1 hentry with hentry | hentry
      · exact Nat.le_trans (hresource.count_le entry hentry) hscanned
      · exact Nat.le_trans (htest.count_le entry hentry) hscanned
    · exact Nat.le_trans (hformat.count_le entry hentry) (Nat.le_trans hunique hscanned)
  · rw [hmetadata, hlines]
    exact ending.length_lines_le text

/-- Three rejections during two tests, two of them of the same resource. -/
theorem document_conserves_repeated_resource :
    let lines := [
      "RUN] a/", "Resource alignment, resource : \x7b\"Format\": 10\x7d",
      "RUN] b/", "Resource alignment, resource : \x7b\"Format\": 12\x7d",
      "Resource alignment, resource : \x7b\"Format\": 10\x7d"]
    let log := "\n".intercalate lines
    5 = (LineEnding.lf.lines log).length ∧
      ∃ report, document (.ofText .lf log) { linesScanned := 5 } = .ok report ∧
        report.totalRejections = 3 ∧ Entry.total report.byTest = 3 ∧
        Entry.total report.byFormat = 2 := by
  intro lines log
  have hlines : LineEnding.lf.lines log = lines :=
    LineEnding.lines_intercalate (by decide) (by decide) (by decide)
  have htallies : Tallies.ofText .lf log =
      ⟨⟨[("\x7b\"Format\": 10\x7d", 2), ("\x7b\"Format\": 12\x7d", 1)], by decide⟩,
        ⟨[("a", 1), ("b", 2)], by decide⟩⟩ := by
    rw [Tallies.ofText, hlines]
    decide +kernel
  have hformats : (Tallies.ofText .lf log).formatCounts =
      .ok ⟨[(⟨"10", "10"⟩, 1), (⟨"12", "12"⟩, 1)], by decide⟩ := by
    rw [htallies]
    decide +kernel
  have hreport : document (.ofText .lf log) { linesScanned := 5 } = .ok (documentOf _ _ _) :=
    document_eq_ok_iff.2 ⟨_, hformats, rfl⟩
  have hscanned : 5 = (LineEnding.lf.lines log).length := by
    rw [hlines]
    rfl
  have htotal : (Tallies.ofText .lf log).totalRejections = 3 := by
    rw [htallies]
    rfl
  have hunique : (Tallies.ofText .lf log).uniqueResources = 2 := by
    rw [htallies]
    rfl
  obtain ⟨⟨-, htest, hformat⟩, -⟩ := document_conserves hscanned hreport
  refine ⟨hscanned, _, hreport, ?_, ?_, ?_⟩
  · rw [documentOf, htotal]
  · rw [htest.total_eq, documentOf, htotal]
  · rw [hformat.total_eq, documentOf, hunique]

end Report

end AlignmentTally
