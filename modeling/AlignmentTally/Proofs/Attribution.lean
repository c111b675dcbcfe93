import AlignmentTally.Proofs.Counting
import AlignmentTally.Tallies

/-!
# Which rejection counts for which test

A pass over lines records a list of rejections, each with the test that is running when it is
reported (`Scan.rejections`); its tallies are those of that list (`Scan.tallies_run`), so what is
said of tallies of lists holds of the tallies of a log. The list depends on what was read before
only through the name of the running test (`Scan.rejections_append`), and it is no longer than the
lines (`Scan.length_rejections_le`).

## The log by position

Against this stands the log read by position, without a state. `testAt` is the name on the last
line, up to and including a position, that announces a test. The rejections of the pass are those at
the positions of the log in order (`Scan.rejections_take`), each with the test at its own position.

## What the main result rests on

`Tallies.ofText_ofPositions` says what a line counts for.

* That each line counts once, and for the descriptor on it, rests on one step of the pass
  (`Scan.step_eq`), which records at most one rejection.
* That a name counts from the line that announces it rests on the order within a step: the name is
  taken before the rejection is recorded. It shows where a line holds both
  (`Tallies.ofText_ofPositions_announcing_line`).
* The order of the keys rests on `Counts.ofPositions_tally` and needs nothing of the markers.

What the markers see on a line is left to `AlignmentTally.Proofs.Captures`. Nothing in this module
would change if they looked for something else.
-/

namespace AlignmentTally

/-- A rejection during a test. -/
structure Rejection where
  /-- The descriptor of the rejected resource. -/
  descriptor : String
  /-- The test that was running. -/
  test : String
  deriving DecidableEq, Repr, Inhabited

namespace Tallies

/-- The tallies after some more rejections. -/
def recordAll (tallies : Tallies) (rejections : List Rejection) : Tallies :=
  rejections.foldl (fun tallies rejection ↦ tallies.record rejection.descriptor rejection.test)
    tallies

/-- The tallies of some rejections. -/
def ofRejections (rejections : List Rejection) : Tallies := empty.recordAll rejections

theorem byResource_recordAll (tallies : Tallies) (rejections : List Rejection) :
    (tallies.recordAll rejections).byResource =
      (rejections.map Rejection.descriptor).foldl Counts.bump tallies.byResource := by
  induction rejections generalizing tallies with
  | nil => rfl
  | cons rejection rest ih => exact ih (tallies.record rejection.descriptor rejection.test)

theorem byTest_recordAll (tallies : Tallies) (rejections : List Rejection) :
    (tallies.recordAll rejections).byTest =
      (rejections.map Rejection.test).foldl Counts.bump tallies.byTest := by
  induction rejections generalizing tallies with
  | nil => rfl
  | cons rejection rest ih => exact ih (tallies.record rejection.descriptor rejection.test)

/-- The resources of some rejections are the tally of their descriptors. -/
theorem byResource_ofRejections (rejections : List Rejection) :
    (ofRejections rejections).byResource = .tally (rejections.map Rejection.descriptor) :=
  byResource_recordAll empty rejections

/-- The tests of some rejections are the tally of their tests. -/
theorem byTest_ofRejections (rejections : List Rejection) :
    (ofRejections rejections).byTest = .tally (rejections.map Rejection.test) :=
  byTest_recordAll empty rejections

end Tallies

/-! ### The rejections of a pass -/

namespace Scan

/-- The test that runs after some lines, if `test` ran before them. -/
def runningTest (test : String) (lines : List String) : String :=
  lines.foldl (fun test line ↦ (Marker.testName? line).getD test) test

/-- The rejection on a line, if `test` runs before it. -/
def rejection? (test line : String) : Option Rejection :=
  (Marker.rejectedDescriptor? line).map fun descriptor ↦
    ⟨descriptor, (Marker.testName? line).getD test⟩

/-- The rejections on lines, if `test` runs before them. -/
def rejections (test : String) : List String → List Rejection
  | [] => []
  | line :: rest =>
    (rejection? test line).toList ++ rejections ((Marker.testName? line).getD test) rest

theorem step_eq (scan : Scan) (line : String) :
    scan.step line = ⟨(Marker.testName? line).getD scan.test,
      scan.tallies.recordAll (rejection? scan.test line).toList⟩ := by
  rw [step, rejection?]
  cases Marker.rejectedDescriptor? line <;> rfl

/-- The pass after some lines, in terms of the test that runs then and the rejections on them. -/
theorem run_eq (scan : Scan) (lines : List String) :
    scan.run lines = ⟨runningTest scan.test lines,
      scan.tallies.recordAll (rejections scan.test lines)⟩ := by
  induction lines generalizing scan with
  | nil => rfl
  | cons line rest ih =>
    have hrest := ih (scan.step line)
    rw [step_eq] at hrest
    calc scan.run (line :: rest)
        = (scan.step line).run rest := rfl
      _ = _ := by
        rw [step_eq, hrest, rejections, Tallies.recordAll, Tallies.recordAll, Tallies.recordAll,
          List.foldl_append]
        rfl

/-- **The tallies of a pass are those of its rejections.** -/
theorem tallies_run (scan : Scan) (lines : List String) :
    (scan.run lines).tallies = scan.tallies.recordAll (rejections scan.test lines) := by
  rw [run_eq]

theorem runningTest_append (test : String) (before after : List String) :
    runningTest test (before ++ after) = runningTest (runningTest test before) after :=
  List.foldl_append

/-- What was read before matters for further rejections only through the running test. -/
theorem rejections_append (test : String) (before after : List String) :
    rejections test (before ++ after) =
      rejections test before ++ rejections (runningTest test before) after := by
  induction before generalizing test with
  | nil => rfl
  | cons line before ih =>
    rw [List.cons_append, rejections, ih, rejections, List.append_assoc]
    rfl

/-- The descriptors of the rejections are those that the lines report, whatever tests run. -/
theorem map_descriptor_rejections (test : String) (lines : List String) :
    (rejections test lines).map Rejection.descriptor =
      lines.filterMap Marker.rejectedDescriptor? := by
  induction lines generalizing test with
  | nil => rfl
  | cons line rest ih =>
    rw [rejections, List.map_append, ih, List.filterMap_cons, rejection?]
    cases Marker.rejectedDescriptor? line <;> rfl

/-- A line reports at most one rejection. -/
theorem length_rejections_le (test : String) (lines : List String) :
    (rejections test lines).length ≤ lines.length := by
  rw [← List.length_map (f := Rejection.descriptor), map_descriptor_rejections]
  exact List.length_filterMap_le _ _

/-- A rejection counts for the test that ran before the lines or for one that a line announces. -/
theorem test_of_mem_rejections {test : String} {lines : List String} {rejection : Rejection}
    (h : rejection ∈ rejections test lines) :
    rejection.test = test ∨ ∃ line ∈ lines, Marker.testName? line = some rejection.test := by
  induction lines generalizing test with
  | nil => cases h
  | cons line rest ih =>
    -- the test that runs after the first line, which is the one it announces if it announces one
    have hrunning : ∀ name, name = (Marker.testName? line).getD test →
        name = test ∨ ∃ other ∈ line :: rest, Marker.testName? other = some name := by
      intro name hname
      cases hannounced : Marker.testName? line with
      | none => exact Or.inl (by rw [hname, hannounced, Option.getD_none])
      | some announced =>
        rw [hannounced, Option.getD_some] at hname
        exact Or.inr ⟨line, List.mem_cons_self, by rw [hannounced, hname]⟩
    rw [rejections] at h
    rcases List.mem_append.1 h with h | h
    · obtain ⟨descriptor, -, rfl⟩ := Option.map_eq_some_iff.1 (Option.mem_toList.1 h)
      exact hrunning _ rfl
    · rcases ih h with h | ⟨other, hother, h⟩
      · exact hrunning _ h
      · exact Or.inr ⟨other, List.mem_cons_of_mem _ hother, h⟩

/-- The running test is the last one announced, and the one before the lines if there is none. -/
theorem runningTest_eq_findSome? (test : String) (lines : List String) :
    runningTest test lines = (lines.reverse.findSome? Marker.testName?).getD test := by
  induction lines generalizing test with
  | nil => rfl
  | cons line rest ih =>
    have hrest := ih ((Marker.testName? line).getD test)
    rw [List.reverse_cons, List.findSome?_append, List.findSome?_singleton]
    rw [runningTest, List.foldl_cons, ← runningTest, hrest]
    cases rest.reverse.findSome? Marker.testName? <;> rfl

end Scan

theorem Tallies.ofText_eq_ofRejections (ending : LineEnding) (text : String) :
    ofText ending text = ofRejections (Scan.rejections "" (ending.lines text)) :=
  Scan.tallies_run {} (ending.lines text)

/-- The resources of a log are the tally of the descriptors that its lines report. -/
theorem Tallies.byResource_ofText (ending : LineEnding) (text : String) :
    (ofText ending text).byResource =
      .tally ((ending.lines text).filterMap Marker.rejectedDescriptor?) := by
  rw [ofText_eq_ofRejections, byResource_ofRejections, Scan.map_descriptor_rejections]

/-! ### The log by position -/

/-- The test that the line at a position announces. -/
def nameAt (lines : List String) (i : Nat) : Option String := lines[i]?.bind Marker.testName?

/-- The descriptor that the line at a position reports. -/
def descriptorAt (lines : List String) (i : Nat) : Option String :=
  lines[i]?.bind Marker.rejectedDescriptor?

/-- The test at a position: the name on the last line up to and including the one at the position
that announces a test, and the empty name if there is none. -/
def testAt (lines : List String) (i : Nat) : String :=
  ((lines.take (i + 1)).reverse.findSome? Marker.testName?).getD ""

/-- The test at a position whose line reports a rejection. -/
def rejectingTestAt (lines : List String) (i : Nat) : Option String :=
  (descriptorAt lines i).map fun _ ↦ testAt lines i

/-- The rejection that the line at a position reports, with the test at that position. -/
def rejectionAt (lines : List String) (i : Nat) : Option Rejection :=
  (descriptorAt lines i).map fun descriptor ↦ ⟨descriptor, testAt lines i⟩

theorem map_descriptor_rejectionAt (lines : List String) :
    (fun i ↦ (rejectionAt lines i).map Rejection.descriptor) = descriptorAt lines := by
  funext i
  rw [rejectionAt, Option.map_map]
  exact Option.map_id'

theorem map_test_rejectionAt (lines : List String) :
    (fun i ↦ (rejectionAt lines i).map Rejection.test) = rejectingTestAt lines := by
  funext i
  rw [rejectionAt, Option.map_map]
  rfl

theorem testAt_eq_runningTest (lines : List String) (i : Nat) :
    testAt lines i = Scan.runningTest "" (lines.take (i + 1)) :=
  (Scan.runningTest_eq_findSome? "" _).symm

/-- The test at a position is the one announced there, else the one that ran before. -/
theorem testAt_eq_getD {lines : List String} {i : Nat} (h : i < lines.length) :
    testAt lines i =
      (Marker.testName? lines[i]).getD (Scan.runningTest "" (lines.take i)) := by
  rw [testAt_eq_runningTest, List.take_succ_eq_append_getElem h, Scan.runningTest_append]
  rfl

/-- A name counts from the line that announces it. -/
theorem testAt_of_nameAt {lines : List String} {i : Nat} {name : String}
    (h : nameAt lines i = some name) : testAt lines i = name := by
  obtain ⟨line, hline, hname⟩ := Option.bind_eq_some_iff.1 h
  obtain ⟨hi, rfl⟩ := List.getElem?_eq_some_iff.1 hline
  rw [testAt_eq_getD hi, hname, Option.getD_some]

/-- **The rejections of a pass are those at the positions of the log**, in their order. The
induction is on how many lines were read: the test that runs before a line is all that it needs to
know of them. -/
theorem Scan.rejections_take (lines : List String) {n : Nat} (h : n ≤ lines.length) :
    rejections "" (lines.take n) = (List.range n).filterMap (rejectionAt lines) := by
  induction n with
  | zero => rfl
  | succ n ih =>
    have hn : n < lines.length := h
    have hlast : rejection? (runningTest "" (lines.take n)) lines[n] = rejectionAt lines n := by
      rw [rejection?, rejectionAt, descriptorAt, List.getElem?_eq_getElem hn, Option.bind_some,
        testAt_eq_getD hn]
    rw [List.take_succ_eq_append_getElem hn, rejections_append, ih (Nat.le_of_lt hn),
      List.range_succ, List.filterMap_append, rejections, rejections, hlast, List.append_nil,
      List.filterMap_cons]
    cases rejectionAt lines n <;> rfl

theorem Tallies.ofText_eq_positions (ending : LineEnding) (text : String) :
    ofText ending text = ofRejections
      ((List.range (ending.lines text).length).filterMap (rejectionAt (ending.lines text))) := by
  rw [ofText_eq_ofRejections, ← Scan.rejections_take _ (Nat.le_refl _), List.take_length]

/-- **Tallies count lines.** The count of a descriptor is the number of lines that report it, and
the count of a test the number of lines that report a rejection while it runs, the line that
announces it included. Only what is counted is listed, once, in the order of the first line that
counts for it, so a test without rejections is not listed. -/
theorem Tallies.ofText_ofPositions (ending : LineEnding) (text : String) :
    (ofText ending text).byResource.OfPositions (ending.lines text).length
        (descriptorAt (ending.lines text)) ∧
      (ofText ending text).byTest.OfPositions (ending.lines text).length
        (rejectingTestAt (ending.lines text)) ∧
      (∀ i name, nameAt (ending.lines text) i = some name →
        testAt (ending.lines text) i = name) ∧
      ∀ name, (∀ i, rejectingTestAt (ending.lines text) i ≠ some name) →
        name ∉ (ofText ending text).byTest.keys := by
  have hresource : (ofText ending text).byResource.OfPositions (ending.lines text).length
      (descriptorAt (ending.lines text)) := by
    rw [ofText_eq_positions, byResource_ofRejections, ← map_descriptor_rejectionAt]
    exact Counts.ofPositions_tally_map _ _ _
  have htest : (ofText ending text).byTest.OfPositions (ending.lines text).length
      (rejectingTestAt (ending.lines text)) := by
    rw [ofText_eq_positions, byTest_ofRejections, ← map_test_rejectionAt]
    exact Counts.ofPositions_tally_map _ _ _
  refine ⟨hresource, htest, fun i name h ↦ testAt_of_nameAt h, fun name h hmem ↦ ?_⟩
  obtain ⟨i, -, hi⟩ := htest.exists_of_mem hmem
  exact h i hi

/-- A line may announce a test and report a rejection. The rejection counts for the test that the
line announces, not for the one before it. -/
theorem Tallies.ofText_ofPositions_announcing_line :
    let text := "RUN] old/\nRUN] new/ Resource alignment, resource : \x7b\x7d"
    nameAt (LineEnding.lf.lines text) 1 = some "new" ∧
      testAt (LineEnding.lf.lines text) 1 = "new" ∧
      (ofText .lf text).byTest.count "new" = 1 ∧ "old" ∉ (ofText .lf text).byTest.keys := by
  intro text
  have hname : nameAt (LineEnding.lf.lines text) 1 = some "new" := by decide
  obtain ⟨-, htests, hnames, -⟩ := ofText_ofPositions .lf text
  refine ⟨hname, hnames 1 "new" hname, ?_, ?_⟩
  · rw [htests.count_eq]
    decide
  · rw [htests.mem_keys_iff]
    decide

end AlignmentTally
