import AlignmentTally.Proofs.Attribution
import AlignmentTally.Proofs.Lines

/-!
# Logs put end to end

A pass over two logs that are joined by a terminator is a pass over the first and then, from where
that left off, over the second, because the terminator is a seam of the cut. Where it left off is
the tallies of the first log and the name of the test that ran at its end (`lastTest`).

## Counting on

A pass counts on from the counts it starts with, and what it counts is the same as if it had started
with none: the result is the sum of two counts (`Counts.IsSum`). The sum keeps the order of keys,
with those of the first counts before the new ones of the second. This is all there is to say of
resources, and it rests on `Counts.foldl_bump` and on the seam.

## The test that is carried over

The tests of the second log depend on the name that was carried over. They do not in two cases,
which are the two conditions of `Tallies.ofText_append`.

* **Each rejection comes after an announcement** (`Scan.AnnouncedFirst`). Then no rejection of the
  second log counts for the name that was carried over, whatever it is
  (`Scan.rejections_of_announcedFirst`).
* **There is no name to carry**, because the first log announces none. Then the second pass starts
  as any pass does.

A seam is a terminator of the line ending in use. At a seam of another kind a line of the first log
and one of the second may become one line, and nothing is claimed.
-/

namespace AlignmentTally

namespace Counts

variable {κ : Type} [DecidableEq κ]

/-- A key counts in `whole` as often as in two counts together. The keys of the first stand in
front in their order, and the keys that only the second has follow in theirs. -/
structure IsSum (whole first second : Counts κ) : Prop where
  /-- The keys of the first counts, then the new ones of the second. -/
  keys_eq : whole.keys = first.keys ++ second.keys.filter (· ∉ first.keys)
  /-- Each key counts as often as in both. -/
  count_eq : ∀ key, whole.count key = first.count key + second.count key

namespace IsSum

variable {whole first second : Counts κ}

theorem mem_keys_iff (h : whole.IsSum first second) {key : κ} :
    key ∈ whole.keys ↔ key ∈ first.keys ∨ key ∈ second.keys := by
  rw [h.keys_eq, List.mem_append, List.mem_filter, decide_eq_true_eq]
  by_cases hfirst : key ∈ first.keys <;> simp [hfirst]

/-- Nothing is added by no counts. -/
theorem empty (counts : Counts κ) : counts.IsSum counts .empty where
  keys_eq := by simp
  count_eq key := by rw [count_empty, Nat.add_zero]

/-- Counting a key once more in the second counts is counting it once more in the sum. -/
theorem bump (h : whole.IsSum first second) (key : κ) :
    (whole.bump key).IsSum first (second.bump key) where
  keys_eq := by
    by_cases hsecond : key ∈ second.keys
    · rw [keys_bump_of_mem hsecond, keys_bump_of_mem (h.mem_keys_iff.2 (Or.inr hsecond)), h.keys_eq]
    · rw [keys_bump_of_notMem hsecond, List.filter_append]
      by_cases hfirst : key ∈ first.keys
      · rw [keys_bump_of_mem (h.mem_keys_iff.2 (Or.inl hfirst)), h.keys_eq]
        simp [hfirst]
      · have hwhole : key ∉ whole.keys := fun hmem ↦ (h.mem_keys_iff.1 hmem).elim hfirst hsecond
        rw [keys_bump_of_notMem hwhole, h.keys_eq]
        simp [hfirst]
  count_eq other := by
    rw [count_bump, count_bump, h.count_eq, h.count_eq]
    split
    · next hkey =>
      subst hkey
      omega
    · rfl

/-- **Counting on is adding.** Keys that are counted from some counts on add their tally to them. -/
theorem foldl_bump (counts : Counts κ) (keys : List κ) :
    (keys.foldl Counts.bump counts).IsSum counts (tally keys) := by
  induction keys using List.reverseRecOn with
  | nil => exact .empty counts
  | append_singleton keys key ih =>
    rw [List.foldl_append, tally_concat]
    exact ih.bump key

end IsSum

end Counts

/-! ### The test that is carried over -/

namespace Scan

/-- The test that runs at the end of some lines: the last one announced, and the empty name if
there is none. -/
def lastTest (lines : List String) : String :=
  (lines.reverse.findSome? Marker.testName?).getD ""

theorem lastTest_eq_runningTest (lines : List String) : lastTest lines = runningTest "" lines :=
  (runningTest_eq_findSome? "" lines).symm

/-- Each line that reports a rejection announces a test or comes after a line that does. -/
def AnnouncedFirst (lines : List String) : Prop :=
  ∀ i, (descriptorAt lines i).isSome → ∃ j ≤ i, (nameAt lines j).isSome

/-- Beyond the lines there are no descriptors. -/
instance : DecidablePred AnnouncedFirst := fun lines ↦
  decidable_of_iff (∀ i < lines.length, (descriptorAt lines i).isSome →
      ∃ j < i + 1, (nameAt lines j).isSome) <| by
    simp only [Nat.lt_succ_iff]
    refine ⟨fun h i hi ↦ h i ?_ hi, fun h i _ ↦ h i⟩
    by_contra hlength
    rw [descriptorAt, List.getElem?_eq_none (Nat.le_of_not_lt hlength)] at hi
    cases hi

/-- After a first line that announces nothing, announcements still come first. -/
theorem AnnouncedFirst.of_cons {line : String} {rest : List String}
    (h : AnnouncedFirst (line :: rest)) (hline : Marker.testName? line = none) :
    AnnouncedFirst rest := by
  intro i hi
  obtain ⟨j, hj, hname⟩ := h (i + 1) hi
  cases j with
  | zero =>
    rw [show nameAt (line :: rest) 0 = none from hline] at hname
    cases hname
  | succ j => exact ⟨j, Nat.le_of_succ_le_succ hj, hname⟩

/-- **If announcements come first, it does not matter which test ran before.** -/
theorem rejections_of_announcedFirst {lines : List String} (h : AnnouncedFirst lines)
    (test other : String) : rejections test lines = rejections other lines := by
  induction lines generalizing test other with
  | nil => rfl
  | cons line rest ih =>
    rw [rejections, rejections, rejection?, rejection?]
    cases hname : Marker.testName? line with
    | some name => rfl
    | none =>
      have hdescriptor : Marker.rejectedDescriptor? line = none := by
        by_contra hne
        obtain ⟨j, hj, hj'⟩ := h 0 (Option.isSome_iff_ne_none.2 hne)
        obtain rfl := Nat.le_zero.1 hj
        rw [show nameAt (line :: rest) 0 = none from hname] at hj'
        cases hj'
      rw [hdescriptor]
      exact ih (h.of_cons hname) _ _

theorem lastTest_of_forall_none {lines : List String}
    (h : ∀ line ∈ lines, Marker.testName? line = none) : lastTest lines = "" := by
  have hnone : lines.reverse.findSome? Marker.testName? = none :=
    List.findSome?_eq_none_iff.2 fun line hline ↦ h line (List.mem_reverse.1 hline)
  rw [lastTest, hnone, Option.getD_none]

end Scan

/-! ### Two logs -/

namespace Tallies

/-- The tallies of two logs that are joined, in terms of the rejections of the second. -/
theorem ofText_append_eq_recordAll (ending : LineEnding) (before after : String) :
    ofText ending (before ++ String.ofList ending.terminator ++ after) =
      (ofText ending before).recordAll
        (Scan.rejections (Scan.lastTest (ending.lines before)) (ending.lines after)) := by
  rw [ofText, ending.lines_append_terminator, Scan.run_append, Scan.tallies_run, ofText,
    Scan.run_eq, Scan.lastTest_eq_runningTest]

/-- **A pass over two logs that are joined by a terminator goes on where the first one ends.** The
resources of the whole are always those of the two logs added up. So are the tests if the second log
announces a test before it reports a rejection, or if the first log announces none. -/
theorem ofText_append (ending : LineEnding) (before after : String) :
    let joined := before ++ String.ofList ending.terminator ++ after
    ofText ending joined =
        (Scan.run ⟨Scan.lastTest (ending.lines before), ofText ending before⟩
          (ending.lines after)).tallies ∧
      (ofText ending joined).byResource.IsSum (ofText ending before).byResource
        (ofText ending after).byResource ∧
      (Scan.AnnouncedFirst (ending.lines after) ∨
          (∀ line ∈ ending.lines before, Marker.testName? line = none) →
        (ofText ending joined).byTest.IsSum (ofText ending before).byTest
          (ofText ending after).byTest) := by
  intro joined
  have hjoined := ofText_append_eq_recordAll ending before after
  refine ⟨?_, ?_, fun h ↦ ?_⟩
  · rw [Scan.tallies_run]
    exact hjoined
  · rw [hjoined, byResource_recordAll, Scan.map_descriptor_rejections,
      byResource_ofText ending after]
    exact .foldl_bump _ _
  · -- either way the rejections of the second log are those that it has on its own
    have hafter : Scan.rejections (Scan.lastTest (ending.lines before)) (ending.lines after) =
        Scan.rejections "" (ending.lines after) := by
      rcases h with h | h
      · exact Scan.rejections_of_announcedFirst h _ _
      · rw [Scan.lastTest_of_forall_none h]
    rw [hjoined, hafter, byTest_recordAll, ofText_eq_ofRejections ending after, byTest_ofRejections]
    exact .foldl_bump _ _

/-- The first log ends in `\r` and the second begins with `\n`, and the first line of the second
announces a test and reports a rejection. -/
theorem ofText_append_open_seam :
    let before := "RUN] a/\r\nResource alignment, resource : \x7b1\x7d\r"
    let after := "\nRUN] b/ Resource alignment, resource : \x7b2\x7d\r\n" ++
      "Resource alignment, resource : \x7b1\x7d"
    let whole := ofText .crlf (before ++ String.ofList LineEnding.crlf.terminator ++ after)
    Scan.AnnouncedFirst (LineEnding.crlf.lines after) ∧
      whole.byResource.keys = ["\x7b1\x7d", "\x7b2\x7d"] ∧ whole.byTest.keys = ["a", "b"] ∧
      whole.byResource.count "\x7b1\x7d" = 2 ∧ whole.byTest.count "b" = 2 := by
  intro before after whole
  have hbefore : LineEnding.crlf.lines before =
      ["RUN] a/", "Resource alignment, resource : \x7b1\x7d\r"] := by decide +kernel
  have hafter : LineEnding.crlf.lines after =
      ["\nRUN] b/ Resource alignment, resource : \x7b2\x7d",
        "Resource alignment, resource : \x7b1\x7d"] := by decide +kernel
  have hfirst : Scan.AnnouncedFirst (LineEnding.crlf.lines after) := by
    rw [hafter]
    decide +kernel
  have htallies₁ : ofText .crlf before =
      ⟨⟨[("\x7b1\x7d", 1)], by decide⟩, ⟨[("a", 1)], by decide⟩⟩ := by
    rw [ofText, hbefore]
    decide +kernel
  have htallies₂ : ofText .crlf after =
      ⟨⟨[("\x7b2\x7d", 1), ("\x7b1\x7d", 1)], by decide⟩, ⟨[("b", 2)], by decide⟩⟩ := by
    rw [ofText, hafter]
    decide +kernel
  obtain ⟨-, hresource, htest⟩ := ofText_append .crlf before after
  have htests := htest (Or.inl hfirst)
  rw [htallies₁, htallies₂] at hresource htests
  refine ⟨hfirst, hresource.keys_eq.trans (by decide), htests.keys_eq.trans (by decide), ?_, ?_⟩
  · exact (hresource.count_eq _).trans (by decide)
  · exact (htests.count_eq _).trans (by decide)

end Tallies

end AlignmentTally
