import AlignmentTally.Proofs.Partition
import AlignmentTally.Proofs.PlainReport
import AlignmentTally.Proofs.Ranking

/-!
# Rejections in another order

Tallies count rejections, and how often something occurs does not depend on the order. Only where
the keys stand does: each at its first occurrence. So the tallies of the same rejections in another
order are equal as maps (`Counts.SameMap`), and all that is said of them here follows from that.

## What equal maps share

* They have the same entries in some order. Ascending by count, these are the same list but for
  the order of ties (`SameUpToTies`), and so are the listings in a report.
* There are formats exactly when each key of the resources has one, which is a matter of the keys
  alone (`Tallies.exists_formatCounts_of_perm`).
* A format is counted for the keys that have it, so the formats are equal as maps again
  (`Tallies.sameMap_formatCounts`).

`Tallies.ofRejections_in_any_order` starts from a permutation of rejections, goes over to equal maps
(`Counts.sameMap_tally`) and collects these. The plain reports need nothing of their own: each is
the document in plain words.

## What does depend on the order

Two things do: which of two ties is listed first, and which faulty descriptor is named. The first is
what `SameUpToTies` leaves open. Of the second it is said only that both reports fail or none does.
-/

namespace AlignmentTally

/-! ### Equal but for the order of ties -/

section Rank

variable {α β : Type} {rank : α → Nat}

/-- Lists that are equal but for the order of items of equal rank: the same ranks at the same
places, and the same items of each rank. -/
structure SameUpToTies (rank : α → Nat) (items others : List α) : Prop where
  /-- The ranks are the same at all places. -/
  map_rank_eq : items.map rank = others.map rank
  /-- The items of each rank are the same, in some order. -/
  perm_ofRank : ∀ n, (ofRank rank n items).Perm (ofRank rank n others)

/-- Ascending lists of the same items are equal but for the order of ties. -/
theorem SameUpToTies.of_perm {items others : List α} (hperm : items.Perm others)
    (hitems : items.Pairwise fun a b ↦ rank a ≤ rank b)
    (hothers : others.Pairwise fun a b ↦ rank a ≤ rank b) : SameUpToTies rank items others where
  map_rank_eq :=
    (hperm.map rank).eq_of_pairwise (fun _ _ _ _ hab hba ↦ Nat.le_antisymm hab hba)
      (List.pairwise_map.2 hitems) (List.pairwise_map.2 hothers)
  perm_ofRank _ := hperm.filter _

/-- What keeps ranks keeps ties. -/
theorem SameUpToTies.map {rankImage : β → Nat} {items others : List α}
    (h : SameUpToTies rank items others) (f : α → β) (hrank : ∀ item, rankImage (f item) = rank item) :
    SameUpToTies rankImage (items.map f) (others.map f) where
  map_rank_eq := by
    have hcomp : rankImage ∘ f = rank := funext hrank
    rw [List.map_map, List.map_map, hcomp, h.map_rank_eq]
  perm_ofRank n := by
    have hcomp : (fun image ↦ decide (rankImage image = n)) ∘ f = fun item ↦ decide (rank item = n) :=
      funext fun item ↦ by rw [Function.comp_apply, hrank]
    rw [ofRank, ofRank, List.filter_map, List.filter_map, hcomp]
    exact (h.perm_ofRank n).map f

end Rank

/-! ### Equal as maps -/

namespace Counts

variable {κ : Type} [DecidableEq κ]

/-- Counts that are equal as maps: the order of their keys is left open. -/
structure SameMap (counts other : Counts κ) : Prop where
  /-- The keys are the same. -/
  mem_keys_iff : ∀ key, key ∈ counts.keys ↔ key ∈ other.keys
  /-- Each key has the same count. -/
  count_eq : ∀ key, counts.count key = other.count key

/-- Tallies of the same keys in another order are equal as maps. -/
theorem sameMap_tally {keys others : List κ} (hperm : keys.Perm others) :
    (tally keys).SameMap (tally others) where
  mem_keys_iff key := by rw [mem_keys_tally, mem_keys_tally, hperm.mem_iff]
  count_eq key := by rw [count_tally, count_tally, hperm.count_eq]

namespace SameMap

variable {counts other : Counts κ}

theorem perm_keys (h : counts.SameMap other) : counts.keys.Perm other.keys :=
  (List.perm_ext_iff_of_nodup counts.nodup_keys other.nodup_keys).2 h.mem_keys_iff

theorem perm_entries (h : counts.SameMap other) : counts.entries.Perm other.entries := by
  rw [entries_eq_map_keys counts, entries_eq_map_keys other]
  simp only [h.count_eq]
  exact h.perm_keys.map _

theorem size_eq (h : counts.SameMap other) : counts.size = other.size := h.perm_entries.length_eq

theorem total_eq (h : counts.SameMap other) : counts.total = other.total := by
  refine h.perm_entries.foldr_eq' (fun a _ b _ sum ↦ ?_) 0
  omega

/-- Equal maps are listed alike but for the order of ties. -/
theorem sameUpToTies_ranked (h : counts.SameMap other) :
    SameUpToTies Prod.snd counts.ranked other.ranked :=
  .of_perm ((counts.ranked_perm.trans h.perm_entries).trans other.ranked_perm.symm)
    counts.pairwise_ranked other.pairwise_ranked

theorem sameUpToTies_entriesOf (h : counts.SameMap other) (name : κ → String) :
    SameUpToTies Report.Entry.count (Report.entriesOf name counts)
      (Report.entriesOf name other) :=
  h.sameUpToTies_ranked.map _ fun _ ↦ rfl

end SameMap

end Counts

namespace Tallies

/-! ### Formats -/

section Formats

variable {tallies other : Tallies} {formats : Counts Format}

/-- With the same distinct descriptors there are formats for both tallies or for neither. -/
theorem exists_formatCounts_of_perm
    (hperm : tallies.byResource.keys.Perm other.byResource.keys)
    (h : tallies.formatCounts = .ok formats) : ∃ formats, other.formatCounts = .ok formats := by
  refine exists_formatCounts fun descriptor hdescriptor ↦ ?_
  obtain ⟨named, hnamed, -⟩ := formatCounts_eq_ok_iff.1 h
  obtain ⟨format, -, hformat⟩ :=
    exists_left_of_mem hnamed.flip (hperm.mem_iff.2 hdescriptor)
  exact ⟨format, hformat⟩

/-- The formats of the same distinct descriptors are equal as maps. -/
theorem sameMap_formatCounts {otherFormats : Counts Format}
    (hperm : tallies.byResource.keys.Perm other.byResource.keys)
    (h : tallies.formatCounts = .ok formats) (hother : other.formatCounts = .ok otherFormats) :
    formats.SameMap otherFormats where
  mem_keys_iff format := by
    simp only [mem_keys_formatCounts_iff h, mem_keys_formatCounts_iff hother, hperm.mem_iff]
  count_eq format := by
    rw [count_formatCounts h, count_formatCounts hother]
    exact hperm.countP_eq _

end Formats

end Tallies

/-! ### Reports -/

namespace Report

/-- Reports with the same numbers, whose sections are equal but for the order of ties. -/
structure Document.SameUpToTies (report other : Document) : Prop where
  uniqueResources_eq : report.uniqueResources = other.uniqueResources
  totalRejections_eq : report.totalRejections = other.totalRejections
  byResource : AlignmentTally.SameUpToTies Entry.count report.byResource other.byResource
  byTest : AlignmentTally.SameUpToTies Entry.count report.byTest other.byTest
  byFormat : AlignmentTally.SameUpToTies Entry.count report.byFormat other.byFormat

end Report

namespace Tallies

/-- Tallies that differ in nothing but the order of keys and what follows from it. -/
structure SameUpToOrder (tallies other : Tallies) : Prop where
  byResource : tallies.byResource.SameMap other.byResource
  byTest : tallies.byTest.SameMap other.byTest
  uniqueResources_eq : tallies.uniqueResources = other.uniqueResources
  totalRejections_eq : tallies.totalRejections = other.totalRejections
  /-- There are formats for both or for neither. -/
  exists_formatCounts_iff : (∃ formats, tallies.formatCounts = .ok formats) ↔
    ∃ formats, other.formatCounts = .ok formats
  /-- Each format has the same count. -/
  formats : ∀ {formats otherFormats}, tallies.formatCounts = .ok formats →
    other.formatCounts = .ok otherFormats → formats.SameMap otherFormats
  /-- Reports are equal but for the order of ties, whatever they say about themselves. -/
  documents : ∀ {metadata otherMetadata report otherReport},
    Report.document tallies metadata = .ok report →
    Report.document other otherMetadata = .ok otherReport → report.SameUpToTies otherReport

/-- Tallies whose maps are equal differ in nothing but the order. -/
theorem SameUpToOrder.of_sameMap {tallies other : Tallies}
    (hresource : tallies.byResource.SameMap other.byResource)
    (htest : tallies.byTest.SameMap other.byTest) : tallies.SameUpToOrder other where
  byResource := hresource
  byTest := htest
  uniqueResources_eq := hresource.size_eq
  totalRejections_eq := hresource.total_eq
  exists_formatCounts_iff :=
    ⟨fun ⟨_, h⟩ ↦ exists_formatCounts_of_perm hresource.perm_keys h,
      fun ⟨_, h⟩ ↦ exists_formatCounts_of_perm hresource.perm_keys.symm h⟩
  formats := sameMap_formatCounts hresource.perm_keys
  documents := by
    intro metadata otherMetadata report otherReport hreport hotherReport
    obtain ⟨formats, hformats, rfl⟩ := Report.document_eq_ok_iff.1 hreport
    obtain ⟨otherFormats, hotherFormats, rfl⟩ := Report.document_eq_ok_iff.1 hotherReport
    have hformat := sameMap_formatCounts hresource.perm_keys hformats hotherFormats
    exact {
      uniqueResources_eq := hresource.size_eq
      totalRejections_eq := hresource.total_eq
      byResource := hresource.sameUpToTies_entriesOf id
      byTest := htest.sameUpToTies_entriesOf id
      byFormat := hformat.sameUpToTies_entriesOf Format.label }

/-- A count in the tallies of some rejections is that of a rejection. -/
theorem ne_zero_of_mem_ofRejections {rejections : List Rejection} {entry : String × Nat}
    (h : entry ∈ (ofRejections rejections).byResource.entries ++
      (ofRejections rejections).byTest.entries) : entry.2 ≠ 0 := by
  rw [byResource_ofRejections, byTest_ofRejections, List.mem_append] at h
  rcases h with h | h <;> exact Nat.one_le_iff_ne_zero.1 (Counts.one_le_of_mem_tally h)

/-- **Tallies are multiplicities, and the order of rejections hardly matters.** The tallies of some
rejections count each descriptor and each test as often as it occurs, list the keys in order of
first occurrence, and both add up to the number of rejections. The same rejections in another order
have equal maps, the same numbers, formats with the same counts or none as well, and reports that
are equal but for the order of ties. The plain reports are these reports in plain words. -/
theorem ofRejections_in_any_order (rejections : List Rejection) :
    ((ofRejections rejections).byResource.OfPositions rejections.length
          (fun i ↦ rejections[i]?.map Rejection.descriptor) ∧
        (ofRejections rejections).byTest.OfPositions rejections.length
          (fun i ↦ rejections[i]?.map Rejection.test)) ∧
      ((∀ descriptor, (ofRejections rejections).byResource.count descriptor =
          rejections.countP fun rejection ↦ rejection.descriptor = descriptor) ∧
        ∀ test, (ofRejections rejections).byTest.count test =
          rejections.countP fun rejection ↦ rejection.test = test) ∧
      (∀ entry ∈ (ofRejections rejections).byResource.entries ++
        (ofRejections rejections).byTest.entries, entry.2 ≠ 0) ∧
      ((ofRejections rejections).byResource.total = rejections.length ∧
        (ofRejections rejections).byTest.total = rejections.length) ∧
      ((ofRejections rejections).isEmpty ↔ rejections = []) ∧
      ∀ others, rejections.Perm others →
        (ofRejections rejections).SameUpToOrder (ofRejections others) ∧
        ∀ metadata, Report.text (ofRejections others) =
          (Report.document (ofRejections others) metadata).map Report.Document.plain := by
  refine ⟨⟨?_, ?_⟩, ⟨fun descriptor ↦ ?_, fun test ↦ ?_⟩, fun _ ↦ ne_zero_of_mem_ofRejections,
    ⟨?_, ?_⟩, ?_, fun others hperm ↦ ⟨?_, Report.text_eq_map_plain others⟩⟩
  · rw [byResource_ofRejections]
    exact Counts.ofPositions_tally_getElem? _ _
  · rw [byTest_ofRejections]
    exact Counts.ofPositions_tally_getElem? _ _
  · rw [byResource_ofRejections, Counts.count_tally, List.count, List.countP_map]
    rfl
  · rw [byTest_ofRejections, Counts.count_tally, List.count, List.countP_map]
    rfl
  · rw [byResource_ofRejections, Counts.total_tally, List.length_map]
  · rw [byTest_ofRejections, Counts.total_tally, List.length_map]
  · rw [isEmpty, byResource_ofRejections, Counts.isEmpty_tally, List.isEmpty_map,
      List.isEmpty_iff]
  · refine .of_sameMap ?_ ?_
    · rw [byResource_ofRejections, byResource_ofRejections]
      exact Counts.sameMap_tally (hperm.map _)
    · rw [byTest_ofRejections, byTest_ofRejections]
      exact Counts.sameMap_tally (hperm.map _)

/-- Two rejections in either order: the maps have their keys in another order, and the tallies are
the same but for that. -/
theorem ofRejections_in_any_order_ties :
    let rejections : List Rejection := [⟨"\x7b\x7d", "T1"⟩, ⟨"[]", "T2"⟩]
    let others : List Rejection := [⟨"[]", "T2"⟩, ⟨"\x7b\x7d", "T1"⟩]
    rejections.Perm others ∧
      (ofRejections rejections).byResource.keys ≠ (ofRejections others).byResource.keys ∧
      (ofRejections rejections).SameUpToOrder (ofRejections others) := by
  intro rejections others
  have hperm : rejections.Perm others := .swap _ _ _
  refine ⟨hperm, by decide, ?_⟩
  obtain ⟨-, -, -, -, -, reordered⟩ := ofRejections_in_any_order rejections
  exact (reordered others hperm).1

end Tallies

end AlignmentTally
