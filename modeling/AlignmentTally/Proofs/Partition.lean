import AlignmentTally.Proofs.Attribution
import AlignmentTally.Proofs.Formats
import Mathlib.Data.Finset.Card

/-!
# Formats divide the resources

The distinct descriptors of some tallies stand in an order, and each of them has a format or none
(`Tallies.formatAt`). When each of them has one, the formats divide them.

## How the descriptors are divided

* A format is counted once for each distinct descriptor that has it, however often the descriptor
  was rejected (`Tallies.count_formatCounts`). This rests on the keys of a tally being distinct.
* The formats stand in the order of the first descriptors that have them
  (`Tallies.ofPositions_formatCounts`), as the keys of any tally do.
* Nothing else in the tallies matters (`Tallies.formatCounts_congr`): the counts of resources and
  tests are never looked at.

`Tallies.formatCounts_partitions` puts these together for the tallies of a list of rejections, where
the number of distinct descriptors is that of a finite set and the count of a format the number of
its elements that have the format (`Tallies.countP_keys_ofRejections`).

## Labels are not formats

Descriptors are told apart by their text and formats by their value. So two descriptors may share a
format, and two formats may be listed under one label; they are still two. The example at the end
has a number and a string with the same label.
-/

namespace AlignmentTally

/-! ### The format at a position -/

/-- The format of a descriptor, if it has one. -/
def Format.ofDescriptor? (descriptor : String) : Option Format :=
  (Format.ofDescriptor descriptor).toOption

theorem Format.ofDescriptor?_eq_some_iff {descriptor : String} {format : Format} :
    Format.ofDescriptor? descriptor = some format ↔
      Format.ofDescriptor descriptor = .ok format :=
  toOption_eq_some_iff

namespace Tallies

variable {tallies : Tallies} {formats : Counts Format}

/-- The format of the distinct descriptor at a position. -/
def formatAt (tallies : Tallies) (i : Nat) : Option Format :=
  tallies.byResource.keys[i]?.bind Format.ofDescriptor?

/-! ### The formats of all distinct descriptors -/

/-- There are formats as soon as each distinct descriptor has one. -/
theorem exists_formatCounts
    (h : ∀ descriptor ∈ tallies.byResource.keys, ∃ format,
      Format.ofDescriptor descriptor = .ok format) :
    ∃ formats, tallies.formatCounts = .ok formats := by
  choose! format hformat using h
  have hnamed : List.Forall₂
      (fun descriptor format ↦ Format.ofDescriptor descriptor = .ok format)
      tallies.byResource.keys (tallies.byResource.keys.map format) :=
    List.forall₂_map_right_iff.2 (List.forall₂_same.2 hformat)
  exact ⟨_, formatCounts_eq_ok_iff.2 ⟨_, hnamed, rfl⟩⟩

/-- Formats that are read from each of some descriptors are the formats of those that have one. -/
theorem filterMap_ofDescriptor? {descriptors : List String} {named : List Format}
    (h : List.Forall₂ (fun descriptor format ↦ Format.ofDescriptor descriptor = .ok format)
      descriptors named) :
    descriptors.filterMap Format.ofDescriptor? = named := by
  induction h with
  | nil => rfl
  | cons hformat _ ih =>
    rw [List.filterMap_cons_some (Format.ofDescriptor?_eq_some_iff.2 hformat), ih]

/-- The formats are the tally of those of the distinct descriptors. -/
theorem eq_tally_of_formatCounts (h : tallies.formatCounts = .ok formats) :
    formats = .tally (tallies.byResource.keys.filterMap Format.ofDescriptor?) := by
  obtain ⟨named, hnamed, rfl⟩ := formatCounts_eq_ok_iff.1 h
  rw [filterMap_ofDescriptor? hnamed]

/-- Formats are counted by the positions of the distinct descriptors that have them. -/
theorem ofPositions_formatCounts (h : tallies.formatCounts = .ok formats) :
    formats.OfPositions tallies.uniqueResources tallies.formatAt := by
  rw [eq_tally_of_formatCounts h, uniqueResources, Counts.size_eq_length_keys]
  exact Counts.ofPositions_tally_filterMap _ _

/-- A format is counted for each distinct descriptor that has it. -/
theorem count_formatCounts (h : tallies.formatCounts = .ok formats) (format : Format) :
    formats.count format = tallies.byResource.keys.countP fun descriptor ↦
      Format.ofDescriptor descriptor = .ok format := by
  rw [eq_tally_of_formatCounts h, Counts.count_tally, List.count_filterMap]
  refine List.countP_congr fun descriptor _ ↦ ?_
  rw [beq_iff_eq, decide_eq_true_iff, Format.ofDescriptor?_eq_some_iff]

/-- Only the distinct descriptors and their order matter. -/
theorem formatCounts_congr {other : Tallies}
    (h : other.byResource.keys = tallies.byResource.keys) :
    other.formatCounts = tallies.formatCounts := by
  rw [formatCounts, formatCounts, h]

/-! ### The distinct descriptors of rejections -/

/-- As many of the distinct descriptors have a property as there are texts with it among the
descriptors of the rejections. -/
theorem countP_keys_ofRejections (rejections : List Rejection) (p : String → Prop)
    [DecidablePred p] :
    (ofRejections rejections).byResource.keys.countP p =
      ((rejections.map Rejection.descriptor).toFinset.filter p).card := by
  have hsame : (ofRejections rejections).byResource.keys.toFinset =
      (rejections.map Rejection.descriptor).toFinset := by
    ext descriptor
    rw [byResource_ofRejections, List.mem_toFinset, Counts.mem_keys_tally, List.mem_toFinset]
  rw [← hsame]
  exact (ofRejections rejections).byResource.nodup_keys.card_eq_countP.symm

/-- **Formats divide the distinct descriptors.** When each descriptor that was rejected has a
format, the formats are those of the distinct descriptors, each once and in the order of the first
descriptor that has it. The count of a format is the number of distinct descriptors that have it,
and the counts add up to the number of all distinct descriptors. Tallies with the same distinct
descriptors in the same order have the same formats, however often and during which tests they were
rejected. -/
theorem formatCounts_partitions (rejections : List Rejection)
    (h : ∀ descriptor ∈ (ofRejections rejections).byResource.keys, ∃ format,
      Format.ofDescriptor descriptor = .ok format) :
    ∃ formats, (ofRejections rejections).formatCounts = .ok formats ∧
      formats.OfPositions (ofRejections rejections).uniqueResources
        (ofRejections rejections).formatAt ∧
      (∀ format, formats.count format =
        ((rejections.map Rejection.descriptor).toFinset.filter fun descriptor ↦
          Format.ofDescriptor descriptor = .ok format).card) ∧
      formats.total = (ofRejections rejections).uniqueResources ∧
      ∀ other : Tallies, other.byResource.keys = (ofRejections rejections).byResource.keys →
        other.formatCounts = .ok formats := by
  obtain ⟨formats, hformats⟩ := exists_formatCounts h
  refine ⟨formats, hformats, ofPositions_formatCounts hformats, fun format ↦ ?_,
    total_of_formatCounts hformats, fun other hother ↦ ?_⟩
  · rw [count_formatCounts hformats, countP_keys_ofRejections]
  · rw [formatCounts_congr hother, hformats]

/-- Three distinct descriptors, one of them rejected twice. Two share a format, and the format of
the third is listed under the same label. -/
theorem formatCounts_partitions_same_label :
    let rejections : List Rejection :=
      [⟨"\x7b\"Format\": 10\x7d", "a"⟩, ⟨"\x7b\"Format\": \"10\"\x7d", "a"⟩,
        ⟨"\x7b\"Format\": 10\x7d", "b"⟩, ⟨"\x7b\"Format\":10\x7d", "b"⟩]
    ∃ formats, (ofRejections rejections).formatCounts = .ok formats ∧
      formats.count ⟨"10", "10"⟩ = 2 ∧ formats.count ⟨"\"10\"", "10"⟩ = 1 ∧
      formats.total = 3 := by
  intro rejections
  have hread : ∀ descriptor ∈ (ofRejections rejections).byResource.keys,
      (Format.ofDescriptor? descriptor).isSome := by decide +kernel
  obtain ⟨formats, hformats, -, hcount, htotal, -⟩ :=
    formatCounts_partitions rejections fun descriptor hdescriptor ↦
      (Option.isSome_iff_exists.1 (hread descriptor hdescriptor)).imp
        fun _ ↦ Format.ofDescriptor?_eq_some_iff.1
  refine ⟨formats, hformats, (hcount _).trans ?_, (hcount _).trans ?_, htotal.trans ?_⟩
  all_goals decide +kernel

end Tallies

end AlignmentTally
