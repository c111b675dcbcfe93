import AlignmentTally.Format
import AlignmentTally.Proofs.Counting
import AlignmentTally.Proofs.Steps

/-!
# Reading the formats of descriptors

The formats of the distinct descriptors are read one after another, and the first descriptor without
a format ends it. Everything here is about tallies as they are, whatever they were made from.

## When there are formats

* `Format.ofDescriptor_eq_ok_iff` — a descriptor has a format exactly when it is JSON with a member
  `Format`. How JSON is read stays closed: the lemma rests on the steps of `Format.ofDescriptor`
  and on nothing about the reader.
* `Tallies.formatCounts_eq_ok_iff` — there are formats exactly when each descriptor has one, and
  they are then tallied in the order of the descriptors. It rests on `mapM_eq_ok_iff`, which relates
  descriptors and formats item by item.

## What they add up to

The rest follows from the tally of a list. There are as many formats as descriptors, counted with
repetition (`Tallies.total_of_formatCounts`), and they are the formats that the descriptors have
(`Tallies.mem_keys_formatCounts_iff`). How the descriptors are divided among them is said in
`AlignmentTally.Proofs.Partition`, and which fault ends the reading in
`AlignmentTally.Proofs.Verdict`.
-/

namespace AlignmentTally

/-! ### The format of a descriptor -/

/-- What the descriptor is read as decides: it has a format or misses one. -/
theorem Format.ofDescriptor_of_read {descriptor : String} {value : Json}
    (h : Json.read descriptor = .ok value) :
    ofDescriptor descriptor =
      (value.member? "Format").elim (.error (.missingFormat descriptor)) (.ok <| ofValue ·) := by
  have hbind : (Json.read descriptor).mapError (TallyError.parse descriptor) = .ok value := by
    rw [h]
    rfl
  rw [ofDescriptor, hbind]
  simp only [bind, Except.bind]
  cases value.member? "Format" <;> rfl

/-- A descriptor has a format exactly when it is JSON with a member `Format`. -/
theorem Format.ofDescriptor_eq_ok_iff {descriptor : String} {format : Format} :
    ofDescriptor descriptor = .ok format ↔ ∃ value member, Json.read descriptor = .ok value ∧
      value.member? "Format" = some member ∧ format = ofValue member := by
  simp only [ofDescriptor, bind_eq_ok_iff, mapError_eq_ok_iff]
  refine exists_congr fun value ↦ ?_
  cases hmember : value.member? "Format" with
  | none =>
    constructor
    · rintro ⟨_, h⟩
      cases h
    · rintro ⟨_, _, h, _⟩
      cases h
  | some member =>
    constructor
    · rintro ⟨hread, h⟩
      exact ⟨member, hread, rfl, (Except.ok.inj h).symm⟩
    · rintro ⟨_, hread, h, rfl⟩
      cases h
      exact ⟨hread, rfl⟩

/-! ### The formats of some tallies -/

namespace Tallies

variable {tallies : Tallies} {formats : Counts Format}

/-- There are formats exactly when each distinct descriptor has one, and they are tallied in the
order of the descriptors. -/
theorem formatCounts_eq_ok_iff :
    tallies.formatCounts = .ok formats ↔
      ∃ named, List.Forall₂ (fun descriptor format ↦ Format.ofDescriptor descriptor = .ok format)
        tallies.byResource.keys named ∧ formats = .tally named := by
  simp only [formatCounts, bind_eq_ok_iff, mapM_eq_ok_iff]
  refine exists_congr fun named ↦ and_congr_right fun _ ↦ ?_
  exact ⟨fun h ↦ (Except.ok.inj h).symm, fun h ↦ h ▸ rfl⟩

/-- Without rejections there are no formats. -/
theorem formatCounts_of_isEmpty (h : tallies.isEmpty) : tallies.formatCounts = .ok .empty := by
  have hkeys : tallies.byResource.keys = [] := by
    rwa [isEmpty, Counts.isEmpty_eq_isEmpty_keys, List.isEmpty_iff] at h
  exact formatCounts_eq_ok_iff.2 ⟨[], hkeys ▸ .nil, rfl⟩

/-- The counts of the formats add up to the number of distinct descriptors. -/
theorem total_of_formatCounts (h : tallies.formatCounts = .ok formats) :
    formats.total = tallies.uniqueResources := by
  obtain ⟨named, hnamed, rfl⟩ := formatCounts_eq_ok_iff.1 h
  rw [Counts.total_tally, uniqueResources, Counts.size_eq_length_keys, hnamed.length_eq]

/-- The formats are those of the descriptors. -/
theorem mem_keys_formatCounts_iff (h : tallies.formatCounts = .ok formats) {format : Format} :
    format ∈ formats.keys ↔
      ∃ descriptor ∈ tallies.byResource.keys, Format.ofDescriptor descriptor = .ok format := by
  obtain ⟨named, hnamed, rfl⟩ := formatCounts_eq_ok_iff.1 h
  rw [Counts.mem_keys_tally]
  constructor
  · exact exists_left_of_mem hnamed
  · rintro ⟨descriptor, hdescriptor, hformat⟩
    obtain ⟨other, hother, hread⟩ := exists_left_of_mem (List.Forall₂.flip hnamed) hdescriptor
    obtain rfl : other = format := Except.ok.inj (hread.symm.trans hformat)
    exact hother

end Tallies

end AlignmentTally
