import AlignmentTally.Proofs.Conservation

/-!
# Ascending by count, ties in their order

A list that ascends by a rank is settled by its items of each rank, in their order
(`eq_of_forall_ofRank_eq`): what stands first has the least rank, and it is the first item of that
rank. So "a permutation of the entries, ascending by count, with the entries of equal count in their
order" describes one list, and the entries of a map ascending by count are this list, because the
sort is stable (`Counts.ofRank_ranked`).

## Maps that insertions build

The maps are those that insertions build. A key takes its place when it is first inserted and keeps
it, and its count is that of the last insertion (`Counts.keys_ofList`, `Counts.count_ofList`). Both
are by induction from the end of the list, since it is the last insertion that matters.

## What the main result rests on

`Counts.ranked_ofList` says that a map has one listing.

* The description as a unique permutation rests on `Counts.eq_ranked_iff`, and of the sort it uses
  no more than **stability, order and permutation**.
* Sorting once more changes nothing, because a map that is built from distinct keys has them in the
  given order (`Counts.entries_ofList`) and a list that ascends already is its own ranking.
* A listing has names for keys. Names need not be distinct, so entries are compared **by position**
  and never looked up by name: keys that share a name stay apart.
-/

namespace AlignmentTally

/-! ### The items of a rank -/

section Rank

variable {α : Type} {rank : α → Nat}

/-- The items of a list that have a rank, in their order. -/
def ofRank (rank : α → Nat) (n : Nat) (items : List α) : List α :=
  items.filter fun item ↦ rank item = n

theorem mem_ofRank_iff {n : Nat} {items : List α} {item : α} :
    item ∈ ofRank rank n items ↔ item ∈ items ∧ rank item = n := by
  simp [ofRank]

theorem ofRank_cons_self (item : α) (items : List α) :
    ofRank rank (rank item) (item :: items) = item :: ofRank rank (rank item) items := by
  simp [ofRank]

theorem ofRank_cons_of_ne {n : Nat} {item : α} (hne : rank item ≠ n) (items : List α) :
    ofRank rank n (item :: items) = ofRank rank n items := by
  simp [ofRank, hne]

/-- Lists with the same items of each rank have the same items. -/
theorem mem_iff_of_forall_ofRank_eq {items others : List α}
    (hsame : ∀ n, ofRank rank n items = ofRank rank n others) (item : α) :
    item ∈ items ↔ item ∈ others := by
  have hrank : item ∈ ofRank rank (rank item) items ↔ item ∈ items ∧ rank item = rank item :=
    mem_ofRank_iff
  rw [hsame, mem_ofRank_iff] at hrank
  simpa using hrank.symm

/-- The first item of an ascending list has the least rank. -/
theorem rank_head_le {first item : α} {items : List α}
    (hascending : (first :: items).Pairwise fun a b ↦ rank a ≤ rank b)
    (hitem : item ∈ first :: items) : rank first ≤ rank item := by
  rcases List.mem_cons.1 hitem with rfl | hitem
  · exact Nat.le_refl _
  · exact List.rel_of_pairwise_cons hascending hitem

/-- **An ascending list is settled by its items of each rank.** -/
theorem eq_of_forall_ofRank_eq {items others : List α}
    (hitems : items.Pairwise fun a b ↦ rank a ≤ rank b)
    (hothers : others.Pairwise fun a b ↦ rank a ≤ rank b)
    (hsame : ∀ n, ofRank rank n items = ofRank rank n others) : items = others := by
  induction items generalizing others with
  | nil =>
    rcases others with _ | ⟨other, others⟩
    · rfl
    · have hmem := (mem_iff_of_forall_ofRank_eq hsame other).2 List.mem_cons_self
      cases hmem
  | cons item items ih =>
    rcases others with _ | ⟨other, others⟩
    · have hmem := (mem_iff_of_forall_ofRank_eq hsame item).1 List.mem_cons_self
      cases hmem
    · have hle : rank item ≤ rank other :=
        rank_head_le hitems ((mem_iff_of_forall_ofRank_eq hsame other).2 List.mem_cons_self)
      have hge : rank other ≤ rank item :=
        rank_head_le hothers ((mem_iff_of_forall_ofRank_eq hsame item).1 List.mem_cons_self)
      -- the heads share the least rank, so both are the first item of it
      have hheads := hsame (rank item)
      rw [ofRank_cons_self, Nat.le_antisymm hle hge, ofRank_cons_self] at hheads
      obtain ⟨rfl, hrest⟩ := List.cons.inj hheads
      refine congrArg (item :: ·) (ih hitems.of_cons hothers.of_cons fun n ↦ ?_)
      rcases eq_or_ne (rank item) n with rfl | hne
      · exact hrest
      · rw [← ofRank_cons_of_ne hne items, ← ofRank_cons_of_ne hne others]
        exact hsame n

end Rank

namespace Counts

variable {κ : Type}

/-! ### Sorting keeps ties in order -/

/-- Entries of equal count keep their order. -/
theorem ofRank_ranked (counts : Counts κ) (n : Nat) :
    ofRank Prod.snd n counts.ranked = ofRank Prod.snd n counts.entries := by
  have hpairwise : (ofRank Prod.snd n counts.entries).Pairwise
      fun a b ↦ decide (a.2 ≤ b.2) = true := by
    refine List.pairwise_of_forall_mem_list fun a ha b hb ↦ decide_eq_true ?_
    exact Nat.le_of_eq ((mem_ofRank_iff.1 ha).2.trans (mem_ofRank_iff.1 hb).2.symm)
  have hsorted : (ofRank Prod.snd n counts.entries).Sublist counts.ranked :=
    List.sublist_mergeSort (fun a b c hab hbc ↦ by simp_all; omega) (fun a b ↦ by simp; omega)
      hpairwise List.filter_sublist
  have hsublist := hsorted.filter fun entry ↦ entry.2 = n
  rw [ofRank, List.filter_filter] at hsublist
  simp only [Bool.and_self] at hsublist
  refine (hsublist.eq_of_length ?_).symm
  exact ((counts.ranked_perm.filter _).length_eq).symm

/-- **One list ascends by count and keeps the ties of a map in order.** -/
theorem eq_ranked_iff {counts : Counts κ} {listed : List (κ × Nat)} :
    listed = counts.ranked ↔ listed.Perm counts.entries ∧
      (listed.Pairwise fun a b ↦ a.2 ≤ b.2) ∧
      ∀ n, ofRank Prod.snd n listed = ofRank Prod.snd n counts.entries := by
  constructor
  · rintro rfl
    exact ⟨counts.ranked_perm, counts.pairwise_ranked, counts.ofRank_ranked⟩
  · rintro ⟨-, hascending, hties⟩
    refine eq_of_forall_ofRank_eq hascending counts.pairwise_ranked fun n ↦ ?_
    rw [hties, ofRank_ranked]

/-! ### Maps that insertions build -/

variable [DecidableEq κ]

theorem ofList_concat (insertions : List (κ × Nat)) (entry : κ × Nat) :
    ofList (insertions ++ [entry]) = (ofList insertions).insert entry.1 entry.2 := by
  rw [ofList, List.foldl_append]
  rfl

/-- The keys stand in the order of their first insertions. -/
theorem keys_ofList (insertions : List (κ × Nat)) :
    (ofList insertions).keys = (insertions.map Prod.fst).eraseDups :=
  keys_foldl_alter Prod.fst (fun entry _ ↦ entry.2) insertions

/-- The count of a key is that of its last insertion. -/
theorem count_ofList (insertions : List (κ × Nat)) (key : κ) :
    (ofList insertions).count key = (insertions.reverse.lookup key).getD 0 := by
  induction insertions using List.reverseRecOn with
  | nil => rfl
  | append_singleton insertions entry ih =>
    obtain ⟨last, n⟩ := entry
    rw [ofList_concat, insert, count_alter, ih, List.reverse_append, List.reverse_singleton,
      List.singleton_append, List.lookup_cons]
    by_cases h : last = key
    · simp [h]
    · rw [if_neg h, beq_eq_false_iff_ne.2 (Ne.symm h)]

/-- A new key takes its place at the end. -/
theorem alterIn_of_notMem {key : κ} {entries : List (κ × Nat)}
    (hnew : key ∉ entries.map Prod.fst) (change : Nat → Nat) :
    alterIn key change entries = entries ++ [(key, change 0)] := by
  induction entries with
  | nil => rfl
  | cons entry entries ih =>
    obtain ⟨k, n⟩ := entry
    rw [List.map_cons, List.mem_cons, not_or] at hnew
    rw [alterIn, if_neg (Ne.symm hnew.1), ih hnew.2, List.cons_append]

/-- Entries with distinct keys are what inserting them builds. -/
theorem entries_ofList {entries : List (κ × Nat)} (hnodup : (entries.map Prod.fst).Nodup) :
    (ofList entries).entries = entries := by
  induction entries using List.reverseRecOn with
  | nil => rfl
  | append_singleton entries entry ih =>
    rw [List.map_append, List.nodup_append] at hnodup
    obtain ⟨hbefore, -, hdisjoint⟩ := hnodup
    have hnew : entry.1 ∉ entries.map Prod.fst := fun hmem ↦
      hdisjoint _ hmem _ (List.mem_singleton_self _) rfl
    rw [ofList_concat]
    change alterIn entry.1 _ (ofList entries).entries = _
    rw [ih hbefore, alterIn_of_notMem hnew]

/-! ### Listings of a map -/

/-- **A map has one listing.** Let a map be built by any insertions: its keys stand in the order of
their first insertions and each has the count of its last one. The entries ascending by count are
the one permutation of the entries that ascends and in which entries of equal count stand in the
order of the map. A listing has an entry for each of these, with the name of the key in its place,
so keys that share a name stay apart. A map that is built from the sorted entries has them in that
order, and sorting it changes nothing. -/
theorem ranked_ofList (insertions : List (κ × Nat)) (name : κ → String) :
    ((ofList insertions).keys = (insertions.map Prod.fst).eraseDups ∧
        ∀ key, (ofList insertions).count key = (insertions.reverse.lookup key).getD 0) ∧
      (∀ listed, listed = (ofList insertions).ranked ↔
        listed.Perm (ofList insertions).entries ∧ (listed.Pairwise fun a b ↦ a.2 ≤ b.2) ∧
          ∀ n, ofRank Prod.snd n listed = ofRank Prod.snd n (ofList insertions).entries) ∧
      (List.Forall₂ (fun ranked entry ↦ entry.name = name ranked.1 ∧ entry.count = ranked.2)
          (ofList insertions).ranked (Report.entriesOf name (ofList insertions)) ∧
        (Report.entriesOf name (ofList insertions)).length =
          (insertions.map Prod.fst).eraseDups.length) ∧
      (ofList (ofList insertions).ranked).entries = (ofList insertions).ranked ∧
      (ofList (ofList insertions).ranked).ranked = (ofList insertions).ranked := by
  have hrebuilt : (ofList (ofList insertions).ranked).entries = (ofList insertions).ranked :=
    entries_ofList (nodup_map_fst_ranked _)
  refine ⟨⟨keys_ofList insertions, count_ofList insertions⟩, fun listed ↦ eq_ranked_iff, ⟨?_, ?_⟩,
    hrebuilt, ?_⟩
  · rw [Report.entriesOf, List.forall₂_map_right_iff, List.forall₂_same]
    exact fun _ _ ↦ ⟨rfl, rfl⟩
  · rw [Report.length_entriesOf, size_eq_length_keys, keys_ofList]
  · rw [ranked_of_pairwise, hrebuilt]
    rw [hrebuilt]
    exact pairwise_ranked _

end Counts

end AlignmentTally
