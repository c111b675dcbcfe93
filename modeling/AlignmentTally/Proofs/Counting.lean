import AlignmentTally.Counts
import Mathlib.Data.List.Induction

/-!
# Counting keys one after another

What a tally of a list of keys knows of the list: each key's multiplicity (`count_tally`), the
keys in order of first occurrence (`keys_tally`) and the length (`total_tally`). A tally is its
keys and their counts (`ext_count`), so these three say all there is to say.

## Counting positions

A list of keys often arises from positions, some of which have a key and some of which do not.
`OfPositions` says of counts that they count positions: each key as often as a position has it,
only keys that some position has, and in the order of the first position that has them. It is a
specification in its own right, which mentions neither a list nor the order in which it is gone
through.

* **One more position** keeps it, whether the position has no key (`OfPositions.succ_of_none`), a
  new one or one that was seen before (`OfPositions.succ_of_some`). So the tally of the keys of
  positions counts them (`ofPositions_tally`), by induction on the number of positions.
* **It leaves nothing open** (`OfPositions.unique`): counts with the same keys and the same count
  for each are equal, and two keys can stand in one order only, since the first position of one of
  them precedes that of the other.

What is said in terms of positions elsewhere, of lines or of distinct descriptors, is therefore a
full description of the counts and not a property that other counts could have too.
-/

namespace AlignmentTally.Counts

variable {κ : Type}

theorem size_eq_length_keys (counts : Counts κ) : counts.size = counts.keys.length := by
  rw [size, keys, List.length_map]

theorem isEmpty_eq_isEmpty_keys (counts : Counts κ) : counts.isEmpty = counts.keys.isEmpty := by
  rw [isEmpty, keys, List.isEmpty_map]

variable [DecidableEq κ]

/-! ### Keys and counts determine the entries -/

theorem countIn_eq_of_mem {entries : List (κ × Nat)} {key : κ} {n : Nat}
    (hnodup : (entries.map Prod.fst).Nodup) (h : (key, n) ∈ entries) : countIn key entries = n := by
  induction entries with
  | nil => simp at h
  | cons entry rest ih =>
    obtain ⟨k, m⟩ := entry
    rw [List.map_cons, List.nodup_cons] at hnodup
    rcases List.mem_cons.1 h with heq | hrest
    · obtain ⟨hk, hn⟩ := Prod.mk.inj heq
      rw [countIn, if_pos hk.symm, hn]
    · have hne : k ≠ key := by
        rintro rfl
        exact hnodup.1 (List.mem_map.2 ⟨_, hrest, rfl⟩)
      rw [countIn, if_neg hne]
      exact ih hnodup.2 hrest

/-- An entry gives its key the count of the key. -/
theorem count_eq_of_mem {counts : Counts κ} {entry : κ × Nat} (h : entry ∈ counts.entries) :
    counts.count entry.1 = entry.2 :=
  countIn_eq_of_mem counts.nodup_keys h

/-- The entries are the keys, each with its count. -/
theorem entries_eq_map_keys (counts : Counts κ) :
    counts.entries = counts.keys.map fun key ↦ (key, counts.count key) := by
  rw [keys, List.map_map]
  conv_lhs => rw [← List.map_id counts.entries]
  refine List.map_congr_left fun entry h ↦ ?_
  rw [Function.comp_apply, count_eq_of_mem h, id]

/-- **Counts with the same keys in the same order and the same count for each key are equal.** -/
theorem ext_count {a b : Counts κ} (hkeys : a.keys = b.keys)
    (hcount : ∀ key, a.count key = b.count key) : a = b := by
  refine Counts.ext ?_
  rw [entries_eq_map_keys a, entries_eq_map_keys b, hkeys]
  exact List.map_congr_left fun key _ ↦ by rw [hcount]

/-! ### The tally of a list -/

theorem tally_concat (keys : List κ) (key : κ) : tally (keys ++ [key]) = (tally keys).bump key := by
  rw [tally, List.foldl_append]
  rfl

/-- Counts that are altered for one item after another have the keys of the items, in order of
first occurrence, whatever happens to the counts. -/
theorem keys_foldl_alter {α : Type*} (key : α → κ) (change : α → Nat → Nat) (items : List α) :
    (items.foldl (fun counts item ↦ counts.alter (key item) (change item)) empty).keys =
      (items.map key).eraseDups := by
  induction items using List.reverseRecOn with
  | nil => rfl
  | append_singleton items item ih =>
    rw [List.foldl_append, List.foldl_cons, List.foldl_nil, keys_alter, ih, List.map_append,
      List.map_singleton, List.eraseDups_append]
    generalize items.map key = seen
    by_cases h : key item ∈ seen
    · simp [List.removeAll, h]
    · simp [List.removeAll, h, List.eraseDups_cons]

/-- The keys of a tally are those of the list, in order of first occurrence. -/
theorem keys_tally (keys : List κ) : (tally keys).keys = keys.eraseDups := by
  have h := keys_foldl_alter id (fun _ n ↦ n + 1) keys
  rwa [List.map_id] at h

theorem mem_keys_tally {keys : List κ} {key : κ} : key ∈ (tally keys).keys ↔ key ∈ keys := by
  rw [keys_tally, List.mem_eraseDups]

/-- A tally counts each key as often as it occurs in the list. -/
theorem count_tally (keys : List κ) (key : κ) : (tally keys).count key = keys.count key := by
  induction keys using List.reverseRecOn with
  | nil => rfl
  | append_singleton keys last ih =>
    rw [tally_concat, count_bump, List.count_append, List.count_singleton]
    by_cases h : last = key
    · simp [h, ← ih]
    · simp [h, ih]

/-- The counts of a tally add up to the length of the list. -/
theorem total_tally (keys : List κ) : (tally keys).total = keys.length := by
  induction keys using List.reverseRecOn with
  | nil => rfl
  | append_singleton keys key ih => rw [tally_concat, total_bump, ih, List.length_append]; rfl

/-- A tally is empty exactly when the list is. -/
theorem isEmpty_tally (keys : List κ) : (tally keys).isEmpty = keys.isEmpty := by
  rw [isEmpty_eq_isEmpty_keys, keys_tally]
  cases keys with
  | nil => rfl
  | cons key keys => rw [List.eraseDups_cons]; rfl

/-! ### Counting positions -/

/-- Among the positions below `n`, some position has the key `a` and no position up to it has the
key `b`. -/
def Precedes (label : Nat → Option κ) (n : Nat) (a b : κ) : Prop :=
  ∃ i < n, label i = some a ∧ ∀ j < n, label j = some b → i < j

omit [DecidableEq κ] in
/-- One more position does not change which key comes first. -/
theorem Precedes.succ {label : Nat → Option κ} {n : Nat} {a b : κ} (h : Precedes label n a b) :
    Precedes label (n + 1) a b := by
  obtain ⟨i, hi, hl, hfirst⟩ := h
  refine ⟨i, Nat.lt_succ_of_lt hi, hl, fun j hj hb ↦ ?_⟩
  rcases Nat.lt_succ_iff_lt_or_eq.1 hj with hj | rfl
  · exact hfirst j hj hb
  · exact hi

/-- `counts` counts the positions below `n` by what `label` gives them. -/
structure OfPositions (counts : Counts κ) (n : Nat) (label : Nat → Option κ) : Prop where
  /-- The count of a key is the number of positions that have it. -/
  count_eq : ∀ key, counts.count key = (List.range n).countP fun i ↦ label i = some key
  /-- The keys are those with a count that is not 0. -/
  mem_keys_iff : ∀ key, key ∈ counts.keys ↔ ((List.range n).countP fun i ↦ label i = some key) ≠ 0
  /-- Each key stands once. -/
  nodup_keys : counts.keys.Nodup
  /-- The keys are in the order of the first positions that have them. -/
  pairwise_precedes : counts.keys.Pairwise (Precedes label n)

namespace OfPositions

variable {counts : Counts κ} {n : Nat} {label : Nat → Option κ}

theorem exists_of_mem (h : counts.OfPositions n label) {key : κ} (hk : key ∈ counts.keys) :
    ∃ i < n, label i = some key := by
  have hne := (h.mem_keys_iff key).1 hk
  obtain ⟨i, hi, hl⟩ := List.countP_pos_iff.1 (Nat.pos_of_ne_zero hne)
  exact ⟨i, List.mem_range.1 hi, of_decide_eq_true hl⟩

theorem mem_of_label (h : counts.OfPositions n label) {key : κ} {i : Nat} (hi : i < n)
    (hl : label i = some key) : key ∈ counts.keys := by
  refine (h.mem_keys_iff key).2 (Nat.ne_of_gt (List.countP_pos_iff.2 ⟨i, ?_, ?_⟩))
  · exact List.mem_range.2 hi
  · exact decide_eq_true hl

/-- No positions, no counts. -/
theorem zero (label : Nat → Option κ) : (empty : Counts κ).OfPositions 0 label where
  count_eq := by simp
  mem_keys_iff := by simp
  nodup_keys := by simp
  pairwise_precedes := by simp

/-- A position without a key changes nothing. -/
theorem succ_of_none (h : counts.OfPositions n label) (hn : label n = none) :
    counts.OfPositions (n + 1) label where
  count_eq key := by rw [h.count_eq, List.range_succ, List.countP_append]; simp [hn]
  mem_keys_iff key := by rw [h.mem_keys_iff, List.range_succ, List.countP_append]; simp [hn]
  nodup_keys := h.nodup_keys
  pairwise_precedes := h.pairwise_precedes.imp Precedes.succ

/-- A position with a key counts for that key, which keeps its place if it has one. -/
theorem succ_of_some (h : counts.OfPositions n label) {key : κ} (hn : label n = some key) :
    (counts.bump key).OfPositions (n + 1) label where
  count_eq other := by
    rw [count_bump, List.range_succ, List.countP_append, List.countP_singleton, hn, h.count_eq,
      h.count_eq]
    by_cases he : key = other <;> simp [he]
  mem_keys_iff other := by
    rw [bump, keys_alter, List.range_succ, List.countP_append, List.countP_singleton, hn]
    by_cases he : key = other
    · subst he
      by_cases hk : key ∈ counts.keys <;> simp [hk]
    · by_cases hk : key ∈ counts.keys <;> simp [hk, he, Ne.symm he, h.mem_keys_iff other]
  nodup_keys := (counts.bump key).nodup_keys
  pairwise_precedes := by
    have hold := h.pairwise_precedes.imp Precedes.succ
    by_cases hk : key ∈ counts.keys
    · rw [keys_bump_of_mem hk]
      exact hold
    · rw [keys_bump_of_notMem hk]
      refine List.pairwise_append.2 ⟨hold, List.pairwise_singleton _ _, fun a ha b hb ↦ ?_⟩
      obtain rfl := List.mem_singleton.1 hb
      obtain ⟨i, hi, hl⟩ := h.exists_of_mem ha
      refine ⟨i, Nat.lt_succ_of_lt hi, hl, fun j hj hb ↦ ?_⟩
      rcases Nat.lt_succ_iff_lt_or_eq.1 hj with hj | rfl
      · exact absurd (h.mem_of_label hj hb) hk
      · exact hi

/-- **Positions determine the counts**, the order of the keys included: of two keys, the one with
the earlier first position stands first, and two keys share no position. -/
theorem unique {other : Counts κ} (h : counts.OfPositions n label)
    (hother : other.OfPositions n label) : counts = other := by
  have hperm : counts.keys.Perm other.keys := by
    refine (List.perm_ext_iff_of_nodup h.nodup_keys hother.nodup_keys).2 fun key ↦ ?_
    rw [h.mem_keys_iff, hother.mem_keys_iff]
  have hkeys : counts.keys = other.keys := by
    refine hperm.eq_of_pairwise (fun a b _ _ hab hba ↦ ?_) h.pairwise_precedes
      hother.pairwise_precedes
    obtain ⟨i, hi, hla, hfirst⟩ := hab
    obtain ⟨j, hj, hlb, hfirst'⟩ := hba
    have hij := hfirst j hj hlb
    have hji := hfirst' i hi hla
    omega
  exact ext_count hkeys fun key ↦ by rw [h.count_eq, hother.count_eq]

end OfPositions

/-- **The tally of the keys of positions counts positions.** -/
theorem ofPositions_tally (label : Nat → Option κ) (n : Nat) :
    (tally ((List.range n).filterMap label)).OfPositions n label := by
  induction n with
  | zero => exact OfPositions.zero label
  | succ n ih =>
    rw [List.range_succ, List.filterMap_append]
    cases hn : label n with
    | none =>
      rw [List.filterMap_cons_none hn, List.filterMap_nil, List.append_nil]
      exact ih.succ_of_none hn
    | some key =>
      rw [List.filterMap_cons_some hn, List.filterMap_nil, tally_concat]
      exact ih.succ_of_some hn

/-- What a list gives at its positions, in their order, is what its items give. -/
theorem filterMap_range_getElem? {α β : Type*} (f : α → Option β) (items : List α) :
    (List.range items.length).filterMap (fun i ↦ items[i]?.bind f) = items.filterMap f := by
  induction items with
  | nil => rfl
  | cons item items ih =>
    rw [List.length_cons, List.range_succ_eq_map, List.filterMap_cons, List.filterMap_map,
      List.filterMap_cons, ← ih]
    rfl

/-- The tally of the keys that the items of a list have counts the positions of the list. -/
theorem ofPositions_tally_filterMap {α : Type*} (key? : α → Option κ) (items : List α) :
    (tally (items.filterMap key?)).OfPositions items.length fun i ↦ items[i]?.bind key? := by
  rw [← filterMap_range_getElem?]
  exact ofPositions_tally _ _

theorem ofPositions_tally_getElem? {α : Type*} (key : α → κ) (items : List α) :
    (tally (items.map key)).OfPositions items.length fun i ↦ items[i]?.map key := by
  have h := ofPositions_tally_filterMap (some ∘ key) items
  rw [List.filterMap_eq_map] at h
  simpa only [Option.map_eq_bind] using h

/-- The same for items at positions, each counted under a key of its own. -/
theorem ofPositions_tally_map {α : Type*} (item : Nat → Option α) (key : α → κ) (n : Nat) :
    (tally (((List.range n).filterMap item).map key)).OfPositions n fun i ↦ (item i).map key := by
  rw [List.map_filterMap]
  exact ofPositions_tally _ _

end AlignmentTally.Counts
