/-!
# Counts in order of first appearance

A list of keys, each with a count, in which no key stands twice and the order is that of first
insertion. That no key stands twice is a part of the structure, so it need not be assumed anywhere;
each operation shows that it keeps it.

Counting a key that is already there leaves it where it is (`keys_bump_of_mem`); a new key goes to
the end (`keys_bump_of_notMem`). Both are cases of changing the count under a key (`alter`), of
which `insert` is another, and what is said of keys and counts is said of `alter` once
(`keys_alter`, `count_alter`).

`ranked` lists the entries ascending by count, and entries of equal count keep their order, because
merge sort is stable. Ranking makes a list and leaves the counts as they are.
-/

namespace AlignmentTally

/-- A count for each of finitely many keys, in order of first insertion. -/
structure Counts (κ : Type) where
  /-- The keys with their counts. -/
  entries : List (κ × Nat)
  /-- No key stands twice. -/
  nodup_keys : (entries.map Prod.fst).Nodup

namespace Counts

variable {κ : Type}

/-- Two tallies with the same entries are equal. -/
@[ext] theorem ext {a b : Counts κ} (h : a.entries = b.entries) : a = b := by
  cases a; cases b; cases h; rfl

/-- The entries decide equality. -/
instance [DecidableEq κ] : DecidableEq (Counts κ) := fun a b ↦
  decidable_of_iff (a.entries = b.entries) ⟨ext, fun h ↦ h ▸ rfl⟩

/-- No keys. -/
def empty : Counts κ := ⟨[], by simp⟩

instance : Inhabited (Counts κ) := ⟨empty⟩

/-- The keys, in order of first insertion. -/
def keys (counts : Counts κ) : List κ := counts.entries.map Prod.fst

/-- The number of keys. -/
def size (counts : Counts κ) : Nat := counts.entries.length

/-- The sum of the counts. -/
def total (counts : Counts κ) : Nat := counts.entries.foldr (fun entry sum ↦ entry.2 + sum) 0

/-- Whether there is no key. -/
def isEmpty (counts : Counts κ) : Bool := counts.entries.isEmpty

@[simp] theorem keys_empty : (empty : Counts κ).keys = [] := rfl

/-! ### Ascending by count -/

/-- The entries ascending by count; entries of equal count keep their order. -/
def ranked (counts : Counts κ) : List (κ × Nat) :=
  counts.entries.mergeSort fun a b ↦ a.2 ≤ b.2

theorem ranked_perm (counts : Counts κ) : counts.ranked.Perm counts.entries :=
  List.mergeSort_perm ..

theorem pairwise_ranked (counts : Counts κ) :
    counts.ranked.Pairwise fun a b ↦ a.2 ≤ b.2 := by
  have h := @List.pairwise_mergeSort _ (fun a b : κ × Nat ↦ decide (a.2 ≤ b.2))
    (fun a b c hab hbc ↦ by simp_all; omega) (fun a b ↦ by simp; omega) counts.entries
  simpa [ranked] using h

/-! ### One key -/

variable [DecidableEq κ]

/-- The count of a key in a list of entries, 0 for a key that is not there. -/
def countIn (key : κ) : List (κ × Nat) → Nat
  | [] => 0
  | (k, n) :: rest => if k = key then n else countIn key rest

/-- The count of a key, 0 for a key that is not there. -/
def count (counts : Counts κ) (key : κ) : Nat := countIn key counts.entries

/-- The entries in which `change` has been applied to the count of `key`. A key that is not there
counts as 0 before the change and takes its place at the end. -/
def alterIn (key : κ) (change : Nat → Nat) : List (κ × Nat) → List (κ × Nat)
  | [] => [(key, change 0)]
  | (k, n) :: rest =>
    if k = key then (k, change n) :: rest else (k, n) :: alterIn key change rest

theorem map_fst_alterIn (key : κ) (change : Nat → Nat) (entries : List (κ × Nat)) :
    (alterIn key change entries).map Prod.fst =
      if key ∈ entries.map Prod.fst then entries.map Prod.fst
      else entries.map Prod.fst ++ [key] := by
  fun_induction alterIn key change entries with
  | case1 => simp
  | case2 n rest => simp
  | case3 k n rest h ih =>
    simp only [List.map_cons, ih, List.mem_cons, Ne.symm h, false_or]
    split <;> simp

theorem nodup_alterIn (key : κ) (change : Nat → Nat) {entries : List (κ × Nat)}
    (h : (entries.map Prod.fst).Nodup) : ((alterIn key change entries).map Prod.fst).Nodup := by
  rw [map_fst_alterIn]
  split
  · exact h
  · next hk =>
    refine List.nodup_append.2 ⟨h, by simp, ?_⟩
    intro a ha b hb
    obtain rfl := List.mem_singleton.1 hb
    exact fun he ↦ hk (he ▸ ha)

/-- Applies `change` to the count of `key`. -/
def alter (counts : Counts κ) (key : κ) (change : Nat → Nat) : Counts κ :=
  ⟨alterIn key change counts.entries, nodup_alterIn key change counts.nodup_keys⟩

/-- Gives `key` the count `n`; a key that is already there keeps its place. -/
def insert (counts : Counts κ) (key : κ) (n : Nat) : Counts κ := counts.alter key fun _ ↦ n

/-- Counts `key` once more. -/
def bump (counts : Counts κ) (key : κ) : Counts κ := counts.alter key (· + 1)

/-- The counts that result from inserting the entries of a list one after another. -/
def ofList (entries : List (κ × Nat)) : Counts κ :=
  entries.foldl (fun counts entry ↦ counts.insert entry.1 entry.2) empty

/-- How often each key occurs in a list, in order of first occurrence. -/
def tally (keys : List κ) : Counts κ := keys.foldl bump empty

/-! ### Keys, counts and sums after a change -/

theorem keys_alter (counts : Counts κ) (key : κ) (change : Nat → Nat) :
    (counts.alter key change).keys =
      if key ∈ counts.keys then counts.keys else counts.keys ++ [key] :=
  map_fst_alterIn key change counts.entries

theorem keys_bump_of_mem {counts : Counts κ} {key : κ} (h : key ∈ counts.keys) :
    (counts.bump key).keys = counts.keys := by
  rw [bump, keys_alter, if_pos h]

theorem keys_bump_of_notMem {counts : Counts κ} {key : κ} (h : key ∉ counts.keys) :
    (counts.bump key).keys = counts.keys ++ [key] := by
  rw [bump, keys_alter, if_neg h]

theorem countIn_alterIn (key other : κ) (change : Nat → Nat) (entries : List (κ × Nat)) :
    countIn other (alterIn key change entries) =
      if key = other then change (countIn key entries) else countIn other entries := by
  fun_induction alterIn key change entries with
  | case1 => simp [countIn]
  | case2 n rest => by_cases h : key = other <;> simp [countIn, h]
  | case3 k n rest h ih =>
    by_cases ho : k = other
    · subst ho
      simp [countIn, Ne.symm h]
    · by_cases hk : key = other <;> simp_all [countIn]

theorem count_alter (counts : Counts κ) (key other : κ) (change : Nat → Nat) :
    (counts.alter key change).count other =
      if key = other then change (counts.count key) else counts.count other :=
  countIn_alterIn key other change counts.entries

@[simp] theorem count_empty (key : κ) : (empty : Counts κ).count key = 0 := rfl

theorem count_bump (counts : Counts κ) (key other : κ) :
    (counts.bump key).count other =
      if key = other then counts.count key + 1 else counts.count other :=
  count_alter counts key other _

theorem foldr_alterIn_succ (key : κ) (entries : List (κ × Nat)) :
    (alterIn key (· + 1) entries).foldr (fun entry sum ↦ entry.2 + sum) 0 =
      entries.foldr (fun entry sum ↦ entry.2 + sum) 0 + 1 := by
  fun_induction alterIn key (· + 1) entries with
  | case1 => simp
  | case2 n rest => simp only [List.foldr_cons]; omega
  | case3 k n rest h ih => simp only [List.foldr_cons, ih]; omega

@[simp] theorem total_bump (counts : Counts κ) (key : κ) :
    (counts.bump key).total = counts.total + 1 :=
  foldr_alterIn_succ key counts.entries

end Counts

end AlignmentTally
