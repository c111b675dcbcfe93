import Mathlib.Data.List.Forall2

/-!
# Steps that may fail

A program is made of steps that give a result or fail, and what is read out of a run of the program
is mostly when it succeeds. So a step is taken apart by saying when it succeeds and with what; how
it fails is said where a failure matters, in the modules on endings.

## Steps

A step after another one succeeds exactly when both do (`bind_eq_ok_iff`), and a step for each of
some items exactly when it does for each of them, with the results in the order of the items
(`mapM_eq_ok_iff`). Changing a result or naming an error has no influence on success
(`map_eq_ok_iff`, `mapError_eq_ok_iff`). Proofs about longer programs peel off one step after
another with these and never open the program as a whole.

## Look-ups

Settings, members of objects and entries of directories are all looked up in lists of pairs. A
look-up takes the first entry of a key, which is an awkward thing to reason with. When no key stands
twice it is membership instead (`lookup_eq_some_iff_of_nodup`), and membership does not depend on
the order of the list.
-/

namespace AlignmentTally

variable {ε α β : Type}

/-- Two steps succeed exactly when the first one does and the second one does with its result. -/
theorem bind_eq_ok_iff {step : Except ε α} {next : α → Except ε β} {result : β} :
    step >>= next = .ok result ↔ ∃ value, step = .ok value ∧ next value = .ok result := by
  cases step with
  | error error =>
    constructor
    · intro h
      cases h
    · rintro ⟨_, h, _⟩
      cases h
  | ok value =>
    constructor
    · intro h
      exact ⟨value, rfl, h⟩
    · rintro ⟨_, h, hnext⟩
      cases h
      exact hnext

/-- A step whose result is changed succeeds exactly when the step does. -/
theorem map_eq_ok_iff {step : Except ε α} {f : α → β} {result : β} :
    step.map f = .ok result ↔ ∃ value, step = .ok value ∧ f value = result := by
  cases step <;> simp [Except.map]

theorem mapError_eq_ok_iff {ε' : Type} {step : Except ε α} {name : ε → ε'} {value : α} :
    step.mapError name = .ok value ↔ step = .ok value := by
  cases step <;> simp [Except.mapError]

theorem toOption_eq_some_iff {step : Except ε α} {value : α} :
    step.toOption = some value ↔ step = .ok value := by
  cases step <;> simp [Except.toOption]

/-- A step for each of some items succeeds exactly when each of them does. -/
theorem mapM_eq_ok_iff {step : α → Except ε β} {items : List α} {results : List β} :
    items.mapM step = .ok results ↔
      List.Forall₂ (fun item result ↦ step item = .ok result) items results := by
  induction items generalizing results with
  | nil =>
    rw [List.mapM_nil, List.forall₂_nil_left_iff]
    exact ⟨fun h ↦ (Except.ok.inj h).symm, fun h ↦ h ▸ rfl⟩
  | cons item rest ih =>
    simp only [List.mapM_cons, List.forall₂_cons_left_iff, bind_eq_ok_iff, ih]
    constructor
    · rintro ⟨result, hitem, others, hrest, h⟩
      exact ⟨result, others, hitem, hrest, (Except.ok.inj h).symm⟩
    · rintro ⟨result, others, hitem, hrest, rfl⟩
      exact ⟨result, hitem, others, hrest, rfl⟩

/-- Steps that all give a result give all results. -/
theorem mapM_eq_some_map {step : α → Option β} {result : α → β} {items : List α}
    (each : ∀ item ∈ items, step item = some (result item)) :
    items.mapM step = some (items.map result) := by
  induction items with
  | nil => rfl
  | cons item rest ih =>
    rw [List.forall_mem_cons] at each
    rw [List.mapM_cons, each.1, ih each.2]
    rfl

/-- Each result of related lists is related to an item. -/
theorem exists_left_of_mem {related : α → β → Prop} {items : List α} {results : List β}
    (h : List.Forall₂ related items results) {result : β} (hresult : result ∈ results) :
    ∃ item ∈ items, related item result := by
  induction h with
  | nil => cases hresult
  | @cons item first items results hfirst _ ih =>
    rcases List.mem_cons.1 hresult with rfl | hrest
    · exact ⟨item, List.mem_cons_self, hfirst⟩
    · obtain ⟨other, hmem, hother⟩ := ih hrest
      exact ⟨other, List.mem_cons_of_mem _ hmem, hother⟩

/-! ### Look-ups -/

variable {κ : Type} [DecidableEq κ] {entries : List (κ × α)} {key : κ}

/-- A key that stands nowhere is not found. -/
theorem lookup_eq_none_of_notMem (notMem : key ∉ entries.map Prod.fst) :
    entries.lookup key = none := by
  rw [List.lookup_eq_none_iff]
  intro entry mem
  rw [bne_iff_ne]
  rintro rfl
  exact notMem (List.mem_map_of_mem mem)

/-- Among distinct keys, what is found under a key is what stands there. -/
theorem lookup_eq_some_iff_of_nodup (nodup : (entries.map Prod.fst).Nodup) {value : α} :
    entries.lookup key = some value ↔ (key, value) ∈ entries := by
  rw [List.lookup_eq_some_iff]
  constructor
  · rintro ⟨before, after, rfl, -⟩
    exact List.mem_append_right _ List.mem_cons_self
  · intro mem
    obtain ⟨before, after, rfl⟩ := List.append_of_mem mem
    refine ⟨before, after, rfl, fun entry entryMem ↦ ?_⟩
    rw [List.map_append, List.map_cons, List.nodup_append] at nodup
    rw [bne_iff_ne]
    exact (nodup.2.2 _ (List.mem_map_of_mem entryMem) _ List.mem_cons_self).symm

end AlignmentTally
