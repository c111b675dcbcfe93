import AlignmentTally.Proofs.Json.NormalForm

/-!
# Compact text determines the value

The compact text of a value is one of its spellings, the one without any blanks
(`Json.spells_compactChars`), so the reader takes it back to the normal form of the value. Values
with the same compact text are therefore the same, up to the order of members
(`Json.normalize_eq_of_compactChars_eq`).

## Values of any depth

The program's reader stops at a certain depth, but formats are compared by their compact text
however deep they are. So the argument uses a reader that is allowed as much depth as both values
need. This reader is no part of the program; it is `Json.readValue` at another depth, and all that
is known of it is known for every depth (`Json.reads_readValue`).

## Exact values

Numbers that are no integers of 64 bits are left out (`Json.Exact`): how these are written and read
back is a matter of rounding. `Json.Exact` is `Json.Plain` at some depth. It has its own lemmas for
each form of value, tagged for `simp`, so that it can be settled for a given value without a depth
being named.
-/

namespace AlignmentTally.Json

/-! ### Plain values of any depth -/

/-- A value that is plain to some depth is plain to any greater one. -/
theorem Plain.mono {depth : Nat} {value : Json} (plain : Plain depth value) {deeper : Nat}
    (le : depth ≤ deeper) : Plain deeper value := by
  induction depth generalizing value deeper with
  | zero =>
    cases value with
    | array items => exact plain.elim
    | object members => exact plain.elim
    | _ => cases deeper <;> exact plain
  | succ depth ih =>
    obtain ⟨deeper, rfl⟩ := Nat.exists_eq_add_of_le' (Nat.le_trans (Nat.le_add_left 1 depth) le)
    have leBelow : depth ≤ deeper := Nat.le_of_succ_le_succ le
    cases value with
    | array items => exact fun item mem ↦ ih (plain item mem) leBelow
    | object members => exact fun member mem ↦ ih (plain member mem) leBelow
    | _ => exact plain

/-- All numbers in a value are integers of 64 bits, at whatever depth they stand. -/
def Exact (value : Json) : Prop := ∃ depth, Plain depth value

/-- Finitely many exact values are plain to a common depth. -/
theorem exists_forall_plain {α : Type} {items : List α} {value : α → Json}
    (exact : ∀ item ∈ items, (value item).Exact) :
    ∃ depth, ∀ item ∈ items, Plain depth (value item) := by
  induction items with
  | nil => exact ⟨0, by simp⟩
  | cons item rest ih =>
    rw [List.forall_mem_cons] at exact
    obtain ⟨depth, plain⟩ := exact.1
    obtain ⟨depthRest, plainRest⟩ := ih exact.2
    refine ⟨max depth depthRest, List.forall_mem_cons.2 ⟨plain.mono (Nat.le_max_left _ _), ?_⟩⟩
    exact fun other mem ↦ (plainRest other mem).mono (Nat.le_max_right _ _)

@[simp] theorem exact_null : null.Exact := ⟨0, trivial⟩

@[simp] theorem exact_bool (value : Bool) : (bool value).Exact := ⟨0, trivial⟩

@[simp] theorem exact_string (s : String) : (string s).Exact := ⟨0, plain_string 0 s⟩

@[simp] theorem exact_integer_iff {n : Int} :
    (integer n).Exact ↔ -(1 <<< 63 : Nat) ≤ n ∧ n < (1 <<< 64 : Nat) := by
  constructor
  · rintro ⟨depth, plain⟩
    cases depth <;> exact plain
  · exact fun range ↦ ⟨0, range⟩

@[simp] theorem not_exact_float (negative : Bool) (magnitude : Binary64) :
    ¬ (float negative magnitude).Exact := by
  rintro ⟨depth, plain⟩
  cases depth <;> exact plain

/-- An array is exact exactly when its items are. -/
@[simp] theorem exact_array_iff {items : List Json} :
    (array items).Exact ↔ ∀ item ∈ items, item.Exact := by
  constructor
  · rintro ⟨depth, plain⟩ item mem
    cases depth with
    | zero => exact plain.elim
    | succ depth => exact ⟨depth, plain item mem⟩
  · intro exact
    obtain ⟨depth, plain⟩ := exists_forall_plain exact
    exact ⟨depth + 1, plain⟩

/-- An object is exact exactly when the values of its members are. -/
@[simp] theorem exact_object_iff {members : List (String × Json)} :
    (object members).Exact ↔ ∀ member ∈ members, member.2.Exact := by
  constructor
  · rintro ⟨depth, plain⟩ member mem
    cases depth with
    | zero => exact plain.elim
    | succ depth => exact ⟨depth, plain member mem⟩
  · intro exact
    obtain ⟨depth, plain⟩ := exists_forall_plain exact
    exact ⟨depth + 1, plain⟩

/-! ### Compact text as a spelling -/

theorem compactItems_eq (items : List Json) :
    compactItems items = [','].intercalate (items.map compactChars) :=
  eq_intercalate rfl (fun _ ↦ rfl) (fun _ _ _ ↦ rfl) items

theorem compactMembers_eq (members : List (String × Json)) :
    compactMembers members =
      [','].intercalate (members.map fun member ↦ quote member.1 ++ ':' :: compactChars member.2) :=
  eq_intercalate rfl (fun _ ↦ rfl) (fun _ _ _ ↦ rfl) members

/-- A value that is no container is written alike in both forms. -/
theorem spellsScalar_compactChars {value : Json} (plain : Plain 0 value) :
    SpellsScalar (compactChars value) value.normalize := by
  cases value with
  | array items => exact plain.elim
  | object members => exact plain.elim
  | _ => exact spellsScalar_prettyChars plain 0

/-- **The compact text of a value is one of the spellings of its normal form.** -/
theorem spells_compactChars {depth : Nat} {value : Json} (plain : Plain depth value) :
    Spells depth (compactChars value) value.normalize := by
  induction depth generalizing value with
  | zero => exact spellsScalar_compactChars plain
  | succ depth ih =>
    cases value with
    | array items =>
      rw [compactChars, compactItems_eq]
      exact spellsValue_array (fun item mem ↦ ih (plain item mem)) blanks_nil blanks_nil
    | object members =>
      rw [compactChars, compactMembers_eq]
      exact spellsValue_object (fun member mem ↦ ih (plain member mem)) blanks_nil blanks_nil
        blanks_nil
    | _ => exact .scalar (spellsScalar_compactChars (by exact plain))

/-! ### Reading compact text back -/

/-- The reader of a depth takes the compact text of a plain value back to its normal form. -/
theorem readValue_compactChars {depth : Nat} {value : Json} (plain : Plain depth value) :
    readValue depth value.compactChars = .ok (value.normalize, []) := by
  have read := (reads_readValue depth _ _ (spells_compactChars plain)).2 [] [] blanks_nil
    fun _ mem ↦ nomatch mem
  rwa [List.nil_append, List.append_nil] at read

/-- **No two values share a compact text**, up to the order of members. -/
theorem normalize_eq_of_compactChars_eq {value other : Json} (exact : value.Exact)
    (exactOther : other.Exact) (same : value.compactChars = other.compactChars) :
    value.normalize = other.normalize := by
  obtain ⟨depth, plain⟩ := exact
  obtain ⟨depthOther, plainOther⟩ := exactOther
  have read := readValue_compactChars (plain.mono (Nat.le_max_left depth depthOther))
  have readOther := readValue_compactChars (plainOther.mono (Nat.le_max_right depth depthOther))
  rw [same, readOther, Except.ok.injEq, Prod.mk.injEq] at read
  exact read.1.symm

end AlignmentTally.Json
