import AlignmentTally.Proofs.Json.Pretty
import Mathlib.Data.List.Nodup

/-!
# Objects as maps

An object is read from a list of members in any order and with repeated keys, and it is kept as a
list of members in ascending order of keys. This module says that such a list is as good as a map.

## Looking up

An object made from a list of members has under each key the value of the last member of that key
(`Json.member?_ofMembers`). The induction is from the end of the list: the last member is inserted
last, and it replaces a member of the same key or leaves the others as they are.

## Normal form

A value is in normal form when the members of its objects, at whatever depth, stand in ascending
order.

* The members settle the list: objects in normal form with the same value under each key are equal
  (`Json.object_eq_of_member?_eq`). Ascending keys are distinct, so having the same look-ups is
  having the same members, and there is one way to put them in order.
* Putting a value in normal form in order again changes nothing (`Json.normalize_of_normal`), and
  doing so once gives a value in normal form (`Json.normal_normalize`).
* An object made from members is in normal form when their values are, so whatever a text spells is
  (`Json.Spells.normal`). A value that was read never has to be put in order.
-/

namespace AlignmentTally.Json

/-! ### The last member of a key counts -/

theorem ofMembers_concat (members : List (String × Json)) (member : String × Json) :
    ofMembers (members ++ [member]) =
      .object (insertMember member.1 member.2
        (members.foldl (fun sorted member ↦ insertMember member.1 member.2 sorted) [])) := by
  rw [ofMembers, List.foldl_append]
  rfl

/-- An object has under each key the value of the last member of that key. -/
theorem member?_ofMembers (key : String) (members : List (String × Json)) :
    (ofMembers members).member? key = members.reverse.lookup key := by
  induction members using List.reverseRecOn with
  | nil => rfl
  | append_singleton members member ih =>
    obtain ⟨last, value⟩ := member
    rw [ofMembers, member?] at ih
    rw [ofMembers_concat, member?, List.reverse_append, List.reverse_singleton,
      List.singleton_append, List.lookup_cons]
    rcases eq_or_ne key last with rfl | ne
    · rw [lookup_insertMember_self, beq_self_eq_true]
    · rw [lookup_insertMember_of_ne ne, ih, beq_eq_false_iff_ne.2 ne]

/-- A key that no member has has no value. -/
theorem lookup_reverse_eq_none {key : String} {members : List (String × Json)}
    (missing : key ∉ members.map Prod.fst) : members.reverse.lookup key = none := by
  rw [List.lookup_eq_none_iff]
  intro member mem
  refine bne_iff_ne.2 fun same ↦ missing ?_
  exact same ▸ List.mem_map_of_mem (List.mem_reverse.1 mem)

/-- The last member of a key stands under it. -/
theorem lookup_reverse_of_last {key : String} {after : List (String × Json)}
    (last : key ∉ after.map Prod.fst) (before : List (String × Json)) (value : Json) :
    (before ++ (key, value) :: after).reverse.lookup key = some value := by
  rw [List.reverse_append, List.reverse_cons, List.append_assoc, List.lookup_append,
    lookup_reverse_eq_none last, Option.none_or, List.singleton_append, List.lookup_cons_self]

/-! ### Ascending keys -/

/-- A key above all others takes its place at the end. -/
theorem insertMember_of_lt {key : String} {members : List (String × Json)}
    (above : ∀ member ∈ members, member.1 < key) (value : Json) :
    insertMember key value members = members ++ [(key, value)] := by
  induction members with
  | nil => rfl
  | cons member rest ih =>
    obtain ⟨k, v⟩ := member
    rw [List.forall_mem_cons] at above
    have notSame : ¬ key = k := (String.ne_of_lt above.1).symm
    have notBelow : ¬ key < k := String.lt_asymm above.1
    rw [insertMember, if_neg notSame, if_neg notBelow, ih above.2, List.cons_append]

/-- Members with ascending keys stay as they are. -/
theorem ofMembers_of_pairwise {members : List (String × Json)}
    (ascending : (members.map Prod.fst).Pairwise (· < ·)) :
    ofMembers members = .object members := by
  induction members using List.reverseRecOn with
  | nil => rfl
  | append_singleton members member ih =>
    rw [List.map_append, List.pairwise_append] at ascending
    obtain ⟨before, -, below⟩ := ascending
    have above : ∀ other ∈ members, other.1 < member.1 := fun other mem ↦
      below _ (List.mem_map_of_mem mem) _ (List.mem_singleton_self _)
    have sorted := ih before
    rw [ofMembers, object.injEq] at sorted
    rw [ofMembers_concat, sorted, insertMember_of_lt above]

/-- **Objects in normal form are maps**: with the same value under each key they are equal. -/
theorem object_eq_of_member?_eq {members others : List (String × Json)}
    (ascending : (members.map Prod.fst).Pairwise (· < ·))
    (ascendingOthers : (others.map Prod.fst).Pairwise (· < ·))
    (same : ∀ key, (object members).member? key = (object others).member? key) :
    members = others := by
  have byKey : ∀ {members : List (String × Json)},
      (members.map Prod.fst).Pairwise (· < ·) → members.Pairwise fun a b ↦ a.1 < b.1 :=
    List.pairwise_map.1
  have distinct : ∀ {members : List (String × Json)},
      (members.map Prod.fst).Pairwise (· < ·) → (members.map Prod.fst).Nodup := fun ascending ↦
    ascending.imp String.ne_of_lt
  have sameMembers : ∀ member, member ∈ members ↔ member ∈ others := fun (key, value) ↦ by
    rw [← lookup_eq_some_iff_of_nodup (distinct ascending),
      ← lookup_eq_some_iff_of_nodup (distinct ascendingOthers)]
    exact Eq.congr_left (same key)
  have perm : members.Perm others :=
    (List.perm_ext_iff_of_nodup (List.Nodup.of_map _ (distinct ascending))
      (List.Nodup.of_map _ (distinct ascendingOthers))).2 sameMembers
  exact perm.eq_of_pairwise (fun _ _ _ _ below above ↦ absurd above (String.lt_asymm below))
    (byKey ascending) (byKey ascendingOthers)

/-! ### Values in normal form -/

theorem normalItems_iff {items : List Json} :
    NormalItems items ↔ ∀ item ∈ items, item.Normal := by
  induction items with
  | nil => simp [NormalItems]
  | cons item rest ih => rw [NormalItems, ih, List.forall_mem_cons]

theorem normalMembers_iff {members : List (String × Json)} :
    NormalMembers members ↔ ∀ member ∈ members, member.2.Normal := by
  induction members with
  | nil => simp [NormalMembers]
  | cons member rest ih => rw [NormalMembers, ih, List.forall_mem_cons]

/-- A member after an insertion is the new one or an old one. -/
theorem eq_or_mem_of_mem_insertMember {key : String} {value : Json}
    {members : List (String × Json)} {member : String × Json}
    (mem : member ∈ insertMember key value members) : member = (key, value) ∨ member ∈ members := by
  fun_induction insertMember key value members with
  | case1 => exact .inl (List.mem_singleton.1 mem)
  | case2 => exact (List.mem_cons.1 mem).imp_right (List.mem_cons_of_mem _)
  | case3 => exact List.mem_cons.1 mem
  | case4 k v rest _ _ ih =>
    rcases List.mem_cons.1 mem with rfl | mem
    · exact .inr List.mem_cons_self
    · exact (ih mem).imp_right (List.mem_cons_of_mem _)

/-- An insertion keeps keys ascending. -/
theorem pairwise_insertMember {key : String} {members : List (String × Json)}
    (ascending : members.Pairwise fun a b ↦ a.1 < b.1) (value : Json) :
    (insertMember key value members).Pairwise fun a b ↦ a.1 < b.1 := by
  fun_induction insertMember key value members with
  | case1 => exact List.pairwise_singleton _ _
  | case2 v rest =>
    rw [List.pairwise_cons] at ascending ⊢
    exact ascending
  | case3 k v rest _ below =>
    refine List.pairwise_cons.2 ⟨?_, ascending⟩
    refine List.forall_mem_cons.2 ⟨below, fun member mem ↦ ?_⟩
    exact String.lt_trans below (List.rel_of_pairwise_cons ascending mem)
  | case4 k v rest differ notBelow ih =>
    have above : k < key := String.not_le.1 fun le ↦
      differ (String.le_antisymm le (String.not_lt.1 notBelow))
    rw [List.pairwise_cons] at ascending
    refine List.pairwise_cons.2 ⟨fun member mem ↦ ?_, ih ascending.2⟩
    rcases eq_or_mem_of_mem_insertMember mem with rfl | mem
    · exact above
    · exact ascending.1 member mem

/-- An object of values in normal form is in normal form. -/
theorem normal_ofMembers {members : List (String × Json)}
    (normal : ∀ member ∈ members, member.2.Normal) : (ofMembers members).Normal := by
  have sorted : (members.foldl (fun sorted member ↦ insertMember member.1 member.2 sorted)
        []).Pairwise (fun a b ↦ a.1 < b.1) ∧
      ∀ member ∈ members.foldl (fun sorted member ↦ insertMember member.1 member.2 sorted) [],
        member.2.Normal := by
    induction members using List.reverseRecOn with
    | nil => exact ⟨.nil, fun _ mem ↦ nomatch mem⟩
    | append_singleton members member ih =>
      obtain ⟨ascending, before⟩ := ih fun member mem ↦ normal member (List.mem_append_left _ mem)
      rw [List.foldl_append, List.foldl_cons, List.foldl_nil]
      refine ⟨pairwise_insertMember ascending member.2, fun other mem ↦ ?_⟩
      rcases eq_or_mem_of_mem_insertMember mem with rfl | mem
      · exact normal member (List.mem_append_right _ (List.mem_singleton_self _))
      · exact before other mem
  rw [ofMembers, Normal, normalMembers_iff]
  exact ⟨List.pairwise_map.2 sorted.1, sorted.2⟩

mutual

/-- **A value in normal form is its own normal form.** -/
theorem normalize_of_normal : ∀ {value : Json}, value.Normal → value.normalize = value
  | .array items, normal => by
    rw [Normal] at normal
    rw [normalize, normalizeItems_of_normal normal]
  | .object members, normal => by
    rw [Normal] at normal
    rw [normalize, normalizeMembers_of_normal normal.2, ofMembers_of_pairwise normal.1]
  | .null, _ => rfl
  | .bool _, _ => rfl
  | .integer _, _ => rfl
  | .float _ _, _ => rfl
  | .string _, _ => rfl

theorem normalizeItems_of_normal :
    ∀ {items : List Json}, NormalItems items → normalizeItems items = items
  | [], _ => rfl
  | item :: rest, normal => by
    rw [NormalItems] at normal
    rw [normalizeItems, normalize_of_normal normal.1, normalizeItems_of_normal normal.2]

theorem normalizeMembers_of_normal :
    ∀ {members : List (String × Json)}, NormalMembers members → normalizeMembers members = members
  | [], _ => rfl
  | (_, value) :: rest, normal => by
    rw [NormalMembers] at normal
    rw [normalizeMembers, normalize_of_normal normal.1, normalizeMembers_of_normal normal.2]

end

mutual

/-- The normal form of a value is in normal form. -/
theorem normal_normalize : ∀ value : Json, value.normalize.Normal
  | .array items => normalItems_iff.2 (normal_of_mem_normalizeItems items)
  | .object members => normal_ofMembers (normal_of_mem_normalizeMembers members)
  | .null => trivial
  | .bool _ => trivial
  | .integer _ => trivial
  | .float _ _ => trivial
  | .string _ => trivial

theorem normal_of_mem_normalizeItems :
    ∀ items : List Json, ∀ item ∈ normalizeItems items, item.Normal
  | [] => fun _ mem ↦ nomatch mem
  | item :: rest =>
    List.forall_mem_cons.2 ⟨normal_normalize item, normal_of_mem_normalizeItems rest⟩

theorem normal_of_mem_normalizeMembers :
    ∀ members : List (String × Json), ∀ member ∈ normalizeMembers members, member.2.Normal
  | [] => fun _ mem ↦ nomatch mem
  | (_, value) :: rest =>
    List.forall_mem_cons.2 ⟨normal_normalize value, normal_of_mem_normalizeMembers rest⟩

end

/-! ### What a text spells -/

section Lists

variable {α : Type} {spells : List Char → α → Prop} {close : Char} {good : α → Prop}

/-- What is so for whatever an element spells is so for each element of a list. -/
theorem SpellsMore.forall_mem (each : ∀ text element, spells text element → good element)
    {text : List Char} {elements : List α} (spelled : SpellsMore spells close text elements) :
    ∀ element ∈ elements, good element := by
  induction spelled with
  | close => exact fun _ mem ↦ nomatch mem
  | comma _ _ head _ ih => exact List.forall_mem_cons.2 ⟨each _ _ head, ih⟩

theorem SpellsList.forall_mem (each : ∀ text element, spells text element → good element)
    {text : List Char} {elements : List α} (spelled : SpellsList spells close text elements) :
    ∀ element ∈ elements, good element := by
  cases spelled with
  | nil => exact fun _ mem ↦ nomatch mem
  | cons _ head tail => exact List.forall_mem_cons.2 ⟨each _ _ head, tail.forall_mem each⟩

end Lists

theorem SpellsScalar.normal {text : List Char} {value : Json} (spelled : SpellsScalar text value) :
    value.Normal := by
  cases spelled <;> exact trivial

/-- **Whatever a text spells is in normal form.** -/
theorem Spells.normal {depth : Nat} {text : List Char} {value : Json}
    (spelled : Spells depth text value) : value.Normal := by
  induction depth generalizing text value with
  | zero => exact SpellsScalar.normal spelled
  | succ depth ih =>
    cases spelled with
    | scalar spelled => exact spelled.normal
    | array spelled => exact normalItems_iff.2 (spelled.forall_mem fun _ _ spelled ↦ ih spelled)
    | object spelled =>
      refine normal_ofMembers (spelled.forall_mem fun _ _ spelled ↦ ?_)
      cases spelled with
      | mk _ _ _ isValue => exact ih isValue

end AlignmentTally.Json
