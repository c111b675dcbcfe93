import AlignmentTally.Text.Search
import Mathlib.Data.List.Basic

/-!
# Where a search finds its word

Exact conditions for the three searches that the markers are made of: for the first occurrence of a
word, for its last one, and for the last occurrence of a character. The searches go through a text
character by character; the conditions speak of the text as a whole.

## What is found

* A search for a word fails exactly when the word stands nowhere in the text
  (`afterFirst?_eq_none_iff`, `afterLast?_eq_none_iff`).
* What follows any occurrence is an end of what follows the first one
  (`exists_afterFirst?_append`).
* An occurrence is the last one exactly when no other begins after its first character
  (`afterLast?_eq_some_iff`). The rest of the word counts in here, since occurrences may overlap.
  For this the word must not be empty.

## One character more at the end

A character that a word does not have can be put at the end of the text without effect on where the
word is found first (`afterFirst?_concat`), and a character other than the one that is looked for
without effect on where this one is found last (`beforeLast?_concat`). The markers use this for the
`\r` that one way of cutting leaves at the end of a line.
-/

namespace AlignmentTally.Text

variable {word text rest : List Char} {x : Char}

/-! ### A word at the front -/

theorem afterWord?_eq_none_iff : afterWord? word text = none ↔ ¬ word <+: text := by
  rw [← not_iff_not, not_not, ← ne_eq, Option.ne_none_iff_exists']
  simp only [afterWord?_eq_some_iff]
  exact ⟨fun ⟨rest, h⟩ ↦ ⟨rest, h.symm⟩, fun ⟨rest, h⟩ ↦ ⟨rest, h.symm⟩⟩

theorem afterWord?_append_self : afterWord? word (word ++ rest) = some rest :=
  afterWord?_eq_some_iff.2 rfl

theorem afterWord?_concat (h : x ∉ word) (text : List Char) :
    afterWord? word (text ++ [x]) = (afterWord? word text).map (· ++ [x]) := by
  fun_induction afterWord? word text with
  | case1 text => rfl
  | case2 w word =>
    have hne : w ≠ x := fun he ↦ h (he ▸ List.mem_cons_self)
    simp [afterWord?, hne]
  | case3 c word text ih => simp [afterWord?, ih fun hm ↦ h (List.mem_cons_of_mem _ hm)]
  | case4 w word c text hne => simp [afterWord?, hne]

/-! ### The first occurrence -/

/-- A word at the front is its own first occurrence. -/
theorem afterFirst?_of_afterWord? (h : afterWord? word text = some rest) :
    afterFirst? word text = some rest := by
  cases text with
  | nil => exact h
  | cons c text => rw [afterFirst?, h, Option.some_or]

/-- The first search fails exactly when the word stands nowhere. -/
theorem afterFirst?_eq_none_iff : afterFirst? word text = none ↔ ¬ word <:+: text := by
  induction text with
  | nil => rw [afterFirst?, afterWord?_eq_none_iff, List.prefix_nil, List.infix_nil]
  | cons c text ih =>
    rw [afterFirst?, Option.or_eq_none_iff, afterWord?_eq_none_iff, ih, List.infix_cons_iff,
      not_or]

theorem afterFirst?_concat (h : x ∉ word) (text : List Char) :
    afterFirst? word (text ++ [x]) = (afterFirst? word text).map (· ++ [x]) := by
  induction text with
  | nil =>
    cases word with
    | nil => rfl
    | cons w word =>
      have hne : w ≠ x := fun he ↦ h (he ▸ List.mem_cons_self)
      simp [afterFirst?, afterWord?, hne]
  | cons c text ih =>
    have hword := afterWord?_concat h (c :: text)
    rw [List.cons_append] at hword
    rw [List.cons_append, afterFirst?, afterFirst?, ih, hword]
    cases afterWord? word (c :: text) <;> rfl

/-- The first occurrence ends no later than any other, so what follows another occurrence is an
end of what follows the first. -/
theorem exists_afterFirst?_append (before word rest : List Char) :
    ∃ between, afterFirst? word (before ++ word ++ rest) = some (between ++ rest) := by
  induction before with
  | nil =>
    exact ⟨[], afterFirst?_of_afterWord? afterWord?_append_self⟩
  | cons c before ih =>
    obtain ⟨between, hb⟩ := ih
    cases hc : afterWord? word (c :: before ++ word ++ rest) with
    | none =>
      refine ⟨between, ?_⟩
      rw [← hb]
      simp only [List.cons_append] at hc ⊢
      rw [afterFirst?, hc, Option.none_or]
    | some tail =>
      -- the word stands at the front, so the known occurrence lies within or after it
      have htext : c :: before ++ word ++ rest = word ++ tail := afterWord?_eq_some_iff.1 hc
      have hlen := congrArg List.length htext
      have hrest : rest <:+ word ++ tail := ⟨c :: before ++ word, htext⟩
      have hle : rest.length ≤ tail.length := by
        simp only [List.length_append, List.length_cons] at hlen
        omega
      obtain ⟨between, hb⟩ :=
        List.suffix_of_suffix_length_le hrest (List.suffix_append word tail) hle
      exact ⟨between, by rw [afterFirst?_of_afterWord? hc, hb]⟩

/-! ### The last occurrence of a word -/

/-- The last search fails exactly when the word stands nowhere. -/
theorem afterLast?_eq_none_iff : afterLast? word text = none ↔ ¬ word <:+: text := by
  induction text with
  | nil => rw [afterLast?, afterWord?_eq_none_iff, List.prefix_nil, List.infix_nil]
  | cons c text ih =>
    rw [afterLast?, Option.or_eq_none_iff, afterWord?_eq_none_iff, ih, List.infix_cons_iff,
      not_or, and_comm]

/-- What is before a text with an occurrence has no say in which one is the last. -/
theorem afterLast?_append (h : afterLast? word text = some rest) (before : List Char) :
    afterLast? word (before ++ text) = some rest := by
  induction before with
  | nil => exact h
  | cons c before ih => rw [List.cons_append, afterLast?, ih, Option.some_or]

/-- **The last occurrence** of a non-empty word is the one after whose first character the word
does not occur again. -/
theorem afterLast?_eq_some_iff {w : Char} :
    afterLast? (w :: word) text = some rest ↔
      (∃ before, text = before ++ w :: word ++ rest) ∧ ¬ w :: word <:+: word ++ rest := by
  constructor
  · intro h
    refine ⟨eq_append_of_afterLast? h, ?_⟩
    induction text with
    | nil => simp [afterLast?, afterWord?] at h
    | cons c text ih =>
      rw [afterLast?] at h
      rcases Option.or_eq_some_iff.1 h with h | ⟨hnone, h⟩
      · exact ih h
      · have htext := afterWord?_eq_some_iff.1 h
        rw [List.cons_append, List.cons.injEq] at htext
        rw [← htext.2]
        exact afterLast?_eq_none_iff.1 hnone
  · rintro ⟨⟨before, rfl⟩, hlater⟩
    rw [List.append_assoc]
    refine afterLast?_append ?_ before
    rw [List.cons_append, afterLast?, afterLast?_eq_none_iff.2 hlater, Option.none_or]
    exact afterWord?_eq_some_iff.2 rfl

/-- A word whose last character stands nowhere else in it does not overlap itself: put in front of
a text in which it does not occur, it begins only at its own first character. -/
theorem not_infix_append_of_last {w z : Char} {body : List Char} (hz : z ∉ w :: body)
    (h : ¬ w :: body ++ [z] <:+: rest) : ¬ w :: body ++ [z] <:+: body ++ [z] ++ rest := by
  rw [List.infix_append_iff]
  rintro (hin | hin | ⟨left, right, heq, hleft, hright⟩)
  · have hlen := hin.length_le
    simp only [List.length_append, List.length_cons] at hlen
    omega
  · exact h hin
  · rcases List.eq_nil_or_concat' left with rfl | ⟨left, last, rfl⟩
    · exact h (heq ▸ hright.isInfix)
    rcases List.eq_nil_or_concat' right with rfl | ⟨right, final, rfl⟩
    · have hle := hleft.length_le
      have hlen := congrArg List.length heq
      simp only [List.length_append, List.length_cons, List.length_nil] at hle hlen
      omega
    -- both halves end in `z`, so it stands in the word before its end
    have hlast : last = z := by
      obtain ⟨before, hb⟩ := hleft
      rw [← List.append_assoc] at hb
      simpa using (List.append_inj_right' hb rfl)
    have hbody : w :: body = left ++ [last] ++ right := by
      rw [← List.append_assoc] at heq
      exact List.append_inj_left' heq rfl
    exact hz (by rw [hbody, hlast]; simp)

/-- The last occurrence of a word that does not overlap itself is one that no other follows. -/
theorem afterLast?_append_word (w : Char) (body : List Char) (z : Char) (hz : z ∉ w :: body)
    (before : List Char) (h : ¬ w :: body ++ [z] <:+: rest) :
    afterLast? (w :: body ++ [z]) (before ++ (w :: body ++ [z]) ++ rest) = some rest :=
  afterLast?_eq_some_iff.2 ⟨⟨before, rfl⟩, not_infix_append_of_last hz h⟩

/-! ### The last occurrence of a character -/

/-- The search for a character fails exactly when the text does not hold it. -/
theorem beforeLast?_eq_none_iff : beforeLast? x text = none ↔ x ∉ text := by
  induction text with
  | nil => simp [beforeLast?]
  | cons c text ih =>
    rw [beforeLast?, Option.or_eq_none_iff, Option.map_eq_none_iff, ih, List.mem_cons, not_or,
      and_comm]
    simp [eq_comm]

/-- The last occurrence of a character is the one after which it does not occur. -/
theorem beforeLast?_append_cons (before : List Char) (h : x ∉ rest) :
    beforeLast? x (before ++ x :: rest) = some before := by
  induction before with
  | nil => simp [beforeLast?, beforeLast?_eq_none_iff.2 h]
  | cons c before ih => rw [List.cons_append, beforeLast?, ih, Option.map_some, Option.some_or]

theorem beforeLast?_concat {y : Char} (h : y ≠ x) (text : List Char) :
    beforeLast? x (text ++ [y]) = beforeLast? x text := by
  induction text with
  | nil => simp [beforeLast?, h]
  | cons c text ih => rw [List.cons_append, beforeLast?, beforeLast?, ih]

end AlignmentTally.Text
