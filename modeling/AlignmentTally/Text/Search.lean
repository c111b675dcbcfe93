/-!
# Searching a text for a word

What stands after the first occurrence of a word, after its last occurrence, and before the last
occurrence of a character. Each search answers `none` exactly when there is no occurrence, and
each answer splits the text: `eq_append_of_afterFirst?`, `eq_append_of_afterLast?` and
`eq_append_of_beforeLast?` give back the parts around it.
-/

namespace AlignmentTally.Text

/-- The text after `word`, if the text begins with it. -/
def afterWord? : List Char → List Char → Option (List Char)
  | [], text => some text
  | _ :: _, [] => none
  | w :: word, c :: text => if w = c then afterWord? word text else none

/-- The text after the first occurrence of `word`. -/
def afterFirst? (word : List Char) : List Char → Option (List Char)
  | [] => afterWord? word []
  | c :: text => (afterWord? word (c :: text)).or (afterFirst? word text)

/-- The text after the last occurrence of `word`. -/
def afterLast? (word : List Char) : List Char → Option (List Char)
  | [] => afterWord? word []
  | c :: text => (afterLast? word text).or (afterWord? word (c :: text))

/-- The text before the last occurrence of the character `x`. -/
def beforeLast? (x : Char) : List Char → Option (List Char)
  | [] => none
  | c :: text => ((beforeLast? x text).map (c :: ·)).or (if c = x then some [] else none)

/-! ### What an answer says about the text -/

theorem afterWord?_eq_some_iff {word text rest : List Char} :
    afterWord? word text = some rest ↔ text = word ++ rest := by
  fun_induction afterWord? word text with
  | case1 text => simp
  | case2 w word => simp
  | case3 c word text ih => simp [ih]
  | case4 w word c text h => simp [Ne.symm h]

theorem eq_append_of_afterFirst? {word text rest : List Char}
    (h : afterFirst? word text = some rest) : ∃ before, text = before ++ word ++ rest := by
  fun_induction afterFirst? word text with
  | case1 => exact ⟨[], by simpa using afterWord?_eq_some_iff.1 h⟩
  | case2 c text ih =>
    rcases Option.or_eq_some_iff.1 h with h | ⟨_, h⟩
    · exact ⟨[], by simpa using afterWord?_eq_some_iff.1 h⟩
    · obtain ⟨before, rfl⟩ := ih h
      exact ⟨c :: before, rfl⟩

theorem eq_append_of_afterLast? {word text rest : List Char}
    (h : afterLast? word text = some rest) : ∃ before, text = before ++ word ++ rest := by
  fun_induction afterLast? word text with
  | case1 => exact ⟨[], by simpa using afterWord?_eq_some_iff.1 h⟩
  | case2 c text ih =>
    rcases Option.or_eq_some_iff.1 h with h | ⟨_, h⟩
    · obtain ⟨before, rfl⟩ := ih h
      exact ⟨c :: before, rfl⟩
    · exact ⟨[], by simpa using afterWord?_eq_some_iff.1 h⟩

theorem eq_append_of_beforeLast? {x : Char} {text head : List Char}
    (h : beforeLast? x text = some head) : ∃ rest, text = head ++ x :: rest ∧ x ∉ rest := by
  induction text generalizing head with
  | nil => simp [beforeLast?] at h
  | cons c text ih =>
    cases hb : beforeLast? x text with
    | some inner =>
      obtain ⟨rest, rfl, hx⟩ := ih hb
      simp only [beforeLast?, hb, Option.map_some, Option.some_or, Option.some.injEq] at h
      exact ⟨rest, by simp [← h], hx⟩
    | none =>
      have hx : x ∉ text := by
        clear h ih
        induction text with
        | nil => simp
        | cons d text ih =>
          simp only [beforeLast?, Option.or_eq_none_iff, Option.map_eq_none_iff] at hb
          have hd : d ≠ x := by
            intro hd
            simp [hd] at hb
          simpa [Ne.symm hd] using ih hb.1
      simp only [beforeLast?, hb, Option.map_none, Option.none_or] at h
      split at h
      · next hc => exact ⟨text, by simp_all, hx⟩
      · simp at h

end AlignmentTally.Text
