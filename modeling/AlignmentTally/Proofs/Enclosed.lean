import AlignmentTally.Proofs.Search
import Mathlib.Order.Bounds.Basic

/-!
# Texts between a word and a closing character

Both markers name something that stands between a word and a closing character. What counts is the
last such character of the text, and the last occurrence of the word that ends before it
(`enclosed?`).

## Where it stands

`Encloses` says the same of positions, as greatest ones: `close` is the greatest position of the
closing character, and `opening` the greatest position of the word that ends at `close` or before.
So they are determined (`Encloses.unique`), and whatever is found stands between such positions
(`exists_encloses`). The latter rests on the conditions for last occurrences in
`AlignmentTally.Proofs.Search`, and like them it is about words that are not empty.

## Where a search may start

More text in front changes neither, so the search finds the same in a text and in each of its ends
in which it finds something (`FrontBlind`). This decides where such a search may start: after the
first occurrence of another word it finds whatever it finds after a later one
(`FrontBlind.afterFirst?_cons`), so it makes no difference which occurrence a reader tries first.
A pattern tries all of them and a search only one, and this is why the two can agree.
-/

namespace AlignmentTally.Text

variable {word text rest : List Char} {x : Char}

/-- The text between the last occurrence of a word and the last `x`, where the word has to end
before that `x`. -/
def enclosed? (word : List Char) (x : Char) (text : List Char) : Option (List Char) :=
  (beforeLast? x text).bind (afterLast? word)

/-- A search that finds the same when more text stands in front. -/
def FrontBlind {α : Type} (search : List Char → Option α) : Prop :=
  ∀ ⦃text found⦄, search text = some found → ∀ front, search (front ++ text) = some found

theorem FrontBlind.map {α β : Type} {search : List Char → Option α} (h : FrontBlind search)
    (f : α → β) : FrontBlind fun text ↦ (search text).map f := by
  intro text found hfound front
  obtain ⟨value, hvalue, rfl⟩ := Option.map_eq_some_iff.1 hfound
  exact Option.map_eq_some_iff.2 ⟨value, h hvalue front, rfl⟩

/-! ### What is found -/

theorem eq_append_of_enclosed? {inside : List Char} (h : enclosed? word x text = some inside) :
    ∃ before after, text = before ++ word ++ inside ++ x :: after ∧ x ∉ after := by
  obtain ⟨head, hhead, hinside⟩ := Option.bind_eq_some_iff.1 h
  obtain ⟨after, rfl, hafter⟩ := eq_append_of_beforeLast? hhead
  obtain ⟨before, rfl⟩ := eq_append_of_afterLast? hinside
  exact ⟨before, after, rfl, hafter⟩

theorem frontBlind_enclosed? (word : List Char) (x : Char) : FrontBlind (enclosed? word x) := by
  intro text inside h front
  obtain ⟨head, hhead, hinside⟩ := Option.bind_eq_some_iff.1 h
  obtain ⟨after, rfl, hafter⟩ := eq_append_of_beforeLast? hhead
  rw [enclosed?, ← List.append_assoc, beforeLast?_append_cons _ hafter, Option.bind_some]
  exact afterLast?_append hinside front

/-- Something is found exactly when the word occurs and the character stands after it. -/
theorem isSome_enclosed?_iff :
    (enclosed? word x text).isSome ↔
      ∃ before inside after, text = before ++ word ++ inside ++ x :: after := by
  constructor
  · intro h
    obtain ⟨inside, hinside⟩ := Option.isSome_iff_exists.1 h
    obtain ⟨before, after, htext, -⟩ := eq_append_of_enclosed? hinside
    exact ⟨before, inside, after, htext⟩
  · rintro ⟨before, inside, after, rfl⟩
    -- the last `x` of the text is the last one after the word
    obtain ⟨head, hhead⟩ : ∃ head, beforeLast? x (inside ++ x :: after) = some head := by
      rw [← Option.ne_none_iff_exists', ne_eq, beforeLast?_eq_none_iff, not_not]
      simp
    obtain ⟨tail, htail, hx⟩ := eq_append_of_beforeLast? hhead
    have hword : afterLast? word (before ++ word ++ head) ≠ none := by
      rw [ne_eq, afterLast?_eq_none_iff, not_not]
      exact ⟨before, head, rfl⟩
    rw [List.append_assoc, htail, ← List.append_assoc, enclosed?, beforeLast?_append_cons _ hx,
      Option.bind_some, Option.isSome_iff_ne_none]
    exact hword

/-- The word that encloses a text does not occur in it. -/
theorem not_infix_of_enclosed? {w : Char} {inside : List Char}
    (h : enclosed? (w :: word) x text = some inside) : ¬ w :: word <:+: inside := by
  obtain ⟨head, -, hinside⟩ := Option.bind_eq_some_iff.1 h
  exact fun hin ↦ (afterLast?_eq_some_iff.1 hinside).2 (hin.trans (List.suffix_append ..).isInfix)

/-! ### Where it stands -/

/-- What stands between two other parts of a text stands at the positions between them. -/
theorem extract_append_append (front inside rest : List Char) :
    (front ++ inside ++ rest).extract front.length (front ++ inside).length = inside := by
  rw [List.extract_eq_take_drop, List.append_assoc, List.drop_left, List.length_append,
    Nat.add_sub_cancel_left, List.take_left]

/-- What is enclosed starts after the word at the position `opening` and ends before the `x` at the
position `close`. -/
structure Encloses (word : List Char) (x : Char) (text : List Char) (opening close : Nat) :
    Prop where
  /-- The `x` is the last one. -/
  close_last : IsGreatest {i | text[i]? = some x} close
  /-- The word is the last one that ends at or before the `x`. -/
  opening_last : IsGreatest {i | word <+: text.drop i ∧ i + word.length ≤ close} opening

/-- The positions are determined. -/
theorem Encloses.unique {opening close opening' close' : Nat}
    (h : Encloses word x text opening close) (h' : Encloses word x text opening' close') :
    opening = opening' ∧ close = close' := by
  obtain rfl := h.close_last.unique h'.close_last
  exact ⟨h.opening_last.unique h'.opening_last, rfl⟩

/-- A character behind which it does not occur is at its last position. -/
theorem isGreatest_close (head : List Char) (h : x ∉ rest) :
    IsGreatest {i | (head ++ x :: rest)[i]? = some x} head.length := by
  refine ⟨by simp, fun i hi ↦ ?_⟩
  by_contra hlt
  obtain ⟨n, hn⟩ := Nat.exists_eq_add_of_lt (Nat.lt_of_not_le hlt)
  have hx : (head ++ x :: rest)[i]? = some x := hi
  rw [hn, Nat.add_assoc, List.getElem?_append_right (Nat.le_add_right ..),
    Nat.add_sub_cancel_left, List.getElem?_cons_succ] at hx
  exact h (List.mem_of_getElem? hx)

/-- A word after whose first character it does not begin again, up to some place, is at its last
position up to that place. -/
theorem isGreatest_opening {w : Char} {inside : List Char} (before rest : List Char)
    (h : ¬ w :: word <:+: word ++ inside) :
    IsGreatest {i | w :: word <+: (before ++ w :: word ++ inside ++ rest).drop i ∧
      i + (w :: word).length ≤ (before ++ w :: word ++ inside).length} before.length := by
  refine ⟨⟨⟨inside ++ rest, by simp⟩, by simp⟩, ?_⟩
  rintro i ⟨hword, hle⟩
  by_contra hlt
  obtain ⟨n, hn⟩ := Nat.exists_eq_add_of_lt (Nat.lt_of_not_le hlt)
  have htail : (before ++ w :: word ++ inside).drop i = (word ++ inside).drop n := by
    rw [hn, List.append_assoc, Nat.add_assoc, ← List.drop_drop, List.drop_left]
    rfl
  rw [List.drop_append_of_le_length (Nat.le_trans (Nat.le_add_right ..) hle), htail] at hword
  have hhere : w :: word <+: (word ++ inside).drop n := by
    refine List.prefix_of_prefix_length_le hword (List.prefix_append ..) ?_
    rw [← htail, List.length_drop]
    exact Nat.le_sub_of_add_le' hle
  exact h (hhere.isInfix.trans (List.drop_suffix ..).isInfix)

/-- **Where an enclosed text stands**: between the last word that ends before the last `x` and that
`x`. -/
theorem exists_encloses {w : Char} {inside : List Char}
    (h : enclosed? (w :: word) x text = some inside) :
    ∃ before after, text = before ++ w :: word ++ inside ++ x :: after ∧
      Encloses (w :: word) x text before.length (before ++ w :: word ++ inside).length := by
  obtain ⟨head, hhead, hinside⟩ := Option.bind_eq_some_iff.1 h
  obtain ⟨after, rfl, hafter⟩ := eq_append_of_beforeLast? hhead
  obtain ⟨⟨before, rfl⟩, hlast⟩ := afterLast?_eq_some_iff.1 hinside
  exact ⟨before, after, rfl, isGreatest_close _ hafter, isGreatest_opening before _ hlast⟩

/-! ### One character more in front -/

/-- A word at the front is read in two parts. -/
theorem afterWord?_append (word more text : List Char) :
    afterWord? (word ++ more) text = (afterWord? word text).bind (afterWord? more) := by
  fun_induction afterWord? word text with
  | case1 text => rfl
  | case2 w word => rfl
  | case3 word c text ih => simpa [afterWord?] using ih
  | case4 w word c text hne => simp [afterWord?, hne]

/-- A word at the front and the last `x` after it are found in either order. -/
theorem afterWord?_bind_beforeLast? (word : List Char) (x : Char) (text : List Char) :
    (afterWord? word text).bind (beforeLast? x) = (beforeLast? x text).bind (afterWord? word) := by
  fun_induction afterWord? word text with
  | case1 text => cases h : beforeLast? x text <;> simp [h, afterWord?]
  | case2 w word => rfl
  | case3 word c text ih =>
    rw [ih, beforeLast?]
    cases beforeLast? x text with
    | some head => simp [afterWord?]
    | none => by_cases hc : c = x <;> simp [hc, afterWord?]
  | case4 w word c text hne =>
    rw [Option.bind_none, beforeLast?]
    cases beforeLast? x text with
    | some head => simp [afterWord?, hne]
    | none => by_cases hc : c = x <;> simp [hc, afterWord?]

/-- With one character more in front, either the same is found, or the word is at the front. -/
theorem enclosed?_cons (word : List Char) (x c : Char) (text : List Char) :
    enclosed? word x (c :: text) =
      (enclosed? word x text).or ((afterWord? word (c :: text)).bind (beforeLast? x)) := by
  rw [afterWord?_bind_beforeLast?, enclosed?, enclosed?, beforeLast?]
  cases beforeLast? x text with
  | some head => simp [afterLast?]
  | none => by_cases hc : c = x <;> simp [hc, afterLast?]

/-! ### After the first occurrence of a word -/

section FrontBlind

variable {α : Type} {search : List Char → Option α} {found : α} {c : Char}

/-- What is found after a later occurrence of a word is found after an earlier one. -/
theorem FrontBlind.eq_of_later (h : FrontBlind search)
    (hword : afterWord? word (c :: text) = some rest)
    (hlater : (afterFirst? word text).bind search = some found) : search rest = some found := by
  obtain ⟨tail, htail, hfound⟩ := Option.bind_eq_some_iff.1 hlater
  obtain ⟨before, rfl⟩ := eq_append_of_afterFirst? htail
  -- what follows the later occurrence is an end of what follows the earlier one
  have htext : c :: (before ++ word ++ tail) = word ++ rest := afterWord?_eq_some_iff.1 hword
  have hlength := congrArg List.length htext
  have hle : tail.length ≤ rest.length := by
    simp only [List.length_cons, List.length_append] at hlength
    omega
  have hsuffix : tail <:+ word ++ rest := ⟨c :: (before ++ word), htext⟩
  obtain ⟨between, rfl⟩ :=
    List.suffix_of_suffix_length_le hsuffix (List.suffix_append word rest) hle
  exact h hfound between

/-- After the first occurrence of a word, the occurrences may be tried from the first one on. -/
theorem FrontBlind.afterFirst?_cons (h : FrontBlind search) (word : List Char) (c : Char)
    (text : List Char) :
    (afterFirst? word (c :: text)).bind search =
      ((afterWord? word (c :: text)).bind search).or ((afterFirst? word text).bind search) := by
  rw [afterFirst?]
  cases hword : afterWord? word (c :: text) with
  | none => rfl
  | some rest =>
    rw [Option.some_or, Option.bind_some]
    cases hlater : (afterFirst? word text).bind search with
    | none => rw [Option.or_none]
    | some found => rw [h.eq_of_later hword hlater, Option.some_or]

/-- They may as well be tried from the last one on. -/
theorem FrontBlind.afterFirst?_cons_last (h : FrontBlind search) (word : List Char) (c : Char)
    (text : List Char) :
    (afterFirst? word (c :: text)).bind search =
      ((afterFirst? word text).bind search).or ((afterWord? word (c :: text)).bind search) := by
  rw [h.afterFirst?_cons]
  cases hlater : (afterFirst? word text).bind search with
  | none => rw [Option.or_none, Option.none_or]
  | some found =>
    cases hword : afterWord? word (c :: text) with
    | none => rfl
    | some rest => rw [Option.bind_some, h.eq_of_later hword hlater]

/-- A search after the first occurrence of a word is itself blind to what stands in front. -/
theorem FrontBlind.afterFirst? (h : FrontBlind search) (word : List Char) :
    FrontBlind fun text ↦ (Text.afterFirst? word text).bind search := by
  intro text found hfound front
  induction front with
  | nil => exact hfound
  | cons c front ih =>
    have hcons := h.afterFirst?_cons_last word c (front ++ text)
    exact hcons.trans (Option.or_eq_some_iff.2 (Or.inl ih))

end FrontBlind

/-! ### Words in order -/

/-- A text holds one word, behind it another one, and behind this a character. -/
def InOrder (first word : List Char) (x : Char) (text : List Char) : Prop :=
  ∃ before between inside after,
    text = before ++ first ++ between ++ word ++ inside ++ x :: after

/-- After the first occurrence of a word something is enclosed exactly when the words and the
character stand in order. -/
theorem isSome_afterFirst?_enclosed?_iff {first : List Char} :
    ((Text.afterFirst? first text).bind (enclosed? word x)).isSome ↔ InOrder first word x text := by
  constructor
  · intro h
    obtain ⟨inside, hinside⟩ := Option.isSome_iff_exists.1 h
    obtain ⟨rest, hrest, henclosed⟩ := Option.bind_eq_some_iff.1 hinside
    obtain ⟨before, rfl⟩ := eq_append_of_afterFirst? hrest
    obtain ⟨between, after, rfl, -⟩ := eq_append_of_enclosed? henclosed
    exact ⟨before, between, inside, after, by simp only [List.append_assoc]⟩
  · rintro ⟨before, between, inside, after, rfl⟩
    have henclosed : (enclosed? word x (between ++ word ++ inside ++ x :: after)).isSome :=
      isSome_enclosed?_iff.2 ⟨between, inside, after, rfl⟩
    obtain ⟨found, hfound⟩ := Option.isSome_iff_exists.1 henclosed
    have hfirst : (Text.afterFirst? first (first ++ (between ++ word ++ inside ++ x :: after))).bind
        (enclosed? word x) = some found := by
      rw [afterFirst?_of_afterWord? afterWord?_append_self, Option.bind_some, hfound]
    have hblind := (frontBlind_enclosed? word x).afterFirst? first hfirst before
    simp only [List.append_assoc] at hblind ⊢
    rw [hblind, Option.isSome_some]

/-- What is found after the first occurrence of a word is enclosed in the text. -/
theorem enclosed?_of_afterFirst? {first inside : List Char}
    (h : (Text.afterFirst? first text).bind (enclosed? word x) = some inside) :
    enclosed? word x text = some inside := by
  obtain ⟨rest, hrest, hinside⟩ := Option.bind_eq_some_iff.1 h
  obtain ⟨before, rfl⟩ := eq_append_of_afterFirst? hrest
  exact frontBlind_enclosed? word x hinside _

end AlignmentTally.Text
