import AlignmentTally.Proofs.Formats
import AlignmentTally.Proofs.Json.Spelling
import Mathlib.Data.List.TakeDrop
import Mathlib.Data.List.TakeWhile

/-!
# Every spelling is read

The reader of `Json.read` against the grammar of spellings.

## What it means to read a spelling

A reader `Reads` a kind of spelling when it takes exactly the spelling, behind any blanks, and
leaves what stands behind it. What stands behind matters to numbers only: they go on as long as they
can, so a text that ends an integer must not go on with a digit, a point or an exponent
(`Json.Ends`). Blanks, commas and closing marks do not.

## Lists

The readers of lists are handed the reader of what is inside, and so are their lemmas: if that one
reads what is inside, the lists are read (`Json.readArray_of_spells`, `Json.readObject_of_spells`).
Their rounds are bounded by the length of the text, which is enough because each element takes up
some of it (`Json.SpellsMore.length_lt`).

## Values

Induction on the depth then gives `Json.reads_readValue`: a reader of some depth reads the spellings
of that depth. It rests on nothing about the depth but that both sides count it alike. For a whole
document nothing is left over but blanks (`Json.read_of_spellsDocument`), and that is the form in
which the other modules use it: to know what a text is read as, it is enough to spell it.
-/

namespace AlignmentTally.Json

/-! ### Strings -/

/-- No character stands in the range of the surrogates. -/
theorem toNat_lt_or_gt (c : Char) : c.toNat < 0xd800 ∨ 0xdfff < c.toNat ∧ c.toNat < 0x110000 :=
  c.valid

/-- A character is put together again from the two halves of its surrogate pair. -/
theorem ofSurrogates_of_le {c : Char} (supplementary : 0x10000 ≤ c.toNat) :
    ofSurrogates (0xd800 + (c.toNat - 0x10000) / 0x400) (0xdc00 + (c.toNat - 0x10000) % 0x400) =
      c := by
  have whole : 0x10000 + (0xd800 + (c.toNat - 0x10000) / 0x400 - 0xd800) * 0x400 +
      (0xdc00 + (c.toNat - 0x10000) % 0x400 - 0xdc00) = c.toNat := by omega
  rw [ofSurrogates, whole, Char.ofNat_toNat]

/-- A character that is spelled is read, and then the rest of the string. -/
theorem readString_append {text : List Char} {c : Char} (spelled : SpellsChar text c)
    {rest chars unread : List Char} (read : readString rest = .ok (chars, unread)) :
    readString (text ++ rest) = .ok (c :: chars, unread) := by
  cases spelled with
  | raw noQuote noBackslash noControl =>
    rw [List.singleton_append, readString]
    · simp [noControl, read, bind, Except.bind, pure, Except.pure]
    all_goals simp [noQuote, noBackslash]
  | @letter l c known =>
    have notUnit : l ≠ 'u' := by
      rintro rfl
      cases known
    rw [List.cons_append, List.singleton_append, readString]
    · simp [known, read, bind, Except.bind, pure, Except.pure]
    all_goals simp [notUnit]
  | @unit p q r s c digits =>
    have noLow : isLowSurrogate c.toNat = false := by
      have valid := toNat_lt_or_gt c
      simp only [isLowSurrogate, Bool.and_eq_false_iff, decide_eq_false_iff_not]
      omega
    have noHigh : isHighSurrogate c.toNat = false := by
      have valid := toNat_lt_or_gt c
      simp only [isHighSurrogate, Bool.and_eq_false_iff, decide_eq_false_iff_not]
      omega
    simp only [List.cons_append, List.nil_append, readString, digits, noLow, noHigh,
      Bool.false_eq_true, ↓reduceIte, read, Char.ofNat_toNat]
    rfl
  | @pair p q r s p' q' r' s' c supplementary high low =>
    have valid := toNat_lt_or_gt c
    have isHigh : isHighSurrogate (0xd800 + (c.toNat - 0x10000) / 0x400) = true := by
      simp only [isHighSurrogate, Bool.and_eq_true, decide_eq_true_eq]
      omega
    have noLow : isLowSurrogate (0xd800 + (c.toNat - 0x10000) / 0x400) = false := by
      simp only [isLowSurrogate, Bool.and_eq_false_iff, decide_eq_false_iff_not]
      omega
    have isLow : isLowSurrogate (0xdc00 + (c.toNat - 0x10000) % 0x400) = true := by
      simp only [isLowSurrogate, Bool.and_eq_true, decide_eq_true_eq]
      omega
    simp only [List.cons_append, List.nil_append, readString, high, low, noLow, isHigh, isLow,
      Bool.false_eq_true, ↓reduceIte, read, ofSurrogates_of_le supplementary]
    rfl

/-- The rest of a string is read up to its closing quote. -/
theorem readString_of_spellsChars {text chars : List Char} (spelled : SpellsChars text chars)
    (rest : List Char) : readString (text ++ '"' :: rest) = .ok (chars, rest) := by
  induction spelled with
  | nil => rfl
  | cons head tail ih =>
    rw [List.append_assoc]
    exact readString_append head ih

/-! ### Integers -/

/-- A text that no number goes on into. -/
def Ends (rest : List Char) : Prop :=
  ∀ c ∈ rest.head?, c.isDigit = false ∧ c ≠ '.' ∧ c ≠ 'e' ∧ c ≠ 'E'

theorem Ends.cons {c : Char} (h : c.isDigit = false ∧ c ≠ '.' ∧ c ≠ 'e' ∧ c ≠ 'E')
    (rest : List Char) : Ends (c :: rest) := by
  rintro _ ⟨⟩
  exact h

/-- The digits of a positive number do not start with a zero. -/
theorem head?_toDigits_ne {n : Nat} (pos : 0 < n) : (Nat.toDigits 10 n).head? ≠ some '0' := by
  induction n using Nat.strongRecOn with
  | ind n ih =>
    rcases Nat.lt_or_ge n 10 with small | large
    · have all : ∀ d < 10, 0 < d → d.digitChar ≠ '0' := by decide
      simpa [Nat.toDigits_of_lt_base small] using all n small pos
    · have front := ih (n / 10) (by omega) (by omega)
      rw [Nat.toDigits_of_base_le (by decide) large, List.head?_append]
      rcases head : (Nat.toDigits 10 (n / 10)).head? with _ | c
      · exact absurd (List.head?_eq_none_iff.1 head) Nat.toDigits_ne_nil
      · rw [head] at front
        exact front

theorem le_ofDigitChars (digits : List Char) (start : Nat) :
    start ≤ Nat.ofDigitChars 10 digits start := by
  induction digits generalizing start with
  | nil => simp
  | cons c digits ih =>
    rw [Nat.ofDigitChars_cons]
    have rest := ih (10 * start + (c.toNat - '0'.toNat))
    omega

/-- Digits are all appended when their number fits. -/
theorem appendDigits_eq {digits : List Char} {start : Nat}
    (fits : Nat.ofDigitChars 10 digits start ≤ maxSignificand) :
    appendDigits start digits = (Nat.ofDigitChars 10 digits start, 0) := by
  induction digits generalizing start with
  | nil => simp [appendDigits]
  | cons c digits ih =>
    rw [Nat.ofDigitChars_cons] at fits ⊢
    have next : 10 * start + digitValue c ≤ maxSignificand :=
      Nat.le_trans (le_ofDigitChars digits _) fits
    rw [appendDigits, if_pos next]
    exact ih fits

theorem spanDigits_append {digits rest : List Char} (all : ∀ c ∈ digits, c.isDigit = true)
    (ends : Ends rest) : spanDigits (digits ++ rest) = (digits, rest) := by
  have stops : rest.takeWhile Char.isDigit = [] ∧ rest.dropWhile Char.isDigit = rest := by
    rcases rest with _ | ⟨c, rest⟩
    · exact ⟨rfl, rfl⟩
    · simp [(ends c rfl).1]
  rw [spanDigits, List.span_eq_takeWhile_dropWhile, List.takeWhile_append_of_pos all,
    List.dropWhile_append_of_pos all, stops.1, stops.2, List.append_nil]

/-- An integer ends where no number goes on. -/
theorem readAfterWhole_of_ends {rest : List Char} (ends : Ends rest) (negative : Bool) (n : Nat) :
    readAfterWhole negative n 0 rest = finishInteger negative n rest := by
  rcases rest with _ | ⟨c, rest⟩
  · rfl
  · obtain ⟨-, point, small, large⟩ := ends c rfl
    rw [readAfterWhole]
    · simp [small, large]
    · simp [point]

/-- Decimal digits are read as the number that they write. -/
theorem readNumber_toDigits {n : Nat} (fits : n < 1 <<< 64) {rest : List Char} (ends : Ends rest)
    (negative : Bool) :
    readNumber negative (Nat.toDigits 10 n ++ rest) = finishInteger negative n rest := by
  rcases Nat.eq_zero_or_pos n with rfl | pos
  · have noDigit : (rest.head?.map Char.isDigit).getD false = false := by
      rcases rest with _ | ⟨c, rest⟩
      · rfl
      · exact (ends c rfl).1
    rw [Nat.toDigits_zero, List.singleton_append, readNumber, noDigit]
    exact readAfterWhole_of_ends ends negative 0
  · have digits : ∀ c ∈ Nat.toDigits 10 n, c.isDigit = true := fun c mem ↦
      Nat.isDigit_of_mem_toDigits (by decide) (by decide) mem
    have spanned := spanDigits_append digits ends
    have appended : appendDigits 0 (Nat.toDigits 10 n) = (n, 0) := by
      have value : Nat.ofDigitChars 10 (Nat.toDigits 10 n) 0 = n := Nat.ofDigitChars_ten_toDigits
      rw [appendDigits_eq (by rw [value]; exact Nat.le_sub_one_of_lt fits), value]
    have first := head?_toDigits_ne pos
    rcases shape : Nat.toDigits 10 n with _ | ⟨c, more⟩
    · exact absurd shape Nat.toDigits_ne_nil
    · rw [shape] at digits spanned appended first
      have noZero : c ≠ '0' := fun same ↦ first (congrArg some same)
      rw [List.cons_append] at spanned ⊢
      rw [readNumber]
      · simp only [digits c (by simp), ↓reduceIte, spanned, appended]
        exact readAfterWhole_of_ends ends negative n
      · simp [noZero]

/-- A digit decides for a number. -/
theorem readScalar_cons_of_isDigit {c : Char} (digit : c.isDigit = true) (rest : List Char) :
    readScalar (c :: rest) = readNumber false (c :: rest) := by
  rw [readScalar, if_pos digit]
  all_goals
    rintro rfl
    exact absurd digit (by decide)

/-- An integer is read, and nothing behind it. -/
theorem readScalar_writeInteger {n : Int} (lower : -(1 <<< 63 : Nat) ≤ n)
    (upper : n < (1 <<< 64 : Nat)) {rest : List Char} (ends : Ends rest) :
    readScalar (writeInteger n ++ rest) = .ok (.integer n, rest) := by
  rw [writeInteger]
  split
  next negative =>
    have fits : n.natAbs < 1 <<< 64 := by simp at lower ⊢; omega
    have range : ¬ (n.natAbs = 0 ∨ 1 <<< 63 < n.natAbs) := by simp at lower ⊢; omega
    have back : -(n.natAbs : Int) = n := by omega
    have finished : finishInteger true n.natAbs rest = .ok (.integer (-n.natAbs), rest) := by
      rw [finishInteger, if_neg range]
      rfl
    rw [List.cons_append, readScalar, readNumber_toDigits fits ends, finished, back]
  next positive =>
    have fits : n.natAbs < 1 <<< 64 := by simp at upper ⊢; omega
    have back : (n.natAbs : Int) = n := by omega
    have read := readNumber_toDigits fits ends false
    rcases shape : Nat.toDigits 10 n.natAbs with _ | ⟨c, more⟩
    · exact absurd shape Nat.toDigits_ne_nil
    · have digit : c.isDigit = true :=
        Nat.isDigit_of_mem_toDigits (by decide) (by decide) (shape ▸ List.mem_cons_self)
      rw [shape, List.cons_append] at read
      have finished : finishInteger false n.natAbs rest = .ok (.integer n.natAbs, rest) := rfl
      rw [List.cons_append, readScalar_cons_of_isDigit digit, read, finished, back]

/-- A value that is not a container is read, and nothing behind it. -/
theorem readScalar_of_spellsScalar {text : List Char} {value : Json}
    (spelled : SpellsScalar text value) {rest : List Char} (ends : Ends rest) :
    readScalar (text ++ rest) = .ok (value, rest) := by
  cases spelled with
  | nullWord => rfl
  | trueWord => rfl
  | falseWord => rfl
  | integer lower upper => exact readScalar_writeInteger lower upper ends
  | string spelled =>
    obtain ⟨inside⟩ := spelled
    rw [List.append_assoc, List.cons_append, List.singleton_append, readScalar,
      readString_of_spellsChars inside]
    simp [bind, Except.bind, pure, Except.pure]

/-! ### Blanks -/

theorem skipBlanks_append {blanks : List Char} (isBlanks : Blanks blanks) (text : List Char) :
    skipBlanks (blanks ++ text) = skipBlanks text :=
  List.dropWhile_append_of_pos isBlanks

theorem skipBlanks_cons {c : Char} (noBlank : isBlank c = false) (text : List Char) :
    skipBlanks (c :: text) = c :: text := by
  simp [skipBlanks, noBlank]

theorem Blanks.ends_append {blanks : List Char} (isBlanks : Blanks blanks) {text : List Char}
    (ends : Ends text) : Ends (blanks ++ text) := by
  rcases blanks with _ | ⟨c, blanks⟩
  · exact ends
  · have blank : isBlank c = true := isBlanks c (by simp)
    simp only [isBlank, Bool.or_eq_true, decide_eq_true_eq] at blank
    refine .cons ?_ _
    rcases blank with ((rfl | rfl) | rfl) | rfl <;> decide

/-! ### Lists -/

/-- A text starts with a character that is no blank and closes nothing. -/
def Starts (text : List Char) : Prop :=
  ∃ c rest, text = c :: rest ∧ isBlank c = false ∧ c ≠ ']' ∧ c ≠ '}'

/-- A reader reads what is spelled, behind any blanks, and nothing behind it. -/
def Reads {α : Type} (spells : List Char → α → Prop)
    (reader : List Char → Except Fault (α × List Char)) : Prop :=
  ∀ text value, spells text value → Starts text ∧ ∀ blanks rest, Blanks blanks → Ends rest →
    reader (blanks ++ (text ++ rest)) = .ok (value, rest)

section Lists

variable {α : Type} {spells : List Char → α → Prop} {close : Char}

/-- No number goes on into what follows an element. -/
theorem SpellsMore.ends {text : List Char} {more : List α}
    (spelled : SpellsMore spells close text more) (closes : ∀ rest, Ends (close :: rest))
    (rest : List Char) : Ends (text ++ rest) := by
  cases spelled with
  | close isBlanks =>
    rw [List.append_assoc]
    exact isBlanks.ends_append (closes _)
  | comma isBefore =>
    rw [List.append_assoc]
    exact isBefore.ends_append (.cons (by decide) _)

/-- Each element takes up some of the text. -/
theorem SpellsMore.length_lt {text : List Char} {more : List α}
    (spelled : SpellsMore spells close text more) : more.length < text.length := by
  induction spelled with
  | close => simp
  | comma _ _ _ _ ih =>
    simp only [List.length_append, List.length_cons]
    omega

end Lists

section Items

variable {spells : List Char → Json → Prop} {item : List Char → Except Fault (Json × List Char)}

/-- What follows an item is read up to the closing bracket. -/
theorem readMoreItems_of_spells (reads : Reads spells item) {text : List Char}
    {items : List Json} (spelled : SpellsMore spells ']' text items) (rounds : Nat)
    (enough : items.length < rounds) (rest : List Char) :
    readMoreItems item rounds (text ++ rest) = .ok (items, rest) := by
  induction spelled generalizing rounds with
  | close isBlanks =>
    obtain ⟨rounds, rfl⟩ := Nat.exists_eq_add_one_of_ne_zero (Nat.ne_zero_of_lt enough)
    rw [readMoreItems, List.append_assoc, skipBlanks_append isBlanks]
    rfl
  | @comma before after text more first items isBefore isAfter head tail ih =>
    obtain ⟨rounds, rfl⟩ := Nat.exists_eq_add_one_of_ne_zero (Nat.ne_zero_of_lt enough)
    obtain ⟨⟨c, tokens, rfl, noBlank, noClose, -⟩, readsHead⟩ := reads text first head
    have read : item (c :: (tokens ++ (more ++ rest))) = .ok (first, more ++ rest) :=
      readsHead [] _ (by simp [Blanks]) (tail.ends (.cons (by decide)) rest)
    have readMore := ih rounds (by simpa using enough)
    have shape : before ++ ',' :: (after ++ (c :: tokens ++ more)) ++ rest =
        before ++ ',' :: (after ++ (c :: (tokens ++ (more ++ rest)))) := by simp
    rw [readMoreItems, shape, skipBlanks_append isBefore, skipBlanks_cons (by decide)]
    simp only [skipBlanks_append isAfter, skipBlanks_cons noBlank]
    split
    case h_1 nothing => cases nothing
    case h_2 closing => cases closing; exact absurd rfl noClose
    case h_3 => simp [read, readMore, bind, Except.bind, pure, Except.pure]

/-- Items are read up to the closing bracket. -/
theorem readArray_of_spells (reads : Reads spells item) {text : List Char} {items : List Json}
    (spelled : SpellsList spells ']' text items) (rest : List Char) :
    readArray item (text ++ rest) = .ok (items, rest) := by
  cases spelled with
  | nil isBlanks =>
    rw [readArray, List.append_assoc, skipBlanks_append isBlanks]
    rfl
  | @cons before text more first items isBefore head tail =>
    obtain ⟨⟨c, tokens, rfl, noBlank, noClose, -⟩, readsHead⟩ := reads text first head
    have read : item (c :: (tokens ++ (more ++ rest))) = .ok (first, more ++ rest) :=
      readsHead [] _ (by simp [Blanks]) (tail.ends (.cons (by decide)) rest)
    have readMore := readMoreItems_of_spells reads tail (more ++ rest).length
      (Nat.lt_of_lt_of_le tail.length_lt (by simp)) rest
    have shape : before ++ (c :: tokens ++ more) ++ rest =
        before ++ (c :: (tokens ++ (more ++ rest))) := by simp
    rw [readArray, shape, skipBlanks_append isBefore, skipBlanks_cons noBlank]
    split
    case h_1 nothing => cases nothing
    case h_2 closing => cases closing; exact absurd rfl noClose
    case h_3 => simp only [read, readMore, bind, Except.bind, pure, Except.pure]

end Items

section Members

variable {spells : List Char → Json → Prop} {item : List Char → Except Fault (Json × List Char)}

/-- A member is read after the opening quote of its key. -/
theorem readMember_of_spells (reads : Reads spells item) {text : List Char}
    {member : String × Json} (spelled : SpellsMember spells text member) :
    ∃ inside, text = '"' :: inside ∧ ∀ rest, Ends rest →
      readMember item (inside ++ rest) = .ok (member, rest) := by
  obtain @⟨_, before, after, text, key, value, @⟨keyText, _, isKey⟩, isBefore, isAfter, isValue⟩ :=
    spelled
  refine ⟨keyText ++ '"' :: (before ++ ':' :: (after ++ text)), by simp, fun rest ends ↦ ?_⟩
  have read := (reads text value isValue).2 after rest isAfter ends
  have shape : keyText ++ '"' :: (before ++ ':' :: (after ++ text)) ++ rest =
      keyText ++ '"' :: (before ++ ':' :: (after ++ (text ++ rest))) := by simp
  rw [readMember, shape, readString_of_spellsChars isKey]
  simp only [bind, Except.bind, skipBlanks_append isBefore]
  rw [skipBlanks_cons (by decide)]
  simp only [read, String.ofList_toList]
  rfl

/-- What follows a member is read up to the closing brace. -/
theorem readMoreMembers_of_spells (reads : Reads spells item) {text : List Char}
    {members : List (String × Json)}
    (spelled : SpellsMore (SpellsMember spells) '}' text members) (rounds : Nat)
    (enough : members.length < rounds) (rest : List Char) :
    readMoreMembers item rounds (text ++ rest) = .ok (members, rest) := by
  induction spelled generalizing rounds with
  | close isBlanks =>
    obtain ⟨rounds, rfl⟩ := Nat.exists_eq_add_one_of_ne_zero (Nat.ne_zero_of_lt enough)
    rw [readMoreMembers, List.append_assoc, skipBlanks_append isBlanks]
    rfl
  | @comma before after text more first members isBefore isAfter head tail ih =>
    obtain ⟨rounds, rfl⟩ := Nat.exists_eq_add_one_of_ne_zero (Nat.ne_zero_of_lt enough)
    obtain ⟨inside, rfl, readsHead⟩ := readMember_of_spells reads head
    have read := readsHead (more ++ rest) (tail.ends (.cons (by decide)) rest)
    have readMore := ih rounds (by simpa using enough)
    have shape : before ++ ',' :: (after ++ ('"' :: inside ++ more)) ++ rest =
        before ++ ',' :: (after ++ ('"' :: (inside ++ (more ++ rest)))) := by simp
    rw [readMoreMembers, shape, skipBlanks_append isBefore, skipBlanks_cons (by decide)]
    simp only [skipBlanks_append isAfter]
    rw [skipBlanks_cons (by decide)]
    simp only [read, readMore, bind, Except.bind]
    rfl

/-- Members are read up to the closing brace. -/
theorem readObject_of_spells (reads : Reads spells item) {text : List Char}
    {members : List (String × Json)}
    (spelled : SpellsList (SpellsMember spells) '}' text members) (rest : List Char) :
    readObject item (text ++ rest) = .ok (members, rest) := by
  cases spelled with
  | nil isBlanks =>
    rw [readObject, List.append_assoc, skipBlanks_append isBlanks]
    rfl
  | @cons before text more first members isBefore head tail =>
    obtain ⟨inside, rfl, readsHead⟩ := readMember_of_spells reads head
    have read := readsHead (more ++ rest) (tail.ends (.cons (by decide)) rest)
    have readMore := readMoreMembers_of_spells reads tail (more ++ rest).length
      (Nat.lt_of_lt_of_le tail.length_lt (by simp)) rest
    have shape : before ++ ('"' :: inside ++ more) ++ rest =
        before ++ ('"' :: (inside ++ (more ++ rest))) := by simp
    rw [readObject, shape, skipBlanks_append isBefore, skipBlanks_cons (by decide)]
    simp only [read, readMore, bind, Except.bind]
    rfl

end Members

/-! ### Values -/

/-- A value that is no container starts with a mark of its own. -/
theorem SpellsScalar.starts {text : List Char} {value : Json} (spelled : SpellsScalar text value) :
    ∃ c rest, text = c :: rest ∧ isBlank c = false ∧ c ≠ ']' ∧ c ≠ '}' ∧ c ≠ '[' ∧ c ≠ '{' := by
  cases spelled with
  | nullWord => exact ⟨_, _, rfl, by decide⟩
  | trueWord => exact ⟨_, _, rfl, by decide⟩
  | falseWord => exact ⟨_, _, rfl, by decide⟩
  | string spelled =>
    obtain ⟨inside⟩ := spelled
    exact ⟨_, _, rfl, by decide⟩
  | @integer n =>
    rw [writeInteger]
    split
    · exact ⟨_, _, rfl, by decide⟩
    · rcases shape : Nat.toDigits 10 n.natAbs with _ | ⟨c, more⟩
      · exact absurd shape Nat.toDigits_ne_nil
      · have digit : c.isDigit = true :=
          Nat.isDigit_of_mem_toDigits (by decide) (by decide) (shape ▸ List.mem_cons_self)
        refine ⟨c, more, rfl, ?_, ?_, ?_, ?_, ?_⟩
        · simp only [isBlank, Bool.or_eq_false_iff, decide_eq_false_iff_not]
          refine ⟨⟨⟨?_, ?_⟩, ?_⟩, ?_⟩
          all_goals
            rintro rfl
            exact absurd digit (by decide)
        all_goals
          rintro rfl
          exact absurd digit (by decide)

/-- A value that is no container is read alike at any depth. -/
theorem readValue_of_spellsScalar {text : List Char} {value : Json}
    (spelled : SpellsScalar text value) (depth : Nat) :
    Starts text ∧ ∀ blanks rest, Blanks blanks → Ends rest →
      readValue depth (blanks ++ (text ++ rest)) = .ok (value, rest) := by
  obtain ⟨c, tokens, rfl, noBlank, noBracket, noBrace, noArray, noObject⟩ := spelled.starts
  refine ⟨⟨c, tokens, rfl, noBlank, noBracket, noBrace⟩, fun blanks rest isBlanks ends ↦ ?_⟩
  have read : readScalar (c :: (tokens ++ rest)) = .ok (value, rest) :=
    readScalar_of_spellsScalar spelled ends
  cases depth <;> rw [readValue, skipBlanks_append isBlanks, List.cons_append,
    skipBlanks_cons noBlank]
  all_goals
    split
    case h_1 array => cases array; exact absurd rfl noArray
    case h_2 object => cases object; exact absurd rfl noObject
    case h_3 => exact read

/-- **Spellings of a depth are read by the reader of that depth**, behind any blanks and with
nothing behind them. -/
theorem reads_readValue (depth : Nat) : Reads (Spells depth) (readValue depth) := by
  induction depth with
  | zero => exact fun text value spelled ↦ readValue_of_spellsScalar spelled 0
  | succ depth ih =>
    intro text value spelled
    cases spelled with
    | scalar spelled => exact readValue_of_spellsScalar spelled (depth + 1)
    | @array text items spelled =>
      refine ⟨⟨_, _, rfl, by decide⟩, fun blanks rest isBlanks ends ↦ ?_⟩
      rw [readValue, skipBlanks_append isBlanks, List.cons_append, skipBlanks_cons (by decide)]
      simp only [readArray_of_spells ih spelled]
      rfl
    | @object text members spelled =>
      refine ⟨⟨_, _, rfl, by decide⟩, fun blanks rest isBlanks ends ↦ ?_⟩
      rw [readValue, skipBlanks_append isBlanks, List.cons_append, skipBlanks_cons (by decide)]
      simp only [readObject_of_spells ih spelled]
      rfl

/-- **A text that spells a value is read as this value**, if containers are nested no deeper than
the reader allows. -/
theorem read_of_spellsDocument {text : String} {value : Json}
    (spelled : SpellsDocument maxDepth text.toList value) : read text = .ok value := by
  obtain ⟨before, inside, after, isBefore, isInside, isAfter, shape⟩ := spelled
  have ends : Ends after := by
    have ends_nil : Ends [] := fun _ h ↦ nomatch h
    simpa using isAfter.ends_append ends_nil
  have readInside := (reads_readValue maxDepth inside value isInside).2 before after isBefore ends
  have nothing : skipBlanks after = [] := List.dropWhile_eq_nil_iff.2 isAfter
  rw [read, readDocument, shape, readInside]
  simp only [bind, Except.bind, nothing]
  rfl

end AlignmentTally.Json
