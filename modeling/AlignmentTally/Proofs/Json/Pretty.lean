import AlignmentTally.Proofs.Json.Reading

/-!
# Laid out values are read back

The laid out text of a value is one of its spellings (`Json.spells_prettyChars`), so it is read back
(`Json.read_pretty`). Its objects may hold their members in any order and repeat keys, so what is
read back is the value with its objects in normal form (`Json.normalize`).

## Plain values

Numbers that are no integers, and integers beyond 64 bits, are left out (`Json.Plain`). `Json.Plain`
also bounds how deep a value is nested, since a text that is nested too deep is not read. Strings
are plain whatever characters they hold: an escape spells its character, control characters and
quotes included (`Json.spellsChar_escape`).

## Layout

Items and members are laid out alike, each on a line of its own (`Json.layOut`). A list whose
elements stand between commas is one of its spellings, whatever blanks come before each of them
(`Json.spellsList_intercalate`). So the depth of indentation, on which the text of an element
depends, is of no account. This lemma is also what the compact text rests on, which is the same list
with no blanks at all.
-/

namespace AlignmentTally.Json

/-! ### Normal form -/

mutual

/-- The value with its objects in normal form: of members with the same key the last one counts. -/
def normalize : Json → Json
  | array items => .array (normalizeItems items)
  | object members => ofMembers (normalizeMembers members)
  | scalar => scalar

/-- Items with their objects in normal form. -/
def normalizeItems : List Json → List Json
  | [] => []
  | item :: rest => item.normalize :: normalizeItems rest

/-- Members whose values have their objects in normal form. -/
def normalizeMembers : List (String × Json) → List (String × Json)
  | [] => []
  | (key, value) :: rest => (key, value.normalize) :: normalizeMembers rest

end

theorem normalizeItems_eq_map (items : List Json) : normalizeItems items = items.map normalize := by
  induction items with
  | nil => rfl
  | cons item rest ih => rw [normalizeItems, ih, List.map_cons]

theorem normalizeMembers_eq_map (members : List (String × Json)) :
    normalizeMembers members = members.map fun member ↦ (member.1, member.2.normalize) := by
  induction members with
  | nil => rfl
  | cons member rest ih => rw [normalizeMembers, ih, List.map_cons]

/-- Containers are nested at most `depth` deep, and all numbers are integers of 64 bits. -/
def Plain : Nat → Json → Prop
  | _, .integer n => -(1 <<< 63 : Nat) ≤ n ∧ n < (1 <<< 64 : Nat)
  | _, .float .. => False
  | depth + 1, .array items => ∀ item ∈ items, Plain depth item
  | depth + 1, .object members => ∀ member ∈ members, Plain depth member.2
  | 0, .array _ => False
  | 0, .object _ => False
  | _, _ => True

theorem plain_array_iff {depth : Nat} {items : List Json} :
    Plain (depth + 1) (.array items) ↔ ∀ item ∈ items, Plain depth item := Iff.rfl

theorem plain_object_iff {depth : Nat} {members : List (String × Json)} :
    Plain (depth + 1) (.object members) ↔ ∀ member ∈ members, Plain depth member.2 := Iff.rfl

theorem plain_string (depth : Nat) (s : String) : Plain depth (.string s) := by
  cases depth <;> exact trivial

theorem plain_integer {n : Int} (lower : -(1 <<< 63 : Nat) ≤ n) (upper : n < (1 <<< 64 : Nat))
    (depth : Nat) : Plain depth (.integer n) := by
  cases depth <;> exact ⟨lower, upper⟩

/-! ### Strings and numbers -/

theorem hexDigit?_hexDigit {n : Nat} (h : n < 16) : hexDigit? (hexDigit n) = some n := by
  have all : ∀ n < 16, hexDigit? (hexDigit n) = some n := by decide
  exact all n h

/-- A character is written as one of its spellings. -/
theorem spellsChar_escape (c : Char) : SpellsChar (escape c) c := by
  unfold escape
  split_ifs with quote backslash backspace formFeed feed carriage tab low
  · exact .letter (by rw [quote]; rfl)
  · exact .letter (by rw [backslash]; rfl)
  · exact .letter (by rw [backspace]; rfl)
  · exact .letter (by rw [formFeed]; rfl)
  · exact .letter (by rw [feed]; rfl)
  · exact .letter (by rw [carriage]; rfl)
  · exact .letter (by rw [tab]; rfl)
  · have small : c.toNat < 32 := low
    have zero : hexDigit? '0' = some 0 := rfl
    have digits : 4096 * 0 + 256 * 0 + 16 * (c.toNat / 16) + c.toNat % 16 = c.toNat := by omega
    refine .unit ?_
    rw [hexUnit?, zero, hexDigit?_hexDigit (by omega), hexDigit?_hexDigit (by omega)]
    exact congrArg some digits
  · exact .raw quote backslash low

theorem spellsChars_flatMap_escape (chars : List Char) :
    SpellsChars (chars.flatMap escape) chars := by
  induction chars with
  | nil => exact .nil
  | cons c rest ih => exact .cons (spellsChar_escape c) ih

theorem spellsString_quote (s : String) : SpellsString (quote s) s :=
  .quoted (spellsChars_flatMap_escape s.toList)

/-- A plain value that is no container is written as one of its spellings. -/
theorem spellsScalar_prettyChars {value : Json} (plain : Plain 0 value) (level : Nat) :
    SpellsScalar (prettyChars level value) value.normalize := by
  cases value with
  | null => exact .nullWord
  | bool value =>
    cases value
    exacts [.falseWord, .trueWord]
  | integer n => exact .integer plain.1 plain.2
  | float negative magnitude => exact plain.elim
  | string s => exact .string (spellsString_quote s)
  | array items => exact plain.elim
  | object members => exact plain.elim

/-! ### Layout -/

/-- What writes items one after another, with a comma between one and the next, puts commas between
their texts. -/
theorem eq_intercalate {β : Type} {write : List β → List Char} {text : β → List Char}
    (nil : write [] = []) (singleton : ∀ item, write [item] = text item)
    (cons : ∀ item second rest,
      write (item :: second :: rest) = text item ++ ',' :: write (second :: rest))
    (items : List β) : write items = [','].intercalate (items.map text) := by
  induction items with
  | nil => exact nil
  | cons item rest ih =>
    cases rest with
    | nil => rw [singleton, List.map_singleton, List.intercalate_singleton]
    | cons second rest =>
      rw [cons, ih, List.map_cons, List.map_cons, List.map_cons, List.intercalate_cons_cons,
        List.append_assoc, List.singleton_append]

/-- Texts laid out on lines of their own, with a comma between one and the next. -/
def layOut (level : Nat) : List (List Char) → List Char
  | [] => []
  | [text] => newLine level ++ text
  | text :: rest => newLine level ++ text ++ ',' :: layOut level rest

/-- A line of its own is blanks before the text. -/
theorem layOut_eq_intercalate (level : Nat) (texts : List (List Char)) :
    layOut level texts = [','].intercalate (texts.map (newLine level ++ ·)) :=
  eq_intercalate rfl (fun _ ↦ rfl) (fun _ _ _ ↦ rfl) texts

theorem blanks_nil : Blanks [] := fun _ mem ↦ nomatch mem

theorem blanks_newLine (level : Nat) : Blanks (newLine level) := by
  intro c mem
  rcases List.mem_cons.1 mem with rfl | mem
  · rfl
  · rw [List.eq_of_mem_replicate mem]
    rfl

section Lists

variable {α : Type} {spells : List Char → α → Prop} {close : Char}

/-- After a comma, a list that is not empty goes on. -/
theorem SpellsList.comma {text : List Char} {elements : List α}
    (spelled : SpellsList spells close text elements) (ne : elements ≠ []) :
    SpellsMore spells close (',' :: text) elements := by
  cases spelled with
  | nil => exact absurd rfl ne
  | cons isBefore head tail =>
    exact .comma blanks_nil isBefore head tail

/-- What spells elements spells their list when it stands between commas, with some blanks before
each element and some before the closing mark. -/
theorem spellsList_intercalate {β : Type} {items : List β} {text : β → List Char} {element : β → α}
    (spelled : ∀ item ∈ items, spells (text item) (element item)) {before after : List Char}
    (isBefore : Blanks before) (isAfter : Blanks after) :
    SpellsList spells close
      ([','].intercalate (items.map fun item ↦ before ++ text item) ++ (after ++ [close]))
      (items.map element) := by
  induction items with
  | nil => exact .nil isAfter
  | cons item rest ih =>
    rw [List.forall_mem_cons] at spelled
    cases rest with
    | nil =>
      rw [List.map_singleton, List.intercalate_singleton, List.append_assoc]
      exact .cons isBefore spelled.1 (.close isAfter)
    | cons second rest =>
      have more := (ih spelled.2).comma (by simp)
      rw [List.map_cons, List.map_cons, List.intercalate_cons_cons]
      simp only [List.map_cons, List.append_assoc, List.singleton_append] at more ⊢
      exact .cons isBefore spelled.1 more

end Lists

theorem prettyItems_eq (level : Nat) (items : List Json) :
    prettyItems level items = layOut level (items.map (prettyChars level)) := by
  induction items with
  | nil => rfl
  | cons item rest ih =>
    cases rest with
    | nil => rfl
    | cons second rest =>
      rw [prettyItems, ih]
      · rfl
      · simp

/-- A member on its line. -/
def prettyMember (level : Nat) (member : String × Json) : List Char :=
  quote member.1 ++ ':' :: ' ' :: prettyChars level member.2

theorem prettyMembers_eq (level : Nat) (members : List (String × Json)) :
    prettyMembers level members = layOut level (members.map (prettyMember level)) := by
  induction members with
  | nil => rfl
  | cons member rest ih =>
    cases rest with
    | nil => simp [prettyMembers, layOut, prettyMember]
    | cons second rest =>
      rw [prettyMembers, ih]
      · simp [layOut, prettyMember]
      · simp

section Layers

variable {spells : List Char → Json → Prop} {write : Json → List Char} {before after : List Char}

/-- An array is spelled by its items between commas. -/
theorem spellsValue_array {items : List Json}
    (spelled : ∀ item ∈ items, spells (write item) item.normalize) (isBefore : Blanks before)
    (isAfter : Blanks after) :
    SpellsValue spells
      ('[' :: ([','].intercalate (items.map fun item ↦ before ++ write item) ++ (after ++ [']'])))
      (normalize (.array items)) := by
  rw [normalize, normalizeItems_eq_map]
  exact .array (spellsList_intercalate spelled isBefore isAfter)

/-- An object is spelled by its members between commas, with some blanks after each colon. -/
theorem spellsValue_object {members : List (String × Json)} {afterColon : List Char}
    (spelled : ∀ member ∈ members, spells (write member.2) member.2.normalize)
    (isBefore : Blanks before) (isAfter : Blanks after) (isAfterColon : Blanks afterColon) :
    SpellsValue spells
      ('{' :: ([','].intercalate (members.map fun member ↦
        before ++ (quote member.1 ++ ':' :: (afterColon ++ write member.2))) ++ (after ++ ['}'])))
      (normalize (.object members)) := by
  rw [normalize, normalizeMembers_eq_map]
  refine .object (spellsList_intercalate (fun member mem ↦ ?_) isBefore isAfter)
  exact .mk (spellsString_quote member.1) blanks_nil isAfterColon (spelled member mem)

end Layers

/-- **A value laid out is one of the spellings of its normal form.** -/
theorem spells_prettyChars {depth : Nat} {value : Json} (plain : Plain depth value) (level : Nat) :
    Spells depth (prettyChars level value) value.normalize := by
  induction depth generalizing value level with
  | zero => exact spellsScalar_prettyChars plain level
  | succ depth ih =>
    cases value with
    | array items =>
      cases items with
      | nil => exact .array (.nil blanks_nil)
      | cons item rest =>
        rw [prettyChars, prettyItems_eq, layOut_eq_intercalate, List.map_map, List.cons_append,
          List.cons_append, List.append_assoc]
        · exact spellsValue_array (fun item mem ↦ ih (plain item mem) (level + 1))
            (blanks_newLine _) (blanks_newLine _)
        · simp
    | object members =>
      cases members with
      | nil => exact .object (.nil blanks_nil)
      | cons member rest =>
        have isSpace : Blanks [' '] := by simp [Blanks, isBlank]
        have spelled := spellsValue_object (fun member mem ↦ ih (plain member mem) (level + 1))
          (blanks_newLine (level + 1)) (blanks_newLine level) isSpace
        rw [prettyChars, prettyMembers_eq, layOut_eq_intercalate, List.map_map, List.cons_append,
          List.cons_append, List.append_assoc]
        · exact spelled
        · simp
    | _ => exact .scalar (spellsScalar_prettyChars (by exact plain) level)

/-- **A plain value that is laid out is read back in normal form.** -/
theorem read_pretty {value : Json} (plain : Plain maxDepth value) :
    read value.pretty = .ok value.normalize := by
  refine read_of_spellsDocument
    ⟨[], value.prettyChars 0, [], blanks_nil, spells_prettyChars plain 0, blanks_nil, ?_⟩
  rw [pretty, String.toList_ofList, List.append_nil, List.nil_append]

end AlignmentTally.Json
