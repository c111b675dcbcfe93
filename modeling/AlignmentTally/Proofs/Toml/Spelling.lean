import AlignmentTally.Proofs.Steps
import AlignmentTally.Toml.Reader
import Mathlib.Data.List.TakeWhile

/-!
# Plain TOML documents

A grammar of plain documents: headers of one bare key, and below them bare keys with a string, a
truth value or an array of strings, each on a line of its own. A string has many spellings
(`Toml.SpellsChar`). Blanks may stand around an equals sign, and blanks and line ends before a line
and around the items of an array.

The grammar is smaller than what the reader reads. Dotted keys, tables in tables, numbers, dates,
comments and literal strings have no spelling here, and nothing is said of them.

## Reading

* Each line of such a text is read as what it spells (`Toml.readLines_of_spells`). A value ends
  where the line does or at a mark that no value goes on with (`Toml.Ends`, `Toml.ClosesLine`), so
  lines can be read one by one.
* With distinct names, and distinct keys in each of them, the sections are the tables of the
  document (`Toml.read?_of_spells`). Distinctness is needed: the reader refuses a table or a key
  that stands twice.
* The rounds of the reader are bounded by the length of the text. They suffice because each line and
  each item takes up some of it (`Toml.SpellsLines.length_le`, `Toml.SpellsItems.length_le`).

## A spelling for each document

A string can be spelled whatever characters it holds, with an escape for each that cannot stand for
itself (`Toml.spellsString_quote`). So each value of the grammar has a spelling, and so have sections
of such values (`Toml.exists_spellsLines_sectionLines`). Without this the theorem on reading might
speak of no text for some strings.
-/

namespace AlignmentTally.Toml

/-! ### The grammar -/

/-- Blanks and nothing else. -/
def Blanks (text : List Char) : Prop := ∀ c ∈ text, isBlank c = true

/-- Blanks and line ends, and nothing else. -/
def Gap (text : List Char) : Prop := ∀ c ∈ text, isBlank c = true ∨ c = '\n'

/-- Hexadecimal digits write the code point of a character. -/
structure WritesCode (digits : List Char) (c : Char) : Prop where
  areDigits : ∀ d ∈ digits, isHexDigit d = true
  value : numberOf 16 digits = c.toNat

instance (digits : List Char) (c : Char) : Decidable (WritesCode digits c) :=
  decidable_of_iff (digits.all isHexDigit = true ∧ numberOf 16 digits = c.toNat)
    ⟨fun h ↦ ⟨List.all_eq_true.1 h.1, h.2⟩, fun h ↦ ⟨List.all_eq_true.2 h.areDigits, h.value⟩⟩

/-- A text stands for one character inside a string. -/
inductive SpellsChar : List Char → Char → Prop where
  | raw {c : Char} (plain : isPlain c = true) (noQuote : c ≠ '"') (noBackslash : c ≠ '\\') :
      SpellsChar [c] c
  /-- A backslash and one letter. -/
  | letter {l c : Char} (known : escaped? l = some c) : SpellsChar ['\\', l] c
  /-- Four hexadecimal digits. -/
  | short {p q r s c : Char} (code : WritesCode [p, q, r, s] c) :
      SpellsChar ['\\', 'u', p, q, r, s] c
  /-- Eight hexadecimal digits. -/
  | long {p q r s t u v w c : Char} (code : WritesCode [p, q, r, s, t, u, v, w] c) :
      SpellsChar ['\\', 'U', p, q, r, s, t, u, v, w] c

/-- A text between quotes stands for a string, one character after another. -/
def SpellsString (text : List Char) (s : String) : Prop :=
  ∃ parts, List.Forall₂ SpellsChar parts s.toList ∧ text = '"' :: (parts.flatten ++ ['"'])

/-- What can follow the opening bracket of an array of strings. A comma may follow the last one. -/
inductive SpellsItems : List Char → List String → Prop where
  | close {gap : List Char} (isGap : Gap gap) : SpellsItems (gap ++ [']']) []
  | last {before text after : List Char} {s : String} (isBefore : Gap before)
      (head : SpellsString text s) (isAfter : Gap after) :
      SpellsItems (before ++ (text ++ (after ++ [']']))) [s]
  | cons {before text after rest : List Char} {s : String} {more : List String}
      (isBefore : Gap before) (head : SpellsString text s) (isAfter : Gap after)
      (tail : SpellsItems rest more) :
      SpellsItems (before ++ (text ++ (after ++ ',' :: rest))) (s :: more)

/-- A text stands for a plain value. -/
inductive SpellsValue : List Char → Toml → Prop where
  | string {text : List Char} {s : String} (spelled : SpellsString text s) :
      SpellsValue text (.string s)
  | trueWord : SpellsValue "true".toList (.boolean true)
  | falseWord : SpellsValue "false".toList (.boolean false)
  | strings {text : List Char} {items : List String} (spelled : SpellsItems text items) :
      SpellsValue ('[' :: text) (.array (items.map .string))

/-- A key that needs no quotes. -/
structure IsBareKey (key : String) : Prop where
  ne_nil : key.toList ≠ []
  chars : ∀ c ∈ key.toList, isKeyChar c = true

instance (key : String) : Decidable (IsBareKey key) :=
  decidable_of_iff (key.toList ≠ [] ∧ key.toList.all isKeyChar = true)
    ⟨fun h ↦ ⟨h.1, List.all_eq_true.1 h.2⟩, fun h ↦ ⟨h.ne_nil, List.all_eq_true.2 h.chars⟩⟩

/-- A text stands for a line. -/
inductive SpellsLine : List Char → Line → Prop where
  | header {key : String} (isKey : IsBareKey key) :
      SpellsLine ('[' :: (key.toList ++ [']'])) (.header false [] key)
  | binding {key : String} {before after text : List Char} {value : Toml} (isKey : IsBareKey key)
      (isBefore : Blanks before) (isAfter : Blanks after) (isValue : SpellsValue text value) :
      SpellsLine (key.toList ++ (before ++ '=' :: (after ++ text))) (.binding ⟨[], key, value⟩)

/-- A text stands for lines, each ended by a line feed. The last one need not be. -/
inductive SpellsLines : List Char → List Line → Prop where
  | nil {gap : List Char} (isGap : Gap gap) : SpellsLines gap []
  | last {gap text : List Char} {line : Line} (isGap : Gap gap) (head : SpellsLine text line) :
      SpellsLines (gap ++ text) [line]
  | cons {gap text rest : List Char} {line : Line} {lines : List Line} (isGap : Gap gap)
      (head : SpellsLine text line) (tail : SpellsLines rest lines) :
      SpellsLines (gap ++ (text ++ '\n' :: rest)) (line :: lines)

/-! ### Blanks and line ends -/

theorem Blanks.nil : Blanks [] := List.forall_mem_nil _

theorem Blanks.space : Blanks [' '] := List.forall_mem_singleton.2 rfl

theorem Gap.nil : Gap [] := List.forall_mem_nil _

theorem Gap.space : Gap [' '] := List.forall_mem_singleton.2 (.inl rfl)

/-- A test that holds in front and not of what follows cuts a text there. -/
theorem span_append {test : Char → Bool} {front rest : List Char}
    (holds : ∀ c ∈ front, test c = true) (stops : ∀ c ∈ rest.head?, test c = false) :
    (front ++ rest).takeWhile test = front ∧ (front ++ rest).dropWhile test = rest := by
  have behind : rest.takeWhile test = [] ∧ rest.dropWhile test = rest := by
    rcases rest with _ | ⟨c, rest⟩
    · exact ⟨rfl, rfl⟩
    · simp [stops c rfl]
  rw [List.takeWhile_append_of_pos holds, List.dropWhile_append_of_pos holds, behind.1, behind.2,
    List.append_nil]
  exact ⟨rfl, rfl⟩

theorem skipBlanks_append {blanks rest : List Char} (isBlanks : Blanks blanks)
    (stops : ∀ c ∈ rest.head?, isBlank c = false) : skipBlanks (blanks ++ rest) = rest :=
  (span_append isBlanks stops).2

theorem skipBlanks_of_head? {rest : List Char} (stops : ∀ c ∈ rest.head?, isBlank c = false) :
    skipBlanks rest = rest :=
  skipBlanks_append .nil stops

/-- A character that skipping stops at. -/
def IsMark (c : Char) : Prop := isBlank c = false ∧ c ≠ '\n' ∧ c ≠ '\r' ∧ c ≠ '#'

instance : DecidablePred IsMark := fun c ↦
  inferInstanceAs (Decidable (isBlank c = false ∧ c ≠ '\n' ∧ c ≠ '\r' ∧ c ≠ '#'))

/-- Lines are skipped up to a mark. -/
theorem skipLines_of_mark {rest : List Char} (mark : ∀ c ∈ rest.head?, IsMark c) (rounds : Nat) :
    skipLines rounds rest = rest := by
  rcases rounds with _ | rounds
  · rfl
  rw [skipLines, skipBlanks_of_head? fun c hc ↦ (mark c hc).1]
  rcases rest with _ | ⟨c, rest⟩
  · rfl
  · obtain ⟨-, feed, ret, hash⟩ := mark c rfl
    have uncommented : skipComment (c :: rest) = c :: rest := by
      rw [skipComment]
      simp [hash]
    have noEnd : afterNewline? (c :: rest) = none := by
      rw [afterNewline?] <;> simp [feed, ret]
    simp only [uncommented, noEnd]

/-- A gap is skipped up to the mark behind it. -/
theorem skipLines_append {gap rest : List Char} (isGap : Gap gap)
    (mark : ∀ c ∈ rest.head?, IsMark c) {rounds : Nat} (enough : gap.length ≤ rounds) :
    skipLines rounds (gap ++ rest) = rest := by
  induction gap generalizing rounds with
  | nil => exact skipLines_of_mark mark rounds
  | cons c gap ih =>
    obtain ⟨rounds, rfl⟩ := Nat.exists_eq_add_one_of_ne_zero (Nat.ne_zero_of_lt enough)
    have tail : Gap gap := fun d hd ↦ isGap d (List.mem_cons_of_mem _ hd)
    rw [List.length_cons] at enough
    -- a blank costs no round, a line end costs one
    rcases isGap c List.mem_cons_self with blank | rfl
    · have same : skipLines (rounds + 1) (c :: gap ++ rest) =
          skipLines (rounds + 1) (gap ++ rest) := by
        simp [skipLines, skipBlanks, blank]
      rw [same]
      exact ih tail (by omega)
    · have next : skipLines (rounds + 1) ('\n' :: gap ++ rest) =
          skipLines rounds (gap ++ rest) := rfl
      rw [next]
      exact ih tail (by omega)

theorem skipToToken_append {gap rest : List Char} (isGap : Gap gap)
    (mark : ∀ c ∈ rest.head?, IsMark c) : skipToToken (gap ++ rest) = rest :=
  skipLines_append isGap mark (by simp)

/-! ### Strings -/

/-- Digits are read as the character whose code point they write. -/
theorem ofHex?_eq {digits : List Char} {c : Char} (code : WritesCode digits c) :
    ofHex? digits = some c := by
  have values : digits.mapM hexDigit? = some (digits.map digitValue) :=
    mapM_eq_some_map fun d hd ↦ if_pos (code.areDigits d hd)
  have number : (digits.map digitValue).foldl (fun n d ↦ 16 * n + d) 0 = c.toNat := by
    rw [List.foldl_map, ← code.value, numberOf]
  have valid : c.toNat.isValidChar := c.valid
  simp [ofHex?, values, number, valid]

/-- A character that is spelled is read, and then the rest of the string. -/
theorem readBasic_append {text : List Char} {c : Char} (spelled : SpellsChar text c)
    {rest chars unread : List Char} (read : readBasic rest = some (chars, unread)) :
    readBasic (text ++ rest) = some (c :: chars, unread) := by
  cases spelled with
  | raw plain noQuote noBackslash =>
    rw [List.singleton_append, readBasic]
    · simp [plain, noBackslash, read, push]
    all_goals simp [noQuote, noBackslash]
  | @letter l c known =>
    have notShort : l ≠ 'u' := by
      rintro rfl
      cases known
    have notLong : l ≠ 'U' := by
      rintro rfl
      cases known
    rw [List.cons_append, List.singleton_append, readBasic]
    · simp [known, read, push]
    all_goals simp [notShort, notLong]
  | short code =>
    simp [readBasic, ofHex?_eq code, read, push]
  | long code =>
    simp [readBasic, ofHex?_eq code, read, push]

/-- The rest of a string is read up to its closing quote. -/
theorem readBasic_of_spells {parts : List (List Char)} {chars : List Char}
    (spelled : List.Forall₂ SpellsChar parts chars) (rest : List Char) :
    readBasic (parts.flatten ++ '"' :: rest) = some (chars, rest) := by
  induction spelled with
  | nil => rfl
  | cons head _ ih =>
    rw [List.flatten_cons, List.append_assoc]
    exact readBasic_append head ih

theorem SpellsString.head? {text : List Char} {s : String} (spelled : SpellsString text s)
    (rest : List Char) : (text ++ rest).head? = some '"' := by
  obtain ⟨parts, -, rfl⟩ := spelled
  rfl

/-- No character is spelled with a quote in front. -/
theorem SpellsChar.head?_ne {text : List Char} {c : Char} (spelled : SpellsChar text c) :
    ∃ first rest, text = first :: rest ∧ first ≠ '"' := by
  cases spelled with
  | raw plain noQuote noBackslash => exact ⟨_, _, rfl, noQuote⟩
  | letter | short | long => exact ⟨_, _, rfl, by decide⟩

/-- A string is read, and nothing behind it, when no further quote follows. -/
theorem readString_of_spells {text : List Char} {s : String} (spelled : SpellsString text s)
    {rest : List Char} (noQuote : rest.head? ≠ some '"') :
    readString (text ++ rest) = some (s.toList, rest) := by
  obtain ⟨parts, each, rfl⟩ := spelled
  generalize s.toList = chars at each ⊢
  have inside : readBasic (parts.flatten ++ '"' :: rest) = some (chars, rest) :=
    readBasic_of_spells each rest
  -- three quotes would open a string over several lines
  have single : ∀ more, parts.flatten ++ '"' :: rest ≠ '"' :: '"' :: more := by
    intro more same
    cases each with
    | nil =>
      cases same
      exact noQuote rfl
    | cons head _ =>
      obtain ⟨first, others, rfl, ne⟩ := head.head?_ne
      exact ne (List.cons.inj same).1
  rw [List.cons_append, List.append_assoc, List.singleton_append, readString]
  · exact inside
  · exact single

/-! ### Values -/

/-- What stands behind a value neither goes on as a word nor opens a longer string. -/
def Ends (rest : List Char) : Prop := ∀ c ∈ rest.head?, isWordChar c = false ∧ c ≠ '"'

theorem Ends.noQuote {rest : List Char} (ends : Ends rest) : rest.head? ≠ some '"' :=
  fun quote ↦ (ends _ quote).2 rfl

/-- A gap and a mark that ends a value end it. -/
theorem Gap.ends_append {gap : List Char} (isGap : Gap gap) {c : Char}
    (stops : isWordChar c = false ∧ c ≠ '"') (rest : List Char) : Ends (gap ++ c :: rest) := by
  rcases gap with _ | ⟨d, gap⟩
  · rintro _ ⟨⟩
    exact stops
  · rintro _ ⟨⟩
    rcases isGap d List.mem_cons_self with blank | rfl
    · rcases (by simpa [isBlank] using blank : d = ' ' ∨ d = '\t') with rfl | rfl <;> decide
    · decide

/-- A string is read as a value. -/
theorem readValue_of_spellsString {text : List Char} {s : String} (spelled : SpellsString text s)
    {rest : List Char} (noQuote : rest.head? ≠ some '"') (depth : Nat) :
    readValue depth (text ++ rest) = some (.string s, rest) := by
  have read := readString_of_spells spelled noQuote
  obtain ⟨parts, -, rfl⟩ := spelled
  rw [List.cons_append] at read ⊢
  rw [readValue, read]
  simp

/-- An item with gaps around it is read up to the mark behind it. -/
theorem readItems_append {before text after : List Char} {s : String} (isBefore : Gap before)
    (spelled : SpellsString text s) (isAfter : Gap after) {c : Char}
    (stops : isWordChar c = false ∧ c ≠ '"') (mark : IsMark c) (rest : List Char)
    (depth rounds : Nat) :
    readItems (readValue depth) (rounds + 1) (before ++ (text ++ (after ++ c :: rest))) =
      if c = ',' then do
        let (items, rest) ← readItems (readValue depth) rounds rest
        return (.string s :: items, rest)
      else if c = ']' then some ([.string s], rest)
      else none := by
  have read : readValue depth (text ++ (after ++ c :: rest)) =
      some (.string s, after ++ c :: rest) :=
    readValue_of_spellsString spelled (isAfter.ends_append stops rest).noQuote depth
  have behind : skipToToken (after ++ c :: rest) = c :: rest :=
    skipToToken_append isAfter (by rintro _ ⟨⟩; exact mark)
  have front : skipToToken (before ++ (text ++ (after ++ c :: rest))) =
      text ++ (after ++ c :: rest) := by
    refine skipToToken_append isBefore ?_
    rw [spelled.head?]
    rintro _ ⟨⟩
    decide
  -- the item opens with a quote, so it is not taken for the closing bracket
  obtain ⟨inner, shape⟩ : ∃ inner, text ++ (after ++ c :: rest) = '"' :: inner :=
    List.head?_eq_some_iff.1 (spelled.head? _)
  rw [shape] at read front ⊢
  by_cases comma : c = ','
  · subst comma
    simp [readItems, front, read, behind]
  · by_cases bracket : c = ']'
    · subst bracket
      simp [readItems, front, read, behind]
    · simp [readItems, front, read, behind, comma, bracket]

/-- The items of an array of strings are read up to its closing bracket. -/
theorem readItems_of_spells {text : List Char} {items : List String}
    (spelled : SpellsItems text items) (rest : List Char) (depth : Nat) {rounds : Nat}
    (enough : items.length < rounds) :
    readItems (readValue depth) rounds (text ++ rest) = some (items.map .string, rest) := by
  obtain ⟨rounds, rfl⟩ := Nat.exists_eq_add_one_of_ne_zero (Nat.ne_zero_of_lt enough)
  induction spelled generalizing rounds with
  | @close gap isGap =>
    have skipped : skipToToken (gap ++ ']' :: rest) = ']' :: rest :=
      skipToToken_append isGap (by rintro _ ⟨⟩; decide)
    rw [List.append_assoc, List.singleton_append, readItems, skipped]
    rfl
  | @last before text after s isBefore head isAfter =>
    have shape : before ++ (text ++ (after ++ [']'])) ++ rest =
        before ++ (text ++ (after ++ ']' :: rest)) := by simp
    rw [shape, readItems_append isBefore head isAfter (by decide) (by decide)]
    rfl
  | @cons before text after more s items isBefore head isAfter tail ih =>
    have shape : before ++ (text ++ (after ++ ',' :: more)) ++ rest =
        before ++ (text ++ (after ++ ',' :: (more ++ rest))) := by simp
    rw [List.length_cons] at enough
    obtain ⟨rounds, rfl⟩ := Nat.exists_eq_add_one_of_ne_zero (by omega : rounds ≠ 0)
    rw [shape, readItems_append isBefore head isAfter (by decide) (by decide), if_pos rfl,
      ih rounds (by omega)]
    rfl

/-- Each item of an array of strings takes up some of its text. -/
theorem SpellsItems.length_le {text : List Char} {items : List String}
    (spelled : SpellsItems text items) : items.length ≤ text.length := by
  induction spelled with
  | close isGap => simp
  | last isBefore head isAfter =>
    simp only [List.length_append, List.length_cons]
    omega
  | cons isBefore head isAfter tail ih =>
    simp only [List.length_append, List.length_cons]
    omega

/-- A word is read when it is not a date and what stands behind it does not go on. -/
theorem readWord_of_ends {word rest : List Char} (chars : word.all isWordChar = true)
    (noDate : afterDate? word = none) (ends : Ends rest) :
    readWord (word ++ rest) = (ofWord? word).map (·, rest) := by
  obtain ⟨taken, dropped⟩ := span_append (List.all_eq_true.1 chars) fun c hc ↦ (ends c hc).1
  simp only [readWord, taken, dropped, noDate]

/-- A truth value is read as a word. -/
theorem readValue_boolean (b : Bool) {rest : List Char} (ends : Ends rest) (depth : Nat) :
    readValue (depth + 1) ((toString b).toList ++ rest) = some (.boolean b, rest) := by
  have read : readWord ((toString b).toList ++ rest) = some (.boolean b, rest) := by
    cases b
    all_goals
      rw [readWord_of_ends (by decide) (by decide) ends]
      rfl
  cases b <;> exact read

/-- A plain value is read, and nothing behind it. -/
theorem readTopValue_of_spells {text : List Char} {value : Toml} (spelled : SpellsValue text value)
    {rest : List Char} (ends : Ends rest) : readTopValue (text ++ rest) = some (value, rest) := by
  -- strings need no nesting, and an array of them needs one level
  have depth : maxNesting - 1 = 78 + 1 := rfl
  rw [readTopValue, depth]
  cases spelled with
  | string spelled => exact readValue_of_spellsString spelled ends.noQuote _
  | trueWord => exact readValue_boolean true ends 78
  | falseWord => exact readValue_boolean false ends 78
  | @strings text items spelled =>
    have enough : items.length < (text ++ rest).length + 1 := by
      have le := spelled.length_le
      simp only [List.length_append]
      omega
    rw [List.cons_append, readValue, readItems_of_spells spelled rest 78 enough]
    rfl

/-! ### Keys and lines -/

theorem IsBareKey.exists_cons {key : String} (isKey : IsBareKey key) :
    ∃ first rest, key.toList = first :: rest ∧ isKeyChar first = true := by
  obtain ⟨first, rest, shape⟩ := List.exists_cons_of_ne_nil isKey.ne_nil
  exact ⟨first, rest, shape, isKey.chars first (shape ▸ List.mem_cons_self)⟩

/-- A character of a bare key is no mark that means something else. -/
theorem isKeyChar_ne {c : Char} (isKey : isKeyChar c = true) :
    IsMark c ∧ c ≠ '"' ∧ c ≠ '\'' ∧ c ≠ '[' := by
  refine ⟨⟨?_, ?_, ?_, ?_⟩, ?_, ?_, ?_⟩
  · rw [Bool.eq_false_iff]
    intro blank
    rcases (by simpa [isBlank] using blank : c = ' ' ∨ c = '\t') with rfl | rfl <;>
      exact absurd isKey (by decide)
  all_goals
    rintro rfl
    exact absurd isKey (by decide)

/-- A bare key is read as one part when it does not go on. -/
theorem readKeyPart_of_isBareKey {key : String} (isKey : IsBareKey key) {rest : List Char}
    (stops : ∀ c ∈ rest.head?, isKeyChar c = false) :
    readKeyPart (key.toList ++ rest) = some (key, rest) := by
  obtain ⟨taken, dropped⟩ := span_append isKey.chars stops
  obtain ⟨first, others, shape, firstKey⟩ := isKey.exists_cons
  obtain ⟨-, double, single, -⟩ := isKeyChar_ne firstKey
  rw [readKeyPart]
  · simp [taken, dropped, isKey.ne_nil, -String.toList_eq_nil_iff]
  all_goals simp [shape, double, single]

/-- A bare key is read with the blanks behind it, when neither it nor a dotted key goes on. -/
theorem readKey_of_isBareKey {key : String} (isKey : IsBareKey key) {blanks : List Char}
    (isBlanks : Blanks blanks) {c : Char} (stops : isKeyChar c = false)
    (noBlank : isBlank c = false) (noDot : c ≠ '.') (rest : List Char) :
    readKey (key.toList ++ (blanks ++ c :: rest)) = some (([], key), c :: rest) := by
  obtain ⟨first, others, shape, firstKey⟩ := isKey.exists_cons
  have front : skipBlanks (key.toList ++ (blanks ++ c :: rest)) =
      key.toList ++ (blanks ++ c :: rest) := by
    refine skipBlanks_of_head? ?_
    rw [shape]
    rintro _ ⟨⟩
    exact (isKeyChar_ne firstKey).1.1
  have part : readKeyPart (key.toList ++ (blanks ++ c :: rest)) =
      some (key, blanks ++ c :: rest) := by
    refine readKeyPart_of_isBareKey isKey ?_
    rcases blanks with _ | ⟨blank, blanks⟩
    · rintro _ ⟨⟩
      exact stops
    · rintro _ ⟨⟩
      rw [Bool.eq_false_iff]
      intro keyChar
      have isBlank : isBlank blank = true := isBlanks blank List.mem_cons_self
      rw [(isKeyChar_ne keyChar).1.1] at isBlank
      cases isBlank
  have behind : skipBlanks (blanks ++ c :: rest) = c :: rest :=
    skipBlanks_append isBlanks (by rintro _ ⟨⟩; exact noBlank)
  have parts (more : Nat) : readKeyParts (more + 1) (key.toList ++ (blanks ++ c :: rest)) =
      some ([key], c :: rest) := by
    simp [readKeyParts, front, part, behind, noDot]
  have one : maxNesting - 1 = 78 + 1 := rfl
  rw [readKey, one, parts]
  rfl

/-- A header of a bare key is read. -/
theorem readHeader_of_isBareKey {key : String} (isKey : IsBareKey key) (rest : List Char) :
    readHeader (key.toList ++ ']' :: rest) = some (.header false [] key, rest) := by
  have read := readKey_of_isBareKey isKey .nil (c := ']') (by decide) (by decide) (by decide)
    rest
  rw [List.nil_append] at read
  obtain ⟨first, others, shape, firstKey⟩ := isKey.exists_cons
  obtain ⟨-, -, -, noBracket⟩ := isKeyChar_ne firstKey
  rw [readHeader]
  · rw [read]
    rfl
  · simp [shape, noBracket]

theorem SpellsValue.head?_append {text : List Char} {value : Toml}
    (spelled : SpellsValue text value) (rest : List Char) :
    ∀ c ∈ (text ++ rest).head?, isBlank c = false := by
  cases spelled with
  | string spelled =>
    rw [spelled.head?]
    rintro _ ⟨⟩
    decide
  | trueWord | falseWord | strings =>
    rintro _ ⟨⟩
    decide

/-- What can stand behind a line: its line feed and a rest, or nothing. -/
inductive ClosesLine : List Char → List Char → Prop where
  | feed (rest : List Char) : ClosesLine ('\n' :: rest) rest
  | nothing : ClosesLine [] []

theorem ClosesLine.endLine? {behind rest : List Char} (closed : ClosesLine behind rest) :
    endLine? behind = some rest := by
  cases closed <;> rfl

theorem ClosesLine.skipBlanks {behind rest : List Char} (closed : ClosesLine behind rest) :
    skipBlanks behind = behind := by
  cases closed <;> rfl

theorem ClosesLine.ends {behind rest : List Char} (closed : ClosesLine behind rest) :
    Ends behind := by
  cases closed with
  | feed rest =>
    rintro _ ⟨⟩
    decide
  | nothing =>
    rintro _ ⟨⟩

/-- A binding of a bare key to a plain value is read. -/
theorem readBinding_of_spells {key : String} (isKey : IsBareKey key) {before after : List Char}
    (isBefore : Blanks before) (isAfter : Blanks after) {text : List Char} {value : Toml}
    (spelled : SpellsValue text value) {behind rest : List Char}
    (closed : ClosesLine behind rest) :
    readBinding readTopValue (key.toList ++ (before ++ '=' :: (after ++ (text ++ behind)))) =
      some (⟨[], key, value⟩, behind) := by
  have front := readKey_of_isBareKey isKey isBefore (c := '=') (by decide) (by decide) (by decide)
    (after ++ (text ++ behind))
  have inner : skipBlanks (after ++ (text ++ behind)) = text ++ behind :=
    skipBlanks_append isAfter (spelled.head?_append _)
  simp [readBinding, front, after?, inner, readTopValue_of_spells spelled closed.ends,
    closed.skipBlanks]

/-- A line is read, and the lines behind it after that. -/
theorem readLines_append {gap text : List Char} {line : Line} (isGap : Gap gap)
    (spelled : SpellsLine text line) {behind rest : List Char}
    (closed : ClosesLine behind rest) (rounds : Nat) :
    readLines (rounds + 1) (gap ++ (text ++ behind)) =
      (readLines rounds rest).map (line :: ·) := by
  cases spelled with
  | @header key isKey =>
    have shape : gap ++ ('[' :: (key.toList ++ [']']) ++ behind) =
        gap ++ '[' :: (key.toList ++ ']' :: behind) := by simp
    have skipped : skipToToken (gap ++ '[' :: (key.toList ++ ']' :: behind)) =
        '[' :: (key.toList ++ ']' :: behind) := by
      refine skipToToken_append isGap ?_
      rintro _ ⟨⟩
      decide
    rw [shape, readLines, skipped]
    cases more : readLines rounds rest <;>
      simp [readHeader_of_isBareKey isKey, closed.endLine?, more]
  | @binding key before after text value isKey isBefore isAfter isValue =>
    have shape : gap ++ (key.toList ++ (before ++ '=' :: (after ++ text)) ++ behind) =
        gap ++ (key.toList ++ (before ++ '=' :: (after ++ (text ++ behind)))) := by simp
    have read := readBinding_of_spells isKey isBefore isAfter isValue closed
    obtain ⟨first, others, keyShape, firstKey⟩ := isKey.exists_cons
    obtain ⟨mark, -, -, noBracket⟩ := isKeyChar_ne firstKey
    -- a bare key starts with no mark that opens a comment or a header
    have noHash : first ≠ '#' := mark.2.2.2
    rw [keyShape, List.cons_append] at read
    have skipped : skipToToken
        (gap ++ first :: (others ++ (before ++ '=' :: (after ++ (text ++ behind))))) =
          first :: (others ++ (before ++ '=' :: (after ++ (text ++ behind)))) := by
      refine skipToToken_append isGap ?_
      rintro _ ⟨⟩
      exact mark
    rw [shape, keyShape, List.cons_append, readLines, skipped]
    cases more : readLines rounds rest <;> simp [noHash, noBracket, read, closed.endLine?, more]

/-- The lines of a document are read one after another. -/
theorem readLines_of_spells {text : List Char} {lines : List Line}
    (spelled : SpellsLines text lines) {rounds : Nat} (enough : lines.length < rounds) :
    readLines rounds text = some lines := by
  obtain ⟨rounds, rfl⟩ := Nat.exists_eq_add_one_of_ne_zero (Nat.ne_zero_of_lt enough)
  induction spelled generalizing rounds with
  | @nil gap isGap =>
    have skipped : skipToToken (gap ++ []) = [] := skipToToken_append isGap (by simp)
    rw [List.append_nil] at skipped
    rw [readLines, skipped]
  | @last gap text line isGap head =>
    obtain ⟨rounds, rfl⟩ := Nat.exists_eq_add_one_of_ne_zero
      (Nat.ne_zero_of_lt (Nat.lt_of_succ_lt_succ enough))
    have read := readLines_append isGap head .nothing (rounds + 1)
    rw [List.append_nil] at read
    rw [read]
    rfl
  | cons isGap head tail ih =>
    rw [List.length_cons] at enough
    have fewer := Nat.lt_of_succ_lt_succ enough
    obtain ⟨rounds, rfl⟩ := Nat.exists_eq_add_one_of_ne_zero (Nat.ne_zero_of_lt fewer)
    rw [readLines_append isGap head (.feed _), ih rounds fewer]
    rfl

/-! ### Documents -/

/-- A binding of a key that has no dot. -/
def Binding.ofEntry (entry : String × Toml) : Binding := ⟨[], entry.1, entry.2⟩

/-- A section under a header of one key. -/
def Section.ofEntries (s : String × List (String × Toml)) : Section :=
  ⟨false, [], s.1, s.2.map .ofEntry⟩

/-- The lines of sections, each a header with a line below it for each of its keys. -/
def sectionLines (sections : List (String × List (String × Toml))) : List Line :=
  sections.flatMap fun (name, entries) ↦
    .header false [] name :: entries.map fun entry ↦ .binding (.ofEntry entry)

theorem ofLines_sectionLines (sections : List (String × List (String × Toml))) :
    Source.ofLines (sectionLines sections) = ⟨[], sections.map .ofEntries⟩ := by
  have bindings (entries : List (String × Toml)) (source : Source) :
      (entries.map fun entry ↦ Line.binding (.ofEntry entry)).foldr Source.ofLines.add source =
        { source with bindings := entries.map .ofEntry ++ source.bindings } := by
    induction entries with
    | nil => rfl
    | cons entry entries ih => rw [List.map_cons, List.foldr_cons, ih]; rfl
  unfold Source.ofLines
  induction sections with
  | nil => rfl
  | cons head sections ih =>
    rw [sectionLines, List.flatMap_cons, List.foldr_append, ← sectionLines, ih, List.foldr_cons,
      bindings]
    simp [Source.ofLines.add, Section.ofEntries]

/-- Bindings with distinct keys are added in their order. -/
theorem addAll_ofEntry {entries start : List (String × Toml)}
    (nodup : ((start ++ entries).map Prod.fst).Nodup) :
    addAll .dotted (entries.map .ofEntry) start = some (start ++ entries) := by
  induction entries generalizing start with
  | nil => simp [addAll]
  | cons entry entries ih =>
    have fresh : start.lookup entry.1 = none := by
      refine lookup_eq_none_of_notMem fun mem ↦ ?_
      rw [List.map_append, List.map_cons] at nodup
      exact (List.nodup_append.1 nodup).2.2 _ mem _ List.mem_cons_self rfl
    have added : addDotted .dotted [] entry.1 entry.2 start = some (start ++ [entry]) := by
      simp [addDotted, addEntry, fresh]
    rw [List.append_cons] at nodup ⊢
    rw [← ih nodup, List.map_cons, addAll, List.foldlM_cons, Binding.ofEntry, added]
    rfl

/-- A section whose name is not taken is added behind the others. -/
theorem addTo_ofEntries {start entries : List (String × Toml)} {name : String}
    (fresh : name ∉ start.map Prod.fst) (nodup : (entries.map Prod.fst).Nodup) :
    (Section.ofEntries (name, entries)).addTo start =
      some (start ++ [(name, .table .header entries)]) := by
  have kept : eraseEntry name start = start := by
    rw [eraseEntry, List.filter_eq_self]
    rintro entry mem
    rw [decide_eq_true_iff]
    rintro rfl
    exact fresh (List.mem_map_of_mem mem)
  have added : addAll .dotted (entries.map .ofEntry) [] = some entries := addAll_ofEntry nodup
  simp [Section.ofEntries, Section.addTo, lookup_eq_none_of_notMem fresh, kept, added]

/-- A section with its keys, as an entry of the document. -/
def sectionEntry (s : String × List (String × Toml)) : String × Toml :=
  (s.1, .table .header s.2)

theorem keys_sectionEntry (sections : List (String × List (String × Toml))) :
    (sections.map sectionEntry).map Prod.fst = sections.map Prod.fst := by
  simp [sectionEntry]

/-- Sections with distinct names are added in their order. -/
theorem foldlM_addTo {sections : List (String × List (String × Toml))}
    (keys : ∀ s ∈ sections, (s.2.map Prod.fst).Nodup) {start : List (String × Toml)}
    (names : (start.map Prod.fst ++ sections.map Prod.fst).Nodup) :
    (sections.map Section.ofEntries).foldlM
        (fun entries s ↦ updateAt .path s.addTo s.path .header entries) start =
      some (start ++ sections.map sectionEntry) := by
  induction sections generalizing start with
  | nil => simp
  | cons head sections ih =>
    rw [List.forall_mem_cons] at keys
    have fresh : head.1 ∉ start.map Prod.fst := fun mem ↦
      (List.nodup_append.1 names).2.2 _ mem _ List.mem_cons_self rfl
    have added : updateAt .path (Section.ofEntries head).addTo (Section.ofEntries head).path
        .header start = some (start ++ [sectionEntry head]) :=
      addTo_ofEntries fresh keys.1
    have moved : ((start ++ [sectionEntry head]).map Prod.fst ++ sections.map Prod.fst).Nodup := by
      simpa [sectionEntry] using names
    rw [List.map_cons, List.foldlM_cons, added, List.map_cons,
      List.append_cons start _ (sections.map sectionEntry)]
    exact ih keys.2 moved

/-- What a line starts with is neither a gap nor the mark that may stand before a document. -/
theorem SpellsLine.exists_cons {text : List Char} {line : Line} (spelled : SpellsLine text line) :
    ∃ first rest, text = first :: rest ∧ first ≠ '\ufeff' := by
  cases spelled with
  | header isKey => exact ⟨_, _, rfl, by decide⟩
  | binding isKey isBefore isAfter isValue =>
    obtain ⟨first, rest, shape, firstKey⟩ := isKey.exists_cons
    rw [shape]
    refine ⟨_, _, rfl, ?_⟩
    rintro rfl
    exact absurd firstKey (by decide)

/-- No document starts with the mark that may stand before one. -/
theorem dropMark_of_spells {text : List Char} {lines : List Line}
    (spelled : SpellsLines text lines) : dropMark text = text := by
  have noMark {text : List Char} (first : text.head? ≠ some '\ufeff') : dropMark text = text := by
    unfold dropMark
    split
    · exact absurd rfl first
    · rfl
  have behind {gap : List Char} (isGap : Gap gap) {rest : List Char}
      (first : rest.head? ≠ some '\ufeff') : (gap ++ rest).head? ≠ some '\ufeff' := by
    rcases gap with _ | ⟨c, gap⟩
    · exact first
    · rintro ⟨⟩
      exact absurd (isGap '\ufeff' List.mem_cons_self) (by decide)
  refine noMark ?_
  cases spelled with
  | nil isGap =>
    have alone := behind isGap (List.head?_nil ▸ Option.some_ne_none _).symm
    rwa [List.append_nil] at alone
  | last isGap head | cons isGap head =>
    obtain ⟨first, rest, rfl, ne⟩ := head.exists_cons
    exact behind isGap (by simpa using ne)

/-- Each line takes up some of the text. -/
theorem SpellsLines.length_le {text : List Char} {lines : List Line}
    (spelled : SpellsLines text lines) : lines.length ≤ text.length := by
  induction spelled with
  | nil isGap => simp
  | last isGap head =>
    obtain ⟨first, rest, rfl, -⟩ := head.exists_cons
    simp only [List.length_append, List.length_cons, List.length_nil]
    omega
  | cons isGap head tail ih =>
    simp only [List.length_append, List.length_cons]
    omega

/-- **Plain documents are read as written**: a text that spells sections with distinct names, each
with distinct keys, is the document with these sections as tables. -/
theorem read?_of_spells {text : String} {sections : List (String × List (String × Toml))}
    (spelled : SpellsLines text.toList (sectionLines sections))
    (names : (sections.map Prod.fst).Nodup)
    (keys : ∀ s ∈ sections, (s.2.map Prod.fst).Nodup) :
    read? text = some (.table .header (sections.map sectionEntry)) := by
  have lines : readLines (text.toList.length + 1) text.toList = some (sectionLines sections) :=
    readLines_of_spells spelled (Nat.lt_succ_of_le spelled.length_le)
  have entries : Source.entries ⟨[], sections.map .ofEntries⟩ =
      some (sections.map sectionEntry) := @foldlM_addTo sections keys [] names
  simp [read?, dropMark_of_spells spelled, lines, ofLines_sectionLines, Source.toToml, entries]

/-! ### A spelling for each document -/

/-- A hexadecimal digit in upper case. -/
def hexDigit (n : Nat) : Char := n.digitChar.toUpper

/-- A character as it can stand in a string: the quote, the backslash and the control characters
are escaped. -/
def escape (c : Char) : List Char :=
  if c = '"' then ['\\', '"']
  else if c = '\\' then ['\\', '\\']
  else if c = '\x08' then ['\\', 'b']
  else if c = '\t' then ['\\', 't']
  else if c = '\n' then ['\\', 'n']
  else if c = '\x0c' then ['\\', 'f']
  else if c = '\r' then ['\\', 'r']
  else if c < ' ' ∨ c = '\x7f' then
    ['\\', 'u', '0', '0', hexDigit (c.toNat / 16), hexDigit (c.toNat % 16)]
  else [c]

/-- A string between quotes. -/
def quote (s : String) : String := String.ofList ('"' :: s.toList.flatMap escape ++ ['"'])

theorem writesCode_hexDigit {c : Char} (small : c.toNat < 128) :
    WritesCode ['0', '0', hexDigit (c.toNat / 16), hexDigit (c.toNat % 16)] c := by
  have digit : ∀ n < 16, isHexDigit (hexDigit n) = true ∧ digitValue (hexDigit n) = n := by decide
  obtain ⟨highDigit, high⟩ := digit (c.toNat / 16) (by omega)
  obtain ⟨lowDigit, low⟩ := digit (c.toNat % 16) (Nat.mod_lt _ (by decide))
  refine ⟨?_, ?_⟩
  · simp [highDigit, lowDigit]
    decide
  · have zero : digitValue '0' = 0 := rfl
    simp [numberOf, zero, high, low]
    omega

/-- A character is written as one of its spellings. -/
theorem spellsChar_escape (c : Char) : SpellsChar (escape c) c := by
  unfold escape
  split_ifs with quote backslash backspace tab feed formFeed carriage control
  · exact .letter (by rw [quote]; rfl)
  · exact .letter (by rw [backslash]; rfl)
  · exact .letter (by rw [backspace]; rfl)
  · exact .letter (by rw [tab]; rfl)
  · exact .letter (by rw [feed]; rfl)
  · exact .letter (by rw [formFeed]; rfl)
  · exact .letter (by rw [carriage]; rfl)
  · refine .short (writesCode_hexDigit ?_)
    rcases control with low | rfl
    · exact Nat.lt_trans low (by decide)
    · decide
  · rw [not_or, Char.not_lt] at control
    exact .raw (by simp [isPlain, control]) quote backslash

theorem spellsString_quote (s : String) : SpellsString (quote s).toList s := by
  refine ⟨s.toList.map escape, ?_, ?_⟩
  · rw [List.forall₂_map_left_iff, List.forall₂_same]
    exact fun c _ ↦ spellsChar_escape c
  · rw [quote, String.toList_ofList, List.flatMap_def]
    rfl

/-- An array of strings has a spelling, with a comma behind each of them. -/
theorem exists_spellsItems (items : List String) : ∃ text, SpellsItems text items := by
  induction items with
  | nil => exact ⟨_, .close .nil⟩
  | cons s items ih =>
    obtain ⟨rest, tail⟩ := ih
    exact ⟨_, .cons .nil (spellsString_quote s) .nil tail⟩

theorem exists_spellsValue_string (s : String) : ∃ text, SpellsValue text (.string s) :=
  ⟨_, .string (spellsString_quote s)⟩

theorem exists_spellsValue_boolean (b : Bool) : ∃ text, SpellsValue text (.boolean b) := by
  cases b
  · exact ⟨_, .falseWord⟩
  · exact ⟨_, .trueWord⟩

theorem exists_spellsValue_strings (items : List String) :
    ∃ text, SpellsValue text (.array (items.map .string)) := by
  obtain ⟨text, spelled⟩ := exists_spellsItems items
  exact ⟨_, .strings spelled⟩

/-- Lines that each have a spelling have one together. -/
theorem exists_spellsLines {lines : List Line}
    (each : ∀ line ∈ lines, ∃ text, SpellsLine text line) : ∃ text, SpellsLines text lines := by
  induction lines with
  | nil => exact ⟨_, .nil .nil⟩
  | cons line lines ih =>
    rw [List.forall_mem_cons] at each
    obtain ⟨⟨text, head⟩, others⟩ := each
    obtain ⟨rest, tail⟩ := ih others
    exact ⟨_, .cons .nil head tail⟩

/-- Sections under bare keys have a spelling, if each of their values has one under a bare key. -/
theorem exists_spellsLines_sectionLines {sections : List (String × List (String × Toml))}
    (names : ∀ s ∈ sections, IsBareKey s.1)
    (entries : ∀ s ∈ sections, ∀ entry ∈ s.2,
      IsBareKey entry.1 ∧ ∃ text, SpellsValue text entry.2) :
    ∃ text, SpellsLines text (sectionLines sections) := by
  refine exists_spellsLines fun line mem ↦ ?_
  obtain ⟨s, sectionMem, lineMem⟩ := List.mem_flatMap.1 mem
  rcases List.mem_cons.1 lineMem with rfl | bindingMem
  · exact ⟨_, .header (names s sectionMem)⟩
  · obtain ⟨entry, entryMem, rfl⟩ := List.mem_map.1 bindingMem
    obtain ⟨isKey, text, spelled⟩ := entries s sectionMem entry entryMem
    exact ⟨_, .binding isKey .nil .nil spelled⟩

end AlignmentTally.Toml
