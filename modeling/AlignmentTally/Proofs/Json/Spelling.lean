import AlignmentTally.Json.Printer
import AlignmentTally.Json.Reader

/-!
# How a JSON value can be spelled

A grammar of JSON texts beside the reader of `Json.read`. A value has many spellings: any blanks may
stand between tokens, and a character of a string may stand for itself or be escaped in several ways
(`Json.SpellsChar`). The members of an object may stand in any order and repeat keys; what they
spell is then the object in normal form.

## Shape of the grammar

Items and members are listed alike, each list to its own closing mark (`Json.SpellsList`), and a
value is described layer by layer: `Json.SpellsValue spells` says what a value looks like when
`spells` says so for what is inside it. So `Json.Spells` is a recursion on the depth to which
containers are nested. The depth is a part of the grammar because the reader has a bound on it, and
a text that is nested deeper is not read.

## What has no spelling here

Integers are written plainly in decimal and fit 64 bits. Numbers that are no integers have no
spelling here: which of the many ways to write one gives which value is a matter of rounding. The
reader does read them, so the grammar describes a part of what is read. It is the part in which
each text spells one value and nothing is lost.
-/

namespace AlignmentTally.Json

/-- Blanks and nothing else. -/
def Blanks (text : List Char) : Prop := ∀ c ∈ text, isBlank c = true

/-! ### Strings -/

/-- A text stands for one character inside a string. -/
inductive SpellsChar : List Char → Char → Prop where
  | raw {c : Char} (noQuote : c ≠ '"') (noBackslash : c ≠ '\\') (noControl : ¬ c < ' ') :
      SpellsChar [c] c
  /-- A backslash and one letter. -/
  | letter {l c : Char} (known : escaped? l = some c) : SpellsChar ['\\', l] c
  /-- Four hexadecimal digits. -/
  | unit {p q r s c : Char} (digits : hexUnit? p q r s = some c.toNat) :
      SpellsChar ['\\', 'u', p, q, r, s] c
  /-- Twice four hexadecimal digits: the two halves of a surrogate pair. -/
  | pair {p q r s p' q' r' s' c : Char} (supplementary : 0x10000 ≤ c.toNat)
      (high : hexUnit? p q r s = some (0xd800 + (c.toNat - 0x10000) / 0x400))
      (low : hexUnit? p' q' r' s' = some (0xdc00 + (c.toNat - 0x10000) % 0x400)) :
      SpellsChar ['\\', 'u', p, q, r, s, '\\', 'u', p', q', r', s'] c

/-- A text stands for characters inside a string, one after another. -/
inductive SpellsChars : List Char → List Char → Prop where
  | nil : SpellsChars [] []
  | cons {text rest : List Char} {c : Char} {chars : List Char} (head : SpellsChar text c)
      (tail : SpellsChars rest chars) : SpellsChars (text ++ rest) (c :: chars)

/-- A text between quotes stands for a string. -/
inductive SpellsString : List Char → String → Prop where
  | quoted {text : List Char} {s : String} (inside : SpellsChars text s.toList) :
      SpellsString ('"' :: text ++ ['"']) s

/-! ### Values -/

/-- A text stands for a value that is not a container. -/
inductive SpellsScalar : List Char → Json → Prop where
  | nullWord : SpellsScalar "null".toList .null
  | trueWord : SpellsScalar "true".toList (.bool true)
  | falseWord : SpellsScalar "false".toList (.bool false)
  | integer {n : Int} (lower : -(1 <<< 63 : Nat) ≤ n) (upper : n < (1 <<< 64 : Nat)) :
      SpellsScalar (writeInteger n) (.integer n)
  | string {text : List Char} {s : String} (spelled : SpellsString text s) :
      SpellsScalar text (.string s)

section Lists

variable {α : Type} (spells : List Char → α → Prop) (close : Char)

/-- What can follow an element of a list: the closing mark, or a comma and further elements. -/
inductive SpellsMore : List Char → List α → Prop where
  | close {blanks : List Char} (isBlanks : Blanks blanks) : SpellsMore (blanks ++ [close]) []
  | comma {before after text rest : List Char} {first : α} {more : List α}
      (isBefore : Blanks before) (isAfter : Blanks after) (head : spells text first)
      (tail : SpellsMore rest more) :
      SpellsMore (before ++ ',' :: (after ++ (text ++ rest))) (first :: more)

/-- What can follow the opening mark of a list: the closing mark, or elements with commas. -/
inductive SpellsList : List Char → List α → Prop where
  | nil {blanks : List Char} (isBlanks : Blanks blanks) : SpellsList (blanks ++ [close]) []
  | cons {before text rest : List Char} {first : α} {more : List α}
      (isBefore : Blanks before) (head : spells text first)
      (tail : SpellsMore spells close rest more) :
      SpellsList (before ++ (text ++ rest)) (first :: more)

end Lists

section Layers

variable (spells : List Char → Json → Prop)

/-- A text stands for a member: a key, a colon and a value. -/
inductive SpellsMember : List Char → String × Json → Prop where
  | mk {keyText before after text : List Char} {key : String} {value : Json}
      (isKey : SpellsString keyText key) (isBefore : Blanks before) (isAfter : Blanks after)
      (isValue : spells text value) :
      SpellsMember (keyText ++ (before ++ ':' :: (after ++ text))) (key, value)

/-- A text stands for a value in which the texts inside stand for what is inside. -/
inductive SpellsValue : List Char → Json → Prop where
  | scalar {text : List Char} {value : Json} (spelled : SpellsScalar text value) :
      SpellsValue text value
  | array {text : List Char} {items : List Json} (spelled : SpellsList spells ']' text items) :
      SpellsValue ('[' :: text) (.array items)
  | object {text : List Char} {members : List (String × Json)}
      (spelled : SpellsList (SpellsMember spells) '}' text members) :
      SpellsValue ('{' :: text) (ofMembers members)

end Layers

/-- A text stands for a value in which containers are nested at most `depth` deep. -/
def Spells : Nat → List Char → Json → Prop
  | 0 => SpellsScalar
  | depth + 1 => SpellsValue (Spells depth)

/-- A text stands for a value, with blanks around it. -/
def SpellsDocument (depth : Nat) (text : List Char) (value : Json) : Prop :=
  ∃ before inside after, Blanks before ∧ Spells depth inside value ∧ Blanks after ∧
    text = before ++ (inside ++ after)

end AlignmentTally.Json
