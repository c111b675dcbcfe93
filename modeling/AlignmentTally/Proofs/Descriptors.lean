import AlignmentTally.Proofs.Formats
import AlignmentTally.Proofs.Json.Compact

/-!
# The value behind a format

A format stands for a JSON value, and the descriptor of a resource says which. What is listed of a
format is its label, and that is less: a string and a value that is no string may share one.

## Formats are values

`Format.ofValue_eq_iff` says that two values have the same format exactly when they are the same
value. It rests on the reader: no two values share a compact text, because each is read back from
its own (`Json.normalize_eq_of_compactChars_eq`). There are two conditions on the values.

* **Integers of 64 bits** (`Json.Exact`). Other numbers are rounded when they are written and when
  they are read, and nothing is claimed about them.
* **Normal form** (`Json.Normal`). The members of an object are unordered, so of all the lists of
  members that stand for one object only the ascending one is considered. For objects the statement
  is made once more in terms of what stands under each key.

## Spellings of a descriptor

`Format.ofDescriptor_of_spells` is about the text of a descriptor. Whatever way an object is spelled
(`Json.SpellsObject`), it is read as the object with the members that it spells, and of these the
last one called `Format` counts (`Json.member?_ofMembers`). The values of the members may be nested
126 deep, which is one less than the reader allows, since the object itself is one level.
-/

namespace AlignmentTally

/-! ### Formats and values -/

namespace Format

open Json (compactChars)

theorem compactChars_eq_of_compact_eq {value other : Json} (same : value.compact = other.compact) :
    value.compactChars = other.compactChars :=
  String.ofList_injective same

/-- Values in normal form with the same compact text are the same. -/
theorem eq_of_compact_eq {value other : Json} (exact : value.Exact) (exactOther : other.Exact)
    (normal : value.Normal) (normalOther : other.Normal) (same : value.compact = other.compact) :
    value = other := by
  have back := Json.normalize_eq_of_compactChars_eq exact exactOther
    (compactChars_eq_of_compact_eq same)
  rwa [Json.normalize_of_normal normal, Json.normalize_of_normal normalOther] at back

theorem ofValue_eq_ofValue_iff {value other : Json} (exact : value.Exact)
    (exactOther : other.Exact) (normal : value.Normal) (normalOther : other.Normal) :
    ofValue value = ofValue other ↔ value = other :=
  ⟨fun same ↦ eq_of_compact_eq exact exactOther normal normalOther (congrArg identity same),
    congrArg ofValue⟩

/-- **A format is a value, and a label is not.** Let values hold no numbers but integers of 64 bits,
and let the members of their objects, being unordered, stand in normal form. They have the same
format exactly when they are the same value, which their compact text alone decides. The label
follows from the compact text. For objects, being the same value means having the same value under
each key. A value that is no string shares its label with a string, which is another format. -/
theorem ofValue_eq_iff {value other : Json} (exact : value.Exact) (exactOther : other.Exact)
    (normal : value.Normal) (normalOther : other.Normal) :
    (ofValue value = ofValue other ↔ value = other) ∧
      (value.compact = other.compact ↔ value = other) ∧
      (value.compact = other.compact → labelOf value = labelOf other) ∧
      (∀ members others, value = .object members → other = .object others →
        (ofValue value = ofValue other ↔ ∀ key, value.member? key = other.member? key)) ∧
      ((∀ s, value ≠ .string s) → labelOf (.string (labelOf value)) = labelOf value ∧
        ofValue (.string (labelOf value)) ≠ ofValue value) := by
  have sameFormat := ofValue_eq_ofValue_iff exact exactOther normal normalOther
  have sameText := eq_of_compact_eq exact exactOther normal normalOther
  refine ⟨sameFormat, ⟨sameText, congrArg Json.compact⟩, fun same ↦ by rw [sameText same], ?_, ?_⟩
  · rintro members others rfl rfl
    rw [sameFormat]
    refine ⟨fun same key ↦ by rw [same], fun same ↦ congrArg Json.object ?_⟩
    rw [Json.Normal] at normal normalOther
    exact Json.object_eq_of_member?_eq normal.1 normalOther.1 same
  · intro noString
    have exactString : (Json.string (labelOf value)).Exact := ⟨0, trivial⟩
    refine ⟨rfl, fun same ↦ noString (labelOf value) ?_⟩
    exact ((ofValue_eq_ofValue_iff exactString exact trivial normal).1 same).symm

/-- Labels are shared by a number and a string, by a truth value and a string, by null and a string.
Deep inside a value the two do not even share a label. -/
theorem ofValue_eq_iff_shared_labels :
    (labelOf (.integer 10) = "10" ∧ ofValue (.string "10") ≠ ofValue (.integer 10)) ∧
      (labelOf (.bool true) = "True" ∧ ofValue (.string "True") ≠ ofValue (.bool true)) ∧
      (labelOf .null = "None" ∧ ofValue (.string "None") ≠ ofValue .null) ∧
      ofValue (.object [("a\"", .array [.integer 10]), ("b", .null)]) ≠
        ofValue (.object [("a\"", .array [.string "10"]), ("b", .null)]) := by
  have scalar (value : Json) (exact : value.Exact) (normal : value.Normal)
      (noString : ∀ s, value ≠ .string s) : ofValue (.string (labelOf value)) ≠ ofValue value :=
    ((ofValue_eq_iff exact exact normal normal).2.2.2.2 noString).2
  have ten : labelOf (.integer 10) = "10" := by decide +kernel
  have number := scalar (.integer 10) (by simp) trivial (by simp)
  rw [ten] at number
  refine ⟨⟨ten, number⟩, ⟨rfl, scalar (.bool true) (by simp) trivial (by simp)⟩,
    ⟨rfl, scalar .null (by simp) trivial (by simp)⟩, fun same ↦ ?_⟩
  have normal : (Json.object [("a\"", .array [.integer 10]), ("b", .null)]).Normal := by
    simp only [Json.Normal, Json.NormalItems, Json.NormalMembers]
    decide
  have normalOther : (Json.object [("a\"", .array [.string "10"]), ("b", .null)]).Normal := by
    simp only [Json.Normal, Json.NormalItems, Json.NormalMembers]
    decide
  have values := (ofValue_eq_iff (by simp) (by simp) normal normalOther).1.1 same
  simp at values

end Format

/-! ### Spellings of a descriptor -/

namespace Json

/-- A text stands for an object with some members in their order, whose values are nested at most
`depth` deep. -/
def SpellsObject (depth : Nat) (text : List Char) (members : List (String × Json)) : Prop :=
  ∃ before inside after, Blanks before ∧ SpellsList (SpellsMember (Spells depth)) '}' inside members ∧
    Blanks after ∧ text = before ++ ('{' :: inside ++ after)

theorem SpellsObject.spellsDocument {depth : Nat} {text : List Char}
    {members : List (String × Json)} (spelled : SpellsObject depth text members) :
    SpellsDocument (depth + 1) text (ofMembers members) := by
  obtain ⟨before, inside, after, isBefore, isInside, isAfter, shape⟩ := spelled
  exact ⟨before, '{' :: inside, after, isBefore, .object isInside, isAfter, shape⟩

/-- An object that is spelled is read as the object with its members. -/
theorem read_of_spellsObject {text : String} {members : List (String × Json)}
    (spelled : SpellsObject 126 text.toList members) : read text = .ok (ofMembers members) :=
  read_of_spellsDocument spelled.spellsDocument

end Json

namespace Format

open Json

/-- **The last member called `Format` is the format, however the descriptor is spelled.** Let a
descriptor spell an object, with any blanks and escapes, whose values are nested at most 126 deep.
Its format is that of the value of the last member whose key reads `Format`. Without such a member
it misses a format. What the values hold inside, members called `Format` included, does not
matter. -/
theorem ofDescriptor_of_spells {descriptor : String} {members : List (String × Json)}
    (spelled : SpellsObject 126 descriptor.toList members) :
    (∀ before value after, members = before ++ ("Format", value) :: after →
        "Format" ∉ after.map Prod.fst → ofDescriptor descriptor = .ok (ofValue value)) ∧
      ("Format" ∉ members.map Prod.fst →
        ofDescriptor descriptor = .error (.missingFormat descriptor)) := by
  have decided := ofDescriptor_of_read (read_of_spellsObject spelled)
  constructor
  · rintro before value after rfl last
    rw [decided, member?_ofMembers, lookup_reverse_of_last last]
    rfl
  · intro missing
    rw [decided, member?_ofMembers, lookup_reverse_eq_none missing]
    rfl

/-- Two members are called `Format`, the last one by an escape, and a third one stands inside a
value. -/
theorem ofDescriptor_of_spells_escaped_key :
    let descriptor := "\x7b\"Format\":1,\"a\":\x7b\"Format\":2\x7d ,\t\"\\u0046ormat\" :\"x\"\x7d"
    let inside := Json.ofMembers [("Format", .integer 2)]
    let members := [("Format", .integer 1), ("a", inside), ("Format", .string "x")]
    SpellsObject 126 descriptor.toList members ∧
      ofDescriptor descriptor = .ok ⟨"\"x\"", "x"⟩ := by
  intro descriptor inside members
  have space : Blanks [' '] := by simp [Blanks, isBlank]
  have tab : Blanks ['\t'] := by simp [Blanks, isBlank]
  have one : Spells 126 (writeInteger 1) (.integer 1) := .scalar (.integer (by decide) (by decide))
  have two : Spells 125 (writeInteger 2) (.integer 2) := .scalar (.integer (by decide) (by decide))
  have nested : Spells 126 _ inside :=
    .object (.cons blanks_nil (.mk (spellsString_quote "Format") blanks_nil blanks_nil two)
      (.close blanks_nil))
  have letter : SpellsChar ['\\', 'u', '0', '0', '4', '6'] 'F' := .unit rfl
  have escapedKey : SpellsString _ "Format" :=
    .quoted (.cons letter (spellsChars_flatMap_escape ['o', 'r', 'm', 'a', 't']))
  have text : Spells 126 _ (.string "x") := .scalar (.string (spellsString_quote "x"))
  have listed : SpellsList (SpellsMember (Spells 126)) '}' _ members :=
    .cons blanks_nil (.mk (spellsString_quote "Format") blanks_nil blanks_nil one)
      (.comma blanks_nil blanks_nil (.mk (spellsString_quote "a") blanks_nil blanks_nil nested)
        (.comma space tab (.mk escapedKey space blanks_nil text) (.close blanks_nil)))
  have spelled : SpellsObject 126 descriptor.toList members :=
    ⟨[], _, [], blanks_nil, listed, blanks_nil, by decide +kernel⟩
  refine ⟨spelled, ?_⟩
  have format := (ofDescriptor_of_spells spelled).1 [("Format", .integer 1), ("a", inside)]
    (.string "x") [] rfl (by simp)
  exact format.trans (by decide +kernel)

end Format

end AlignmentTally
