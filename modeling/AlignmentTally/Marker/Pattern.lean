import AlignmentTally.Marker

/-!
# Patterns of markers

The two markers as patterns of words and gaps. A pattern may fit a line in many ways; the ways are
listed by preference: the match that starts first, and among those the one whose gaps are as long
as possible, the first gap before the second. What the preferred way takes for the captured part
is the capture.

The lists hold all ways and are as long as that makes them. They say what is captured; the markers
of a log are read by searches, which find the same without trying.

Of any pattern it holds that no way takes a line feed into a gap (`notMem_of_mem_gapWays`), and that
each way only cuts the text (`append_of_mem_ways`).
-/

namespace AlignmentTally.Marker

/-- An item of a pattern. -/
inductive Item where
  /-- A character that stands for itself. -/
  | char (c : Char)
  /-- Any number of characters other than the line feed. -/
  | gap
  deriving DecidableEq, Repr, Inhabited

/-- The items of a word. -/
def Item.word (text : String) : List Item := text.toList.map char

/-- The ways in which a gap can begin a text, the longest one first: what the gap takes, and the
text after it. -/
def gapWays : List Char → List (List Char × List Char)
  | [] => [([], [])]
  | c :: text =>
    if c = '\n' then [([], c :: text)]
    else (gapWays text).map (fun way ↦ (c :: way.1, way.2)) ++ [([], c :: text)]

/-- The ways in which an item can begin a text. -/
def Item.ways : Item → List Char → List (List Char × List Char)
  | gap, text => gapWays text
  | char _, [] => []
  | char c, d :: text => if c = d then [([d], text)] else []

/-- The ways in which items can begin a text, one after another. -/
def ways : List Item → List Char → List (List Char × List Char)
  | [], text => [([], text)]
  | item :: items, text =>
    (item.ways text).flatMap fun first ↦
      (ways items first.2).map fun more ↦ (first.1 ++ more.1, more.2)

/-- A pattern with a captured part. -/
structure Pattern where
  /-- The items before the captured part. -/
  before : List Item
  /-- The items of the captured part. -/
  captured : List Item
  /-- The items after the captured part. -/
  after : List Item
  deriving DecidableEq, Repr, Inhabited

namespace Pattern

/-- What the captured part can be in a match at the start of a text, by preference. -/
def capturesAt (pattern : Pattern) (text : List Char) : List (List Char) :=
  (ways pattern.before text).flatMap fun first ↦
    (ways pattern.captured first.2).flatMap fun inside ↦
      (ways pattern.after inside.2).map fun _ ↦ inside.1

/-- The capture of the first match in a text. -/
def capture? (pattern : Pattern) : List Char → Option (List Char)
  | [] => (pattern.capturesAt []).head?
  | c :: text => (pattern.capturesAt (c :: text)).head?.or (pattern.capture? text)

/-- A test is announced. -/
def testName : Pattern where
  before := Item.word "RUN" ++ .gap :: Item.word "] "
  captured := [.gap]
  after := Item.word "/"

/-- A resource is reported as rejected. -/
def rejectedDescriptor : Pattern where
  before := .gap :: Item.word "Resource alignment" ++ .gap :: Item.word "resource : "
  captured := Item.word "\x7b" ++ .gap :: Item.word "\x7d"
  after := []

end Pattern

/-! ### What a way takes -/

theorem append_of_mem_gapWays {text : List Char} {way : List Char × List Char}
    (h : way ∈ gapWays text) : way.1 ++ way.2 = text := by
  induction text generalizing way with
  | nil => simp_all [gapWays]
  | cons c text ih =>
    rw [gapWays] at h
    split at h
    · simp_all
    · rcases List.mem_append.1 h with h | h
      · obtain ⟨inner, hi, rfl⟩ := List.mem_map.1 h
        simp [ih hi]
      · simp_all

theorem notMem_of_mem_gapWays {text : List Char} {way : List Char × List Char}
    (h : way ∈ gapWays text) : '\n' ∉ way.1 := by
  induction text generalizing way with
  | nil => simp_all [gapWays]
  | cons c text ih =>
    rw [gapWays] at h
    split at h
    · simp_all
    · next hc =>
      rcases List.mem_append.1 h with h | h
      · obtain ⟨inner, hi, rfl⟩ := List.mem_map.1 h
        simp [ih hi, Ne.symm hc]
      · simp_all

theorem append_of_mem_ways {items : List Item} {text : List Char}
    {way : List Char × List Char} (h : way ∈ ways items text) : way.1 ++ way.2 = text := by
  induction items generalizing text way with
  | nil => simp_all [ways]
  | cons item items ih =>
    obtain ⟨first, hf, h⟩ := List.mem_flatMap.1 h
    obtain ⟨more, hm, rfl⟩ := List.mem_map.1 h
    have hfirst : first.1 ++ first.2 = text := by
      cases item with
      | gap => exact append_of_mem_gapWays hf
      | char c =>
        cases text with
        | nil => simp [Item.ways] at hf
        | cons d text =>
          simp only [Item.ways] at hf
          split at hf <;> simp_all
    rw [List.append_assoc, ih hm, hfirst]

end AlignmentTally.Marker
