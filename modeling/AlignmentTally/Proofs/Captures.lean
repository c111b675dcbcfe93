import AlignmentTally.Proofs.Enclosed
import AlignmentTally.Proofs.Markers
import AlignmentTally.Proofs.Patterns

/-!
# What markers capture

The markers are read by searches for words and characters, and they are also written as patterns of
words and gaps. This module proves that the searches read what the patterns capture, and says where
in a line it stands: `testName?_captures` and `rejectedDescriptor?_captures`.

## Why they agree

* **On a line.** A pattern without a line feed never matches across one, so on a line it captures
  what it captures in the first segment with a match (`Pattern.capture?_eq_findSome?`).
* **Inside a segment** a gap may take anything, so that the longest way of a gap in front of a word
  ends before the last occurrence of the word from which the rest can still match. Behind the first
  word, this is the last occurrence that ends before the last closing character (`enclosed?`), and
  it is found from each occurrence of the first word that has it behind it (`FrontBlind`).
* **The two differ at the front.** A pattern that starts with the first word starts at its first
  occurrence, and one that starts with a gap goes to the last possible occurrence; both capture the
  same.

## Where the capture stands

`AnnouncesTest` and `ReportsRejection` are conditions on a segment in terms of words in order
(`InOrder`), and the first segment that meets its condition decides (`FirstSegment`). That the
positions in it are determined rests on `exists_encloses`. What opens and closes a name may stand in
a name too. The last slash closes it and the last `] ` before that opens it, so a name may hold
slashes but no `] ` (`not_infix_of_testName?`).
-/

namespace AlignmentTally.Marker

open Text LineEnding

/-! ### Patterns do not see beyond a line feed -/

section Segments

variable {segment : List Char}

theorem gapWays_append_feed (h : '\n' ∉ segment) (rest : List Char) :
    gapWays (segment ++ '\n' :: rest) =
      (gapWays segment).map fun way ↦ (way.1, way.2 ++ '\n' :: rest) := by
  induction segment with
  | nil => rfl
  | cons c segment ih =>
    rw [List.mem_cons, not_or] at h
    rw [List.cons_append, gapWays, gapWays, if_neg (Ne.symm h.1), if_neg (Ne.symm h.1), ih h.2]
    simp [Function.comp_def]

/-- An item that is no line feed leaves the same behind, whatever stands behind a line feed. -/
theorem Item.ways_append_feed {item : Item} (hitem : item ≠ .char '\n') (h : '\n' ∉ segment)
    (rest : List Char) :
    item.ways (segment ++ '\n' :: rest) =
      (item.ways segment).map fun way ↦ (way.1, way.2 ++ '\n' :: rest) := by
  cases item with
  | gap => exact gapWays_append_feed h rest
  | char c =>
    cases segment with
    | nil =>
      have hc : c ≠ '\n' := fun hc ↦ hitem (hc ▸ rfl)
      simp [Item.ways, hc]
    | cons d segment =>
      rw [List.cons_append, Item.ways, Item.ways]
      split <;> rfl

/-- What an item leaves of a text is an end of the text. -/
theorem Item.append_of_mem_ways {item : Item} {text : List Char} {way : List Char × List Char}
    (h : way ∈ item.ways text) : way.1 ++ way.2 = text := by
  have hway : way ∈ Marker.ways [item] text := by
    rw [Marker.ways]
    exact List.mem_flatMap.2 ⟨way, h, by simp [Marker.ways]⟩
  exact Marker.append_of_mem_ways hway

theorem ways_append_feed {items : List Item} (hitems : .char '\n' ∉ items) (h : '\n' ∉ segment)
    (rest : List Char) :
    ways items (segment ++ '\n' :: rest) =
      (ways items segment).map fun way ↦ (way.1, way.2 ++ '\n' :: rest) := by
  induction items generalizing segment with
  | nil => rfl
  | cons item items ih =>
    rw [List.mem_cons, not_or] at hitems
    rw [ways, ways, Item.ways_append_feed (Ne.symm hitems.1) h, List.flatMap_map, List.map_flatMap]
    refine List.flatMap_congr fun first hfirst ↦ ?_
    have hsegment : '\n' ∉ first.2 := fun hfeed ↦
      h (Item.append_of_mem_ways hfirst ▸ List.mem_append_right _ hfeed)
    rw [ih hitems.2 hsegment]
    simp [Function.comp_def]

end Segments

namespace Pattern

/-- No item of a pattern is a line feed. -/
def OnOneLine (pattern : Pattern) : Prop :=
  .char '\n' ∉ pattern.before ∧ .char '\n' ∉ pattern.captured ∧ .char '\n' ∉ pattern.after

variable {pattern : Pattern} {segment : List Char}

/-- A match at the start of a segment does not see beyond it. -/
theorem capturesAt_append_feed (hpattern : pattern.OnOneLine) (h : '\n' ∉ segment)
    (rest : List Char) :
    pattern.capturesAt (segment ++ '\n' :: rest) = pattern.capturesAt segment := by
  rw [capturesAt, ways_append_feed hpattern.1 h, List.flatMap_map]
  refine List.flatMap_congr fun first hfirst ↦ ?_
  have hinside : '\n' ∉ first.2 := fun hfeed ↦
    h (append_of_mem_ways hfirst ▸ List.mem_append_right _ hfeed)
  rw [ways_append_feed hpattern.2.1 hinside, List.flatMap_map]
  refine List.flatMap_congr fun inside hmem ↦ ?_
  have hclosing : '\n' ∉ inside.2 := fun hfeed ↦
    hinside (append_of_mem_ways hmem ▸ List.mem_append_right _ hfeed)
  rw [ways_append_feed hpattern.2.2 hclosing, List.map_map]
  rfl

/-- A match ends before a line feed or starts behind it. -/
theorem capture?_append_feed (hpattern : pattern.OnOneLine) (h : '\n' ∉ segment)
    (rest : List Char) :
    pattern.capture? (segment ++ '\n' :: rest) =
      (pattern.capture? segment).or (pattern.capture? rest) := by
  induction segment with
  | nil =>
    have hhere : pattern.capturesAt ('\n' :: rest) = pattern.capturesAt [] :=
      capturesAt_append_feed hpattern h rest
    exact congrArg (fun captures ↦ captures.head?.or (pattern.capture? rest)) hhere
  | cons c segment ih =>
    have hhere : pattern.capturesAt (c :: (segment ++ '\n' :: rest)) =
        pattern.capturesAt (c :: segment) := capturesAt_append_feed hpattern h rest
    rw [List.cons_append, capture?, hhere, ih fun hfeed ↦ h (List.mem_cons_of_mem _ hfeed),
      capture?, Option.or_assoc]

/-- **A pattern captures in a text what it captures in the first segment with a match.** The
induction is on the segments, since a match is looked for at each place of each of them. -/
theorem capture?_eq_findSome? (hpattern : pattern.OnOneLine) (text : List Char) :
    pattern.capture? text = (splitLf text).findSome? pattern.capture? := by
  conv_lhs => rw [← intercalate_splitLf text]
  have hfeed : ∀ piece ∈ splitLf text, '\n' ∉ piece := fun _ ↦ notMem_of_mem_splitLf
  have hne := splitLf_ne_nil text
  generalize splitLf text = segments at hfeed hne ⊢
  induction segments with
  | nil => exact absurd rfl hne
  | cons segment rest ih =>
    rw [List.forall_mem_cons] at hfeed
    by_cases hrest : rest = []
    · rw [hrest, List.intercalate_singleton, List.findSome?_singleton]
    · rw [intercalate_cons_of_ne_nil _ _ hrest, List.append_assoc, List.singleton_append,
        capture?_append_feed hpattern hfeed.1, ih hfeed.2 hrest, List.findSome?_cons]
      cases pattern.capture? segment <;> rfl

end Pattern

/-! ### Gaps inside a segment -/

theorem ways_nil (text : List Char) : ways [] text = [([], text)] := rfl

/-- Behind a gap, the rest of the items is tried with the longest way of the gap first. -/
theorem head?_ways_gap {α : Type} (items : List Item) (search : List Char × List Char → List α)
    (text : List Char) :
    ((ways (.gap :: items) text).flatMap search).head? =
      (gapWays text).findSome? fun first ↦
        ((ways items first.2).flatMap fun more ↦ search (first.1 ++ more.1, more.2)).head? := by
  rw [ways_cons_flatMap, List.head?_flatMap]
  rfl

/-- A word is read as it stands, and the rest of the items behind it. -/
theorem head?_ways_word {α : Type} (word : List Char) (items : List Item)
    (search : List Char × List Char → List α) (text : List Char) :
    ((ways (word.map .char ++ items) text).flatMap search).head? =
      (afterWord? word text).bind fun rest ↦
        ((ways items rest).flatMap fun more ↦ search (word ++ more.1, more.2)).head? := by
  fun_induction afterWord? word text generalizing search with
  | case1 text => rfl
  | case2 w word => rfl
  | case3 word c text ih =>
    rw [List.map_cons, List.cons_append, ways_cons_flatMap]
    simp [Item.ways, ih]
  | case4 w word c text hne =>
    rw [List.map_cons, List.cons_append, ways_cons_flatMap]
    simp [Item.ways, hne]

/-- The same with nothing behind the word. -/
theorem head?_ways_lastWord {α : Type} (word : List Char)
    (search : List Char × List Char → List α) (text : List Char) :
    ((ways (word.map .char) text).flatMap search).head? =
      (afterWord? word text).bind fun rest ↦ (search (word, rest)).head? := by
  have h := head?_ways_word word [] search text
  simpa [ways] using h

section Gaps

variable {α : Type} {text : List Char}

/-- What stands behind a word is a part of the text, so it has no line feed either. -/
theorem afterWord?_bind_congr (h : '\n' ∉ text) {attempt search : List Char → Option α}
    (heq : ∀ rest, '\n' ∉ rest → attempt rest = search rest) (word : List Char) :
    (afterWord? word text).bind attempt = (afterWord? word text).bind search := by
  refine Option.bind_congr fun rest hrest ↦ heq rest fun hfeed ↦ h ?_
  rw [afterWord?_eq_some_iff.1 hrest]
  exact List.mem_append_right _ hfeed

/-- The longest way of a gap with a character behind it ends before the last such character. -/
theorem findSome?_gapWays_char (h : '\n' ∉ text) (x : Char) (f : List Char → α) :
    ((gapWays text).findSome? fun way ↦ (afterWord? [x] way.2).bind fun _ ↦ some (f way.1)) =
      (beforeLast? x text).map f := by
  induction text generalizing f with
  | nil => rfl
  | cons c text ih =>
    rw [List.mem_cons, not_or] at h
    have hlater := ih h.2 fun taken ↦ f (c :: taken)
    rw [gapWays, if_neg (Ne.symm h.1), List.findSome?_append, List.findSome?_map,
      List.findSome?_singleton, beforeLast?, Option.map_or, Option.map_map]
    refine congrArg₂ Option.or hlater ?_
    rcases eq_or_ne c x with rfl | hc
    · simp [afterWord?]
    · simp [afterWord?, hc, hc.symm]

/-- With a word behind a gap, and another gap with a character behind it, the first way to succeed
encloses what stands between the last word and the last character. -/
theorem findSome?_gapWays_word (h : '\n' ∉ text) (word : List Char) (x : Char)
    (f : List Char → α) :
    ((gapWays text).findSome? fun way ↦ (afterWord? word way.2).bind fun rest ↦
        (gapWays rest).findSome? fun inside ↦
          (afterWord? [x] inside.2).bind fun _ ↦ some (f inside.1)) =
      (enclosed? word x text).map f := by
  induction text with
  | nil => cases word <;> rfl
  | cons c text ih =>
    have hfront := afterWord?_bind_congr h
      (fun rest hrest ↦ findSome?_gapWays_char hrest x f) word
    rw [List.mem_cons, not_or] at h
    rw [gapWays, if_neg (Ne.symm h.1), List.findSome?_append, List.findSome?_map,
      List.findSome?_singleton, hfront, enclosed?_cons, Option.map_or, ← ih h.2, Option.map_bind]
    rfl

/-- A search that is blind to what stands in front finds the same behind the first occurrence of a
word as behind the last one after which it finds anything. -/
theorem findSome?_gapWays_afterWord? (h : '\n' ∉ text) (word : List Char)
    {attempt search : List Char → Option α}
    (heq : ∀ rest, '\n' ∉ rest → attempt rest = search rest) (hsearch : FrontBlind search) :
    ((gapWays text).findSome? fun way ↦ (afterWord? word way.2).bind attempt) =
      (afterFirst? word text).bind search := by
  induction text with
  | nil => exact List.findSome?_singleton.trans (afterWord?_bind_congr h heq word)
  | cons c text ih =>
    have hfront := afterWord?_bind_congr h heq word
    rw [List.mem_cons, not_or] at h
    rw [gapWays, if_neg (Ne.symm h.1), List.findSome?_append, List.findSome?_map,
      List.findSome?_singleton, hfront, hsearch.afterFirst?_cons_last, ← ih h.2]
    rfl

end Gaps

/-! ### Both markers -/

/-- A text in braces. -/
def inBraces (inside : List Char) : List Char := '{' :: (inside ++ ['}'])

theorem testNameIn?_eq (segment : List Char) :
    testNameIn? segment = (afterFirst? "RUN".toList segment).bind (enclosed? "] ".toList '/') :=
  rfl

theorem rejectedDescriptorIn?_eq (segment : List Char) :
    rejectedDescriptorIn? segment =
      (afterFirst? "Resource alignment".toList segment).bind fun rest ↦
        (enclosed? "resource : \x7b".toList '}' rest).map inBraces := by
  refine Option.bind_congr fun rest _ ↦ ?_
  rw [enclosed?, Option.map_bind]
  refine Option.bind_congr fun named _ ↦ ?_
  rw [Function.comp_apply]
  cases afterLast? "resource : \x7b".toList named <;> rfl

namespace Pattern

variable {text : List Char}

theorem head?_capturesAt_testName (h : '\n' ∉ text) :
    (testName.capturesAt text).head? =
      (afterWord? "RUN".toList text).bind (enclosed? "] ".toList '/') := by
  rw [capturesAt_eq_flatMap]
  simp only [testName, Item.word, head?_ways_word, head?_ways_gap, head?_ways_lastWord, ways_nil,
    List.flatMap_singleton, List.append_nil, List.head?_cons]
  refine afterWord?_bind_congr h (fun rest hrest ↦ ?_) _
  exact (findSome?_gapWays_word hrest "] ".toList '/' id).trans Option.map_id'

theorem head?_capturesAt_rejectedDescriptor (h : '\n' ∉ text) :
    (rejectedDescriptor.capturesAt text).head? =
      rejectedDescriptorIn? text := by
  rw [rejectedDescriptorIn?_eq, capturesAt_eq_flatMap]
  simp only [rejectedDescriptor, Item.word, List.cons_append, head?_ways_word, head?_ways_gap,
    head?_ways_lastWord, ways_nil, List.flatMap_singleton, List.head?_cons]
  refine findSome?_gapWays_afterWord? h _ (fun rest hrest ↦ ?_) ?_
  · -- the brace belongs to the captured part, and it closes the word in front of it
    refine Eq.trans ?_
      (findSome?_gapWays_word hrest ("resource : ".toList ++ "\x7b".toList) '}' inBraces)
    simp only [afterWord?_append, Option.bind_assoc]
    rfl
  · exact (frontBlind_enclosed? _ _).map _

end Pattern

/-- In a segment, the pattern of a test captures the name. The first `RUN` after which there is a
name is as good as the first `RUN`. -/
theorem capture?_testName {segment : List Char} (h : '\n' ∉ segment) :
    Pattern.testName.capture? segment = testNameIn? segment := by
  induction segment with
  | nil => rfl
  | cons c segment ih =>
    rw [Pattern.capture?, Pattern.head?_capturesAt_testName h,
      ih fun hfeed ↦ h (List.mem_cons_of_mem _ hfeed), testNameIn?_eq, testNameIn?_eq,
      (frontBlind_enclosed? _ _).afterFirst?_cons]

theorem frontBlind_rejectedDescriptorIn? : FrontBlind rejectedDescriptorIn? := by
  have h := ((frontBlind_enclosed? "resource : \x7b".toList '}').map inBraces).afterFirst?
    "Resource alignment".toList
  rwa [← funext rejectedDescriptorIn?_eq] at h

/-- In a segment, the pattern of a rejection captures the descriptor. Its first gap takes whatever
stands in front, so it matches at the start of the segment if it matches at all. -/
theorem capture?_rejectedDescriptor {segment : List Char} (h : '\n' ∉ segment) :
    Pattern.rejectedDescriptor.capture? segment = rejectedDescriptorIn? segment := by
  induction segment with
  | nil => rfl
  | cons c segment ih =>
    rw [Pattern.capture?, Pattern.head?_capturesAt_rejectedDescriptor h,
      ih fun hfeed ↦ h (List.mem_cons_of_mem _ hfeed)]
    cases hlater : rejectedDescriptorIn? segment with
    | none => rw [Option.or_none]
    | some descriptor =>
      have hhere := frontBlind_rejectedDescriptorIn? hlater [c]
      rw [← List.singleton_append, hhere, Option.some_or]

/-! ### Where the captured part stands in a segment -/

/-- A segment announces a test: it holds `RUN`, behind it a bracket with a space, and behind this a
slash. -/
def AnnouncesTest (segment : List Char) : Prop := InOrder "RUN".toList "] ".toList '/' segment

/-- A segment reports a rejection: it holds the words of a rejection, behind them those of a
resource with an opening brace, and behind this a closing one. -/
def ReportsRejection (segment : List Char) : Prop :=
  InOrder "Resource alignment".toList "resource : \x7b".toList '}' segment

theorem isSome_testNameIn?_iff {segment : List Char} :
    (testNameIn? segment).isSome ↔ AnnouncesTest segment :=
  isSome_afterFirst?_enclosed?_iff

theorem isSome_rejectedDescriptorIn?_iff {segment : List Char} :
    (rejectedDescriptorIn? segment).isSome ↔ ReportsRejection segment := by
  rw [ReportsRejection, ← isSome_afterFirst?_enclosed?_iff, rejectedDescriptorIn?_eq]
  simp only [Option.isSome_bind, Option.isSome_map]

/-- A name stands between the last bracket that ends before the last slash and that slash. -/
theorem exists_encloses_of_testNameIn? {segment name : List Char}
    (h : testNameIn? segment = some name) :
    ∃ opening close, Encloses "] ".toList '/' segment opening close ∧
      name = segment.extract (opening + "] ".length) (close + 0) := by
  have henclosed : enclosed? [']', ' '] '/' segment = some name := enclosed?_of_afterFirst? h
  obtain ⟨before, after, htext, hencloses⟩ := exists_encloses henclosed
  have hname := extract_append_append (before ++ [']', ' ']) name ('/' :: after)
  rw [← htext, List.length_append] at hname
  exact ⟨_, _, hencloses, hname.symm⟩

/-- A descriptor stands from the brace of the last `resource : {` that ends before the last closing
brace up to that brace. -/
theorem exists_encloses_of_rejectedDescriptorIn? {segment descriptor : List Char}
    (h : rejectedDescriptorIn? segment = some descriptor) :
    ∃ opening close, Encloses "resource : \x7b".toList '}' segment opening close ∧
      descriptor = segment.extract (opening + "resource : ".length) (close + 1) := by
  rw [rejectedDescriptorIn?_eq] at h
  obtain ⟨rest, hrest, hmap⟩ := Option.bind_eq_some_iff.1 h
  obtain ⟨inside, hinside, rfl⟩ := Option.map_eq_some_iff.1 hmap
  have henclosed : enclosed? ('r' :: "esource : \x7b".toList) '}' segment = some inside :=
    enclosed?_of_afterFirst? (Option.bind_eq_some_iff.2 ⟨rest, hrest, hinside⟩)
  obtain ⟨before, after, htext, hencloses⟩ := exists_encloses henclosed
  have hdescriptor :=
    extract_append_append (before ++ "resource : ".toList) (inBraces inside) after
  -- the brace that ends the word opens the descriptor
  have hsegment : before ++ "resource : ".toList ++ inBraces inside ++ after = segment := by
    rw [htext, inBraces]
    simp
  have hclose : (before ++ "resource : ".toList ++ inBraces inside).length =
      (before ++ 'r' :: "esource : \x7b".toList ++ inside).length + 1 := by
    simp [inBraces]
    omega
  rw [hsegment, hclose, List.length_append] at hdescriptor
  exact ⟨_, _, hencloses, hdescriptor.symm⟩

/-! ### Captures on a line -/

/-- The first segment of a line with some property. -/
def FirstSegment (line : String) (p : List Char → Prop) (segment : List Char) : Prop :=
  ∃ before after, splitLf line.toList = before ++ segment :: after ∧ p segment ∧
    ∀ earlier ∈ before, ¬ p earlier

section Line

variable {readSegment : List Char → Option (List Char)} {p : List Char → Prop}

/-- Something is read from a line exactly when it has a segment from which something is read. -/
theorem isSome_inSegments_iff (hp : ∀ segment, (readSegment segment).isSome ↔ p segment)
    (line : String) :
    (inSegments readSegment line).isSome ↔ ∃ segment ∈ splitLf line.toList, p segment := by
  rw [inSegments, Option.isSome_map, List.isSome_findSome?]
  simp only [hp, List.any_eq_true]

/-- What is read from a line is what is read from the first segment from which anything is read. -/
theorem inSegments_eq_some_iff (hp : ∀ segment, (readSegment segment).isSome ↔ p segment)
    {line found : String} :
    inSegments readSegment line = some found ↔
      ∃ segment, FirstSegment line p segment ∧ readSegment segment = some found.toList := by
  rw [inSegments, Option.map_eq_some_iff]
  simp only [List.findSome?_eq_some_iff]
  constructor
  · rintro ⟨chars, ⟨before, segment, after, hsplit, hread, hbefore⟩, rfl⟩
    refine ⟨segment, ⟨before, after, hsplit, ?_, fun earlier hmem ↦ ?_⟩, ?_⟩
    · rw [← hp, hread, Option.isSome_some]
    · simp [← hp, hbefore earlier hmem]
    · rw [hread, String.toList_ofList]
  · rintro ⟨segment, ⟨before, after, hsplit, -, hbefore⟩, hread⟩
    refine ⟨found.toList, ⟨before, segment, after, hsplit, hread, fun earlier hmem ↦ ?_⟩,
      String.ofList_toList⟩
    rw [← Option.not_isSome_iff_eq_none, hp]
    exact hbefore earlier hmem

/-- A pattern that reads segments as a marker does captures on a line what the marker reads. -/
theorem inSegments_eq_capture? {pattern : Pattern} (hpattern : pattern.OnOneLine)
    (h : ∀ segment, '\n' ∉ segment → pattern.capture? segment = readSegment segment)
    (line : String) :
    inSegments readSegment line = (pattern.capture? line.toList).map String.ofList := by
  have hmap : (splitLf line.toList).map pattern.capture? =
      (splitLf line.toList).map readSegment :=
    List.map_congr_left fun segment hs ↦ h segment (notMem_of_mem_splitLf hs)
  have hfound := congrArg (List.findSome? id) hmap
  rw [List.findSome?_map, List.findSome?_map, Function.id_comp, Function.id_comp] at hfound
  rw [inSegments, Pattern.capture?_eq_findSome? hpattern, hfound]

/-- Positions that are determined say where in the first segment the captured part stands. -/
theorem inSegments_eq_some_iff_encloses {word : List Char} {x : Char} {first last : Nat}
    (hp : ∀ segment, (readSegment segment).isSome ↔ p segment)
    (h : ∀ segment found, readSegment segment = some found →
      ∃ opening close, Encloses word x segment opening close ∧
        found = segment.extract (opening + first) (close + last))
    {line found : String} :
    inSegments readSegment line = some found ↔
      ∃ segment, FirstSegment line p segment ∧
        ∃ opening close, Encloses word x segment opening close ∧
          found.toList = segment.extract (opening + first) (close + last) := by
  rw [inSegments_eq_some_iff hp]
  refine exists_congr fun segment ↦ and_congr_right fun hfirst ↦ ⟨h segment _, ?_⟩
  rintro ⟨opening, close, hencloses, hfound⟩
  obtain ⟨_, _, _, hsegment, -⟩ := hfirst
  obtain ⟨other, hother⟩ := Option.isSome_iff_exists.1 ((hp segment).2 hsegment)
  obtain ⟨opening', close', hencloses', rfl⟩ := h segment other hother
  obtain ⟨rfl, rfl⟩ := hencloses.unique hencloses'
  rw [hother, hfound]

/-- What a pattern captures on a line, said three ways: by the search for the first way to match, by
the leftmost-first greedy reading, and by the segments of the line. -/
theorem inSegments_eq_some_iff_captures {pattern : Pattern} (hpattern : pattern.OnOneLine)
    (h : ∀ segment, '\n' ∉ segment → pattern.capture? segment = readSegment segment)
    (line found : String) :
    inSegments readSegment line = some found ↔ pattern.Captures line.toList found.toList := by
  rw [inSegments_eq_capture? hpattern h, ← Pattern.capture?_eq_some_iff, Option.map_eq_some_iff]
  constructor
  · rintro ⟨chars, hchars, rfl⟩
    rw [hchars, String.toList_ofList]
  · exact fun hfound ↦ ⟨found.toList, hfound, String.ofList_toList⟩

end Line

theorem onOneLine_testName : Pattern.testName.OnOneLine := by
  refine ⟨?_, ?_, ?_⟩ <;> decide +kernel

theorem onOneLine_rejectedDescriptor : Pattern.rejectedDescriptor.OnOneLine := by
  refine ⟨?_, ?_, ?_⟩ <;> decide +kernel

/-- A name holds no bracket with a space, since it stands behind the last one. -/
theorem not_infix_of_testName? {line name : String} (h : testName? line = some name) :
    ¬ "] ".toList <:+: name.toList := by
  obtain ⟨segment, -, hname⟩ :=
    (inSegments_eq_some_iff (fun _ ↦ isSome_testNameIn?_iff)).1 h
  rw [testNameIn?_eq] at hname
  exact @not_infix_of_enclosed? [' '] segment '/' ']' _ (enclosed?_of_afterFirst? hname)

/-- A descriptor is in braces, has no line feed, and does not hold the words in front of its brace
with that brace, since it opens with the last one. -/
theorem inBraces_of_rejectedDescriptor? {line descriptor : String}
    (h : rejectedDescriptor? line = some descriptor) :
    ∃ inside, descriptor.toList = inBraces inside ∧ '\n' ∉ inBraces inside ∧
      ¬ "resource : \x7b".toList <:+: inBraces inside := by
  obtain ⟨segment, ⟨before, after, hsplit, -, -⟩, hread⟩ :=
    (inSegments_eq_some_iff (fun _ ↦ isSome_rejectedDescriptorIn?_iff)).1 h
  have hfeed : '\n' ∉ segment :=
    @notMem_of_mem_splitLf line.toList segment (by rw [hsplit]; simp)
  rw [rejectedDescriptorIn?_eq] at hread
  obtain ⟨rest, hrest, hmap⟩ := Option.bind_eq_some_iff.1 hread
  obtain ⟨inside, hinside, hdescriptor⟩ := Option.map_eq_some_iff.1 hmap
  have henclosed := enclosed?_of_afterFirst? (Option.bind_eq_some_iff.2 ⟨rest, hrest, hinside⟩)
  refine ⟨inside, hdescriptor.symm, fun hmem ↦ hfeed ?_, fun hin ↦ ?_⟩
  · obtain ⟨front, tail, rfl, -⟩ := eq_append_of_enclosed? henclosed
    have hpart : inBraces inside <:+: front ++ "resource : \x7b".toList ++ inside ++ '}' :: tail :=
      ⟨front ++ "resource : ".toList, tail, by simp [inBraces]⟩
    exact hpart.subset hmem
  · -- a closing brace is no part of the words, and the opening one ends their last occurrence
    obtain ⟨head, -, hlast⟩ := Option.bind_eq_some_iff.1 henclosed
    have hlater := (@afterLast?_eq_some_iff "esource : \x7b".toList head inside 'r').1 hlast
    have hinside : ¬ "resource : \x7b".toList <:+: '{' :: inside :=
      fun hin ↦ hlater.2 (hin.trans ⟨"esource : ".toList, [], by simp⟩)
    rw [← afterFirst?_eq_none_iff] at hinside
    have hclosing : '}' ∉ "resource : \x7b".toList := by decide +kernel
    have hbraces := afterFirst?_concat hclosing ('{' :: inside)
    rw [hinside] at hbraces
    exact afterFirst?_eq_none_iff.1 hbraces hin

/-- **The name on a line** is what the pattern of a test captures, leftmost first and with gaps as
long as possible. There is one exactly when a segment announces a test. It stands in the first such
segment, between the last bracket that ends before the last slash and that slash. -/
theorem testName?_captures (line : String) :
    (testName? line = (Pattern.testName.capture? line.toList).map String.ofList ∧
      ∀ name, testName? line = some name ↔
        Pattern.testName.Captures line.toList name.toList) ∧
    ((testName? line).isSome ↔ ∃ segment ∈ splitLf line.toList, AnnouncesTest segment) ∧
    (∀ name, testName? line = some name ↔
      ∃ segment, FirstSegment line AnnouncesTest segment ∧
        ∃ opening close, Encloses "] ".toList '/' segment opening close ∧
          name.toList = segment.extract (opening + "] ".length) close) ∧
    ∀ name, testName? line = some name →
      '\n' ∉ name.toList ∧ ¬ "] ".toList <:+: name.toList := by
  have hpattern : ∀ segment, '\n' ∉ segment →
      Pattern.testName.capture? segment = testNameIn? segment := fun _ ↦ capture?_testName
  have hsome : ∀ segment, (testNameIn? segment).isSome ↔ AnnouncesTest segment :=
    fun _ ↦ isSome_testNameIn?_iff
  refine ⟨⟨inSegments_eq_capture? onOneLine_testName hpattern line,
    inSegments_eq_some_iff_captures onOneLine_testName hpattern line⟩,
    isSome_inSegments_iff hsome line, fun name ↦ ?_, fun name hname ↦ ?_⟩
  · exact inSegments_eq_some_iff_encloses hsome fun _ _ ↦ exists_encloses_of_testNameIn?
  · exact ⟨feed_notMem_of_testName? hname, not_infix_of_testName? hname⟩

/-- The first segment has no bracket with a space after `RUN`, and in the second one the last such
bracket has no slash behind it. -/
theorem testName?_captures_backing_off :
    Pattern.testName.Captures "] RUN/\n[ RUN ] x] RUN] a/b/c] d".toList "a/b".toList ∧
      ¬ "] ".toList <:+: "a/b".toList := by
  have hline := testName?_captures "] RUN/\n[ RUN ] x] RUN] a/b/c] d"
  have hname : testName? "] RUN/\n[ RUN ] x] RUN] a/b/c] d" = some "a/b" := by decide +kernel
  exact ⟨(hline.1.2 "a/b").1 hname, (hline.2.2.2 "a/b" hname).2⟩

/-- **The descriptor on a line** is what the pattern of a rejection captures, leftmost first and
with gaps as long as possible. There is one exactly when a segment reports a rejection. It stands
in the first such segment, from the brace of the last `resource : {` before the last closing brace
up to that closing brace. -/
theorem rejectedDescriptor?_captures (line : String) :
    (rejectedDescriptor? line =
        (Pattern.rejectedDescriptor.capture? line.toList).map String.ofList ∧
      ∀ descriptor, rejectedDescriptor? line = some descriptor ↔
        Pattern.rejectedDescriptor.Captures line.toList descriptor.toList) ∧
    ((rejectedDescriptor? line).isSome ↔
      ∃ segment ∈ splitLf line.toList, ReportsRejection segment) ∧
    (∀ descriptor, rejectedDescriptor? line = some descriptor ↔
      ∃ segment, FirstSegment line ReportsRejection segment ∧
        ∃ opening close, Encloses "resource : \x7b".toList '}' segment opening close ∧
          descriptor.toList = segment.extract (opening + "resource : ".length) (close + 1)) ∧
    ∀ descriptor, rejectedDescriptor? line = some descriptor →
      (∃ inside, descriptor.toList = '{' :: (inside ++ ['}'])) ∧ '\n' ∉ descriptor.toList ∧
        ¬ "resource : \x7b".toList <:+: descriptor.toList := by
  have hpattern : ∀ segment, '\n' ∉ segment →
      Pattern.rejectedDescriptor.capture? segment = rejectedDescriptorIn? segment :=
    fun _ ↦ capture?_rejectedDescriptor
  have hsome : ∀ segment, (rejectedDescriptorIn? segment).isSome ↔ ReportsRejection segment :=
    fun _ ↦ isSome_rejectedDescriptorIn?_iff
  refine ⟨⟨inSegments_eq_capture? onOneLine_rejectedDescriptor hpattern line,
    inSegments_eq_some_iff_captures onOneLine_rejectedDescriptor hpattern line⟩,
    isSome_inSegments_iff hsome line, fun descriptor ↦ ?_, fun descriptor hdescriptor ↦ ?_⟩
  · exact inSegments_eq_some_iff_encloses hsome fun _ _ ↦ exists_encloses_of_rejectedDescriptorIn?
  · obtain ⟨inside, heq, hfeed, hword⟩ := inBraces_of_rejectedDescriptor? hdescriptor
    rw [heq]
    exact ⟨⟨inside, rfl⟩, hfeed, hword⟩

/-- Braces in the first segment are in the wrong order. In the second one the words in front of a
descriptor stand twice where a brace closes behind them, and once more where none does. -/
theorem rejectedDescriptor?_captures_nested :
    Pattern.rejectedDescriptor.Captures
        ("\x7dResource alignment resource : \x7b\nResource alignment 8, resource : \x7b0 " ++
          "resource : \x7b1 \x7b2\x7d\x7d resource : \x7b").toList
        "\x7b1 \x7b2\x7d\x7d".toList ∧
      ¬ "resource : \x7b".toList <:+: "\x7b1 \x7b2\x7d\x7d".toList := by
  have hline := rejectedDescriptor?_captures
    ("\x7dResource alignment resource : \x7b\nResource alignment 8, resource : \x7b0 " ++
      "resource : \x7b1 \x7b2\x7d\x7d resource : \x7b")
  have hdescriptor : rejectedDescriptor?
      ("\x7dResource alignment resource : \x7b\nResource alignment 8, resource : \x7b0 " ++
        "resource : \x7b1 \x7b2\x7d\x7d resource : \x7b") =
      some "\x7b1 \x7b2\x7d\x7d" := by decide +kernel
  exact ⟨(hline.1.2 _).1 hdescriptor, (hline.2.2.2 _ hdescriptor).2.2⟩

end AlignmentTally.Marker
