import AlignmentTally.Marker.Pattern
import Mathlib.Data.List.Lex

/-!
# The preferred match of a pattern

A pattern is read by trying its ways in order of preference. This module says what the first one to
succeed is, without the order in which they are tried.

## Matches

A match has a place in the text and gaps of certain lengths (`Pattern.Match`). The preferred match
starts first, and among those that start there its gaps are as long as possible, one after another:
the lengths of the gaps come last in the lexicographic order (`Pattern.Match.IsGreedy`). What it
takes for the captured part is the capture (`Pattern.Captures`). There is at most one
(`Pattern.Captures.unique`), because items and the lengths of their gaps settle how much of the text
they take (`Fits.length_eq`).

## The argument

It is about one gap. The ways of a gap are all its ways, the longest one first (`mem_gapWays_iff`,
`pairwise_gapWays`), so the first way after which the rest succeeds is the longest such way. What is
best of the rest then stays best behind it (`IsBest.flatMap_ways`, by induction on the items of the
pattern). The starting place is no gap, and it is preferred the other way round: an induction on
the text takes care of it (`Pattern.capture?_eq_some_iff`).

A character in a pattern has one way or none, so it leaves no choice. Nothing is said of particular
patterns here; those of the two markers are in `AlignmentTally.Proofs.Captures`.
-/

namespace AlignmentTally.Marker

/-! ### The ways of a gap -/

/-- A gap can take any beginning of a text that has no line feed. -/
theorem mem_gapWays_iff {text : List Char} {way : List Char × List Char} :
    way ∈ gapWays text ↔ way.1 ++ way.2 = text ∧ '\n' ∉ way.1 := by
  refine ⟨fun h ↦ ⟨append_of_mem_gapWays h, notMem_of_mem_gapWays h⟩, ?_⟩
  obtain ⟨taken, rest⟩ := way
  rintro ⟨rfl, hfeed⟩
  induction taken with
  | nil =>
    cases rest with
    | nil => exact List.mem_singleton_self _
    | cons c rest =>
      rw [List.nil_append, gapWays]
      split
      · exact List.mem_singleton_self _
      · exact List.mem_append_right _ (List.mem_singleton_self _)
  | cons c taken ih =>
    rw [List.mem_cons, not_or] at hfeed
    rw [List.cons_append, gapWays, if_neg (Ne.symm hfeed.1)]
    exact List.mem_append_left _ (List.mem_map.2 ⟨_, ih hfeed.2, rfl⟩)

/-- The longest way of a gap comes first. -/
theorem pairwise_gapWays (text : List Char) :
    (gapWays text).Pairwise fun a b ↦ b.1.length < a.1.length := by
  induction text with
  | nil => exact List.pairwise_singleton _ _
  | cons c text ih =>
    rw [gapWays]
    split
    · exact List.pairwise_singleton _ _
    · refine List.pairwise_append.2 ⟨List.pairwise_map.2 (ih.imp Nat.succ_lt_succ),
        List.pairwise_singleton _ _, fun a ha b hb ↦ ?_⟩
      obtain ⟨way, -, rfl⟩ := List.mem_map.1 ha
      obtain rfl := List.mem_singleton.1 hb
      exact Nat.succ_pos _

/-! ### What items stand for -/

/-- Items stand for a text, with gaps of some lengths. -/
inductive Fits : List Item → List Nat → List Char → Prop
  | nil : Fits [] [] []
  | char (c : Char) {items : List Item} {gaps : List Nat} {text : List Char} :
    Fits items gaps text → Fits (.char c :: items) gaps (c :: text)
  | gap {taken : List Char} {items : List Item} {gaps : List Nat} {text : List Char} :
    '\n' ∉ taken → Fits items gaps text →
      Fits (.gap :: items) (taken.length :: gaps) (taken ++ text)

section Fits

variable {items : List Item} {gaps : List Nat} {text : List Char}

theorem fits_char_cons_iff {c : Char} :
    Fits (.char c :: items) gaps text ↔ ∃ rest, Fits items gaps rest ∧ text = c :: rest := by
  constructor
  · rintro (_ | ⟨_, h⟩)
    exact ⟨_, h, rfl⟩
  · rintro ⟨rest, h, rfl⟩
    exact .char c h

theorem fits_gap_cons_iff :
    Fits (.gap :: items) gaps text ↔ ∃ taken rest lengths, '\n' ∉ taken ∧ Fits items lengths rest ∧
      gaps = taken.length :: lengths ∧ text = taken ++ rest := by
  constructor
  · rintro (_ | _ | ⟨hfeed, h⟩)
    exact ⟨_, _, _, hfeed, h, rfl, rfl⟩
  · rintro ⟨taken, rest, lengths, hfeed, h, rfl, rfl⟩
    exact .gap hfeed h

/-- The lengths of the gaps decide how long the text is. -/
theorem Fits.length_eq (h : Fits items gaps text) {other : List Char}
    (hother : Fits items gaps other) : text.length = other.length := by
  induction h generalizing other with
  | nil =>
    cases hother
    rfl
  | char c h ih =>
    obtain ⟨rest, hrest, rfl⟩ := fits_char_cons_iff.1 hother
    exact congrArg (· + 1) (ih hrest)
  | gap hfeed h ih =>
    obtain ⟨taken, rest, lengths, -, hrest, hgaps, rfl⟩ := fits_gap_cons_iff.1 hother
    obtain ⟨hlength, rfl⟩ := List.cons.inj hgaps
    rw [List.length_append, List.length_append, hlength, ih hrest]

/-- The items decide how many gaps there are. -/
theorem Fits.length_gaps_eq (h : Fits items gaps text) {others : List Nat} {other : List Char}
    (hother : Fits items others other) : gaps.length = others.length := by
  induction h generalizing others other with
  | nil =>
    cases hother
    rfl
  | char c h ih =>
    obtain ⟨rest, hrest, rfl⟩ := fits_char_cons_iff.1 hother
    exact ih hrest
  | gap hfeed h ih =>
    obtain ⟨taken, rest, lengths, -, hrest, rfl, rfl⟩ := fits_gap_cons_iff.1 hother
    exact congrArg (· + 1) (ih hrest)

end Fits

theorem ways_cons_flatMap {α : Type} (item : Item) (items : List Item) (text : List Char)
    (search : List Char × List Char → List α) :
    (ways (item :: items) text).flatMap search =
      (item.ways text).flatMap fun first ↦
        (ways items first.2).flatMap fun more ↦ search (first.1 ++ more.1, more.2) := by
  simp only [ways, List.flatMap_assoc, List.flatMap_map]

/-- The best of some candidates, each of which has gaps of some lengths: none if there are none, and
otherwise one whose lengths come last. -/
def IsBest {α : Type} (candidate : List Nat → α → Prop) : Option α → Prop
  | none => ∀ gaps found, ¬ candidate gaps found
  | some found => ∃ gaps, candidate gaps found ∧
      ∀ others other, candidate others other → others ≤ gaps

namespace IsBest

variable {α : Type}

theorem congr {candidate other : List Nat → α → Prop} {found? : Option α}
    (h : ∀ gaps found, candidate gaps found ↔ other gaps found) (hbest : IsBest candidate found?) :
    IsBest other found? := by
  have heq : candidate = other := funext fun gaps ↦ funext fun found ↦ propext (h gaps found)
  rwa [← heq]

/-- The longest way of a gap after which there is a candidate, with the best one after it. -/
theorem flatMap_gapWays {candidate : List Char × List Char → List Nat → α → Prop}
    {search : List Char × List Char → List α} (h : ∀ way, IsBest (candidate way) (search way).head?)
    (text : List Char) :
    IsBest (fun gaps found ↦ ∃ taken rest lengths, taken ++ rest = text ∧ '\n' ∉ taken ∧
        gaps = taken.length :: lengths ∧ candidate (taken, rest) lengths found)
      ((gapWays text).flatMap search).head? := by
  rw [List.head?_flatMap]
  cases hsearch : (gapWays text).findSome? fun way ↦ (search way).head? with
  | none =>
    rintro gaps found ⟨taken, rest, lengths, htext, hfeed, -, hcandidate⟩
    have hmem : (taken, rest) ∈ gapWays text := mem_gapWays_iff.2 ⟨htext, hfeed⟩
    have hnone := h (taken, rest)
    rw [List.findSome?_eq_none_iff.1 hsearch _ hmem] at hnone
    exact hnone _ _ hcandidate
  | some found =>
    obtain ⟨longer, ⟨taken, rest⟩, shorter, hways, hfound, hlonger⟩ :=
      List.findSome?_eq_some_iff.1 hsearch
    have hmem : (taken, rest) ∈ gapWays text := by simp [hways]
    have hpairwise := pairwise_gapWays text
    rw [hways, List.pairwise_append, List.pairwise_cons] at hpairwise
    obtain ⟨-, ⟨hshorter, -⟩, -⟩ := hpairwise
    obtain ⟨htext, hfeed⟩ := mem_gapWays_iff.1 hmem
    have hbest := h (taken, rest)
    rw [hfound] at hbest
    obtain ⟨lengths, hcandidate, hlast⟩ := hbest
    refine ⟨taken.length :: lengths, ⟨taken, rest, lengths, htext, hfeed, rfl, hcandidate⟩, ?_⟩
    rintro others other ⟨taken', rest', lengths', htext', hfeed', rfl, hother⟩
    have hmem' : (taken', rest') ∈ gapWays text := mem_gapWays_iff.2 ⟨htext', hfeed'⟩
    rw [hways, List.mem_append, List.mem_cons] at hmem'
    rcases hmem' with hmem' | hmem' | hmem'
    · -- the longer ways lead to no candidate
      have hnone := h (taken', rest')
      rw [hlonger _ hmem'] at hnone
      exact absurd hother (hnone _ _)
    · obtain ⟨rfl, rfl⟩ := Prod.mk.inj hmem'
      exact List.cons_le_cons _ (hlast _ _ hother)
    · exact le_of_lt (.rel (hshorter _ hmem'))

/-- **Trying ways in order of preference finds the best**, if for each way the best of the rest is
found. The lengths of the gaps of the items come before those of the rest. -/
theorem flatMap_ways (items : List Item)
    {candidate : List Char × List Char → List Nat → α → Prop}
    {search : List Char × List Char → List α} (h : ∀ way, IsBest (candidate way) (search way).head?)
    (text : List Char) :
    IsBest (fun gaps found ↦ ∃ taken rest first lengths, taken ++ rest = text ∧
        Fits items first taken ∧ gaps = first ++ lengths ∧ candidate (taken, rest) lengths found)
      ((ways items text).flatMap search).head? := by
  induction items generalizing candidate search text with
  | nil =>
    rw [ways, List.flatMap_singleton]
    refine (h ([], text)).congr fun gaps found ↦ ⟨fun hc ↦ ?_, ?_⟩
    · exact ⟨[], text, [], gaps, rfl, .nil, rfl, hc⟩
    · rintro ⟨taken, rest, first, lengths, rfl, hfits, rfl, hc⟩
      cases hfits
      exact hc
  | cons item items ih =>
    rw [ways_cons_flatMap]
    have hrest := fun first : List Char × List Char ↦
      ih (fun more ↦ h (first.1 ++ more.1, more.2)) first.2
    cases item with
    | gap =>
      refine (flatMap_gapWays hrest text).congr fun gaps found ↦ ⟨?_, ?_⟩
      · rintro ⟨taken, _, _, rfl, hfeed, rfl, more, rest, first, lengths, rfl, hfits, rfl, hc⟩
        exact ⟨taken ++ more, rest, taken.length :: first, lengths, List.append_assoc ..,
          .gap hfeed hfits, rfl, hc⟩
      · rintro ⟨_, rest, _, lengths, rfl, hitem, rfl, hc⟩
        obtain ⟨taken, more, first, hfeed, hfits, rfl, rfl⟩ := fits_gap_cons_iff.1 hitem
        exact ⟨taken, more ++ rest, first ++ lengths, (List.append_assoc ..).symm, hfeed, rfl,
          more, rest, first, lengths, rfl, hfits, rfl, hc⟩
    | char c =>
      rcases text with _ | ⟨d, text⟩
      · rintro gaps found ⟨taken, rest, first, lengths, htext, hfits, -, -⟩
        obtain ⟨more, -, rfl⟩ := fits_char_cons_iff.1 hfits
        cases htext
      rw [Item.ways]
      split
      · next hcd =>
        rw [List.flatMap_singleton]
        refine (hrest ([d], text)).congr fun gaps found ↦ ⟨?_, ?_⟩
        · rintro ⟨more, rest, first, lengths, rfl, hfits, rfl, hc⟩
          exact ⟨c :: more, rest, first, lengths, by rw [hcd]; rfl, .char c hfits, rfl, hcd ▸ hc⟩
        · rintro ⟨_, rest, first, lengths, htext, hitem, rfl, hc⟩
          obtain ⟨more, hfits, rfl⟩ := fits_char_cons_iff.1 hitem
          exact ⟨more, rest, first, lengths, (List.cons.inj htext).2, hfits, rfl, hcd ▸ hc⟩
      · next hcd =>
        rintro gaps found ⟨taken, rest, first, lengths, htext, hfits, -, -⟩
        obtain ⟨more, -, rfl⟩ := fits_char_cons_iff.1 hfits
        exact hcd (List.cons.inj htext).1

end IsBest

/-! ### The match of a pattern -/

namespace Pattern

/-- A match of a pattern at the start of a text. -/
structure Match (pattern : Pattern) (text : List Char) where
  /-- The match before the captured part. -/
  opening : List Char
  /-- The captured part. -/
  captured : List Char
  /-- The match after the captured part. -/
  closing : List Char
  /-- The text after the match. -/
  rest : List Char
  /-- How long the gaps before the captured part are. -/
  openingGaps : List Nat
  /-- How long the gaps of the captured part are. -/
  capturedGaps : List Nat
  /-- How long the gaps after the captured part are. -/
  closingGaps : List Nat
  /-- These parts make up the text. -/
  append_eq : opening ++ (captured ++ (closing ++ rest)) = text
  opening_fits : Fits pattern.before openingGaps opening
  captured_fits : Fits pattern.captured capturedGaps captured
  closing_fits : Fits pattern.after closingGaps closing

variable {pattern : Pattern} {text : List Char}

/-- How long the gaps of a match are, one after another. -/
def Match.gaps (m : pattern.Match text) : List Nat :=
  m.openingGaps ++ (m.capturedGaps ++ m.closingGaps)

/-- The gaps of a match are as long as possible, the first one before all others. -/
def Match.IsGreedy (m : pattern.Match text) : Prop :=
  ∀ other : pattern.Match text, other.gaps ≤ m.gaps

/-- A pattern captures a part of a text: with gaps as long as possible, from the first place at
which it has a match. -/
def Captures (pattern : Pattern) (text captured : List Char) : Prop :=
  ∃ front tail, front ++ tail = text ∧
    (∃ m : pattern.Match tail, m.IsGreedy ∧ m.captured = captured) ∧
    ∀ earlier later, earlier ++ later = text → Nonempty (pattern.Match later) →
      front.length ≤ earlier.length

theorem capturesAt_eq_flatMap (pattern : Pattern) (text : List Char) :
    pattern.capturesAt text =
      (ways pattern.before text).flatMap fun first ↦
        (ways pattern.captured first.2).flatMap fun inside ↦
          (ways pattern.after inside.2).flatMap fun _ ↦ [inside.1] := by
  simp only [capturesAt, List.map_eq_flatMap]

/-- At the start of a text, the first way to succeed is the match with the longest gaps. -/
theorem isBest_capturesAt (pattern : Pattern) (text : List Char) :
    IsBest (fun gaps found ↦ ∃ m : pattern.Match text, m.gaps = gaps ∧ m.captured = found)
      (pattern.capturesAt text).head? := by
  have hclosing := fun inside : List Char × List Char ↦
    @IsBest.flatMap_ways _ pattern.after (fun _ gaps found ↦ gaps = [] ∧ inside.1 = found)
      (fun _ ↦ [inside.1]) (fun _ ↦ ⟨[], ⟨rfl, rfl⟩, fun _ _ h ↦ le_of_eq h.1⟩) inside.2
  have hcaptured := fun first : List Char × List Char ↦
    IsBest.flatMap_ways pattern.captured hclosing first.2
  have hopening := IsBest.flatMap_ways pattern.before hcaptured text
  rw [← capturesAt_eq_flatMap] at hopening
  refine hopening.congr fun gaps found ↦ ⟨?_, ?_⟩
  · rintro ⟨opening, _, openingGaps, _, rfl, ofits, rfl, captured, _, capturedGaps, _, rfl,
      cfits, rfl, closing, rest, closingGaps, _, rfl, efits, rfl, rfl, rfl⟩
    refine ⟨⟨opening, captured, closing, rest, openingGaps, capturedGaps, closingGaps, rfl,
      ofits, cfits, efits⟩, ?_, rfl⟩
    rw [Match.gaps, List.append_nil]
  · rintro ⟨m, rfl, rfl⟩
    exact ⟨m.opening, _, m.openingGaps, _, m.append_eq, m.opening_fits, rfl, m.captured, _,
      m.capturedGaps, _, rfl, m.captured_fits, rfl, m.closing, m.rest, m.closingGaps, [], rfl,
      m.closing_fits, (List.append_nil _).symm, rfl, rfl⟩

/-- Matches with gaps of the same lengths capture the same. -/
theorem Match.captured_congr {m other : pattern.Match text} (h : m.gaps = other.gaps) :
    m.captured = other.captured := by
  have hopeningGaps := m.opening_fits.length_gaps_eq other.opening_fits
  have hcapturedGaps := m.captured_fits.length_gaps_eq other.captured_fits
  obtain ⟨hopening, h⟩ := List.append_inj h hopeningGaps
  obtain ⟨hcaptured, -⟩ := List.append_inj h hcapturedGaps
  have hopeningLength := m.opening_fits.length_eq (hopening ▸ other.opening_fits)
  have hcapturedLength := m.captured_fits.length_eq (hcaptured ▸ other.captured_fits)
  obtain ⟨-, htext⟩ := List.append_inj (m.append_eq.trans other.append_eq.symm) hopeningLength
  exact (List.append_inj htext hcapturedLength).1

/-- At a place at which a way succeeds there is a match with longest gaps. -/
theorem exists_isGreedy {captured : List Char}
    (h : (pattern.capturesAt text).head? = some captured) :
    ∃ m : pattern.Match text, m.IsGreedy ∧ m.captured = captured := by
  have hbest := isBest_capturesAt pattern text
  rw [h] at hbest
  obtain ⟨-, ⟨m, rfl, hcaptured⟩, hlast⟩ := hbest
  exact ⟨m, fun other ↦ hlast _ _ ⟨other, rfl, rfl⟩, hcaptured⟩

/-- At a place at which no way succeeds there is no match. -/
theorem isEmpty_match (h : (pattern.capturesAt text).head? = none) :
    IsEmpty (pattern.Match text) := by
  have hbest := isBest_capturesAt pattern text
  rw [h] at hbest
  exact ⟨fun m ↦ hbest _ _ ⟨m, rfl, rfl⟩⟩

/-- What is captured is captured as a pattern captures. -/
theorem captures_of_capture? {captured : List Char} (h : pattern.capture? text = some captured) :
    pattern.Captures text captured := by
  induction text with
  | nil => exact ⟨[], [], rfl, exists_isGreedy h, fun _ _ _ _ ↦ Nat.zero_le _⟩
  | cons c text ih =>
    rcases Option.or_eq_some_iff.1 h with hhere | ⟨hhere, hlater⟩
    · exact ⟨[], c :: text, rfl, exists_isGreedy hhere, fun _ _ _ _ ↦ Nat.zero_le _⟩
    · obtain ⟨front, tail, rfl, hgreedy, hfirst⟩ := ih hlater
      refine ⟨c :: front, tail, rfl, hgreedy, fun earlier later htext hmatch ↦ ?_⟩
      rcases earlier with _ | ⟨d, earlier⟩
      · rw [List.nil_append] at htext
        rw [htext] at hmatch
        exact absurd hmatch (not_nonempty_iff.2 (isEmpty_match hhere))
      · exact Nat.succ_le_succ (hfirst earlier later (List.cons.inj htext).2 hmatch)

/-- Where nothing is captured there is no match at any place. -/
theorem isEmpty_match_of_capture? (h : pattern.capture? text = none) {front tail : List Char}
    (htext : front ++ tail = text) : IsEmpty (pattern.Match tail) := by
  induction text generalizing front with
  | nil =>
    obtain ⟨rfl, rfl⟩ := List.append_eq_nil_iff.1 htext
    exact isEmpty_match h
  | cons c text ih =>
    obtain ⟨hhere, hlater⟩ := Option.or_eq_none_iff.1 h
    rcases front with _ | ⟨d, front⟩
    · rw [List.nil_append] at htext
      exact isEmpty_match (htext ▸ hhere)
    · exact ih hlater (List.cons.inj htext).2

/-- What a pattern captures is determined. -/
theorem Captures.unique {captured other : List Char} (h : pattern.Captures text captured)
    (hother : pattern.Captures text other) : captured = other := by
  obtain ⟨front, tail, rfl, ⟨m, hm, rfl⟩, hfirst⟩ := h
  obtain ⟨front', tail', htext, ⟨m', hm', rfl⟩, hfirst'⟩ := hother
  have hle := hfirst front' tail' htext ⟨m'⟩
  have hge := hfirst' front tail rfl ⟨m⟩
  obtain ⟨rfl, rfl⟩ := List.append_inj htext (Nat.le_antisymm hge hle)
  exact Match.captured_congr (le_antisymm (hm' m) (hm m'))

/-- **The first way to succeed is the preferred match**: it starts first, and its gaps are as long
as possible, one after another. -/
theorem capture?_eq_some_iff {captured : List Char} :
    pattern.capture? text = some captured ↔ pattern.Captures text captured := by
  refine ⟨captures_of_capture?, fun h ↦ ?_⟩
  cases hcapture : pattern.capture? text with
  | none =>
    obtain ⟨front, tail, htext, ⟨m, -, -⟩, -⟩ := h
    exact ((isEmpty_match_of_capture? hcapture htext).false m).elim
  | some found => rw [(captures_of_capture? hcapture).unique h]

end Pattern

end AlignmentTally.Marker
