import AlignmentTally.LineEnding
import Mathlib.Data.List.Basic

/-!
# Cutting and joining

Both ways of cutting a text distribute over their own terminator: the pieces of
`before ++ terminator ++ after` are those of `before` followed by those of `after`
(`splitLf_append_feed`, `splitCrlf_append_returnFeed`). A run such as `\r\r\n` is no exception,
because the terminator `\r\n` does not overlap itself. Everything else about seams follows from
these two equations.

## Two ways of cutting compared

A piece of the text under `\r\n` may hold several segments between line feeds, and each cut at
`\r\n` leaves a `\r` at the end of the segment before it. So a reading of segments that a final `\r`
does not change (`ReturnBlind`) reads the same from a text cut at line feeds as from its `\r\n`
pieces, each cut at line feeds in turn (`ReturnBlind.map_splitLf_eq_flatMap`).

This holds for every text and rests on the two seams alone. That each piece is a single segment is a
condition on the text (`FeedsFollowReturns`), and under it the two cuts are read alike piece by
piece (`ReturnBlind.map_splitCrlf_eq_map_splitLf`).
-/

namespace AlignmentTally.LineEnding

/-! ### One piece and one seam -/

/-- The first of some pieces stays the first when others follow. -/
theorem modifyHead_append {pieces : List (List Char)} (h : pieces ≠ [])
    (f : List Char → List Char) (others : List (List Char)) :
    (pieces ++ others).modifyHead f = pieces.modifyHead f ++ others := by
  cases pieces with
  | nil => exact absurd rfl h
  | cons first rest => rfl

/-- A text without line feeds is one piece. -/
theorem splitLf_of_notMem {text : List Char} (h : '\n' ∉ text) : splitLf text = [text] := by
  fun_induction splitLf text with
  | case1 => rfl
  | case2 => simp at h
  | case3 c rest _ ih =>
    rw [ih fun hr ↦ h (List.mem_cons_of_mem _ hr)]
    rfl

/-- No piece holds a line feed. -/
theorem notMem_of_mem_splitLf {text piece : List Char} (h : piece ∈ splitLf text) :
    '\n' ∉ piece := by
  fun_induction splitLf text generalizing piece with
  | case1 => simp_all
  | case2 rest ih =>
    rcases List.mem_cons.1 h with rfl | h
    · simp
    · exact ih h
  | case3 c rest hc ih =>
    obtain ⟨first, others, hs⟩ := List.exists_cons_of_ne_nil (splitLf_ne_nil rest)
    rw [hs] at h ih
    rcases List.mem_cons.1 h with rfl | h
    · have hfirst : '\n' ∉ first := ih List.mem_cons_self
      have hne : '\n' ≠ c := fun he ↦ hc he.symm
      simp [hne, hfirst]
    · exact ih (List.mem_cons_of_mem _ h)

/-- **A line feed is a seam.** Cutting at line feeds cuts what is before one and what is after it
independently. -/
theorem splitLf_append_feed (before after : List Char) :
    splitLf (before ++ '\n' :: after) = splitLf before ++ splitLf after := by
  fun_induction splitLf before with
  | case1 => rfl
  | case2 rest ih => simp [splitLf, ih]
  | case3 c rest hc ih =>
    rw [List.cons_append, splitLf, ih, modifyHead_append (splitLf_ne_nil rest)]
    exact hc

/-- **A `\r\n` is a seam.** What is before it may end in `\r`, and what is after it may begin with
`\n`: neither forms a pair with the terminator. -/
theorem splitCrlf_append_returnFeed (before after : List Char) :
    splitCrlf (before ++ '\r' :: '\n' :: after) = splitCrlf before ++ splitCrlf after := by
  fun_induction splitCrlf before with
  | case1 => rfl
  | case2 rest ih => simp [splitCrlf, ih]
  | case3 c rest hc ih =>
    -- `c` opens no pair in the longer text either: it is followed by what followed it before, or by
    -- the `\r` of the terminator
    have hpair : ∀ tail, c = '\r' → rest ++ '\r' :: '\n' :: after = '\n' :: tail → False := by
      intro tail hr ht
      cases rest with
      | nil => simp at ht
      | cons d rest => exact hc rest hr (by simp_all)
    rw [List.cons_append, splitCrlf, ih, modifyHead_append (splitCrlf_ne_nil rest)]
    exact hpair

/-- A text without `\r\n` is one piece. -/
theorem splitCrlf_of_not_infix {text : List Char} (h : ¬ ['\r', '\n'] <:+: text) :
    splitCrlf text = [text] := by
  fun_induction splitCrlf text with
  | case1 => rfl
  | case2 rest => exact absurd ⟨[], rest, rfl⟩ h
  | case3 c rest _ ih =>
    rw [ih fun hr ↦ h (List.infix_cons hr)]
    rfl

/-- No piece holds `\r\n`. -/
theorem not_infix_of_mem_splitCrlf {text piece : List Char} (h : piece ∈ splitCrlf text) :
    ¬ ['\r', '\n'] <:+: piece := by
  fun_induction splitCrlf text generalizing piece with
  | case1 => simp_all
  | case2 rest ih =>
    rcases List.mem_cons.1 h with rfl | h
    · simp
    · exact ih h
  | case3 c rest hc ih =>
    obtain ⟨first, others, hs⟩ := List.exists_cons_of_ne_nil (splitCrlf_ne_nil rest)
    rw [hs] at h ih
    rcases List.mem_cons.1 h with rfl | h
    · rw [List.infix_cons_iff]
      rintro (hp | hi)
      · -- the first piece begins the text, so a pair at its front would have been cut
        obtain ⟨tail, ht⟩ := hp
        obtain ⟨rfl, rfl⟩ : '\r' = c ∧ '\n' :: tail = first := by simpa using ht
        have hrest := intercalate_splitCrlf rest
        rw [hs] at hrest
        cases others with
        | nil => exact hc tail rfl (by simpa using hrest.symm)
        | cons second others => exact hc _ rfl (by simpa using hrest.symm)
      · exact ih List.mem_cons_self hi
    · exact ih (List.mem_cons_of_mem _ h)

/-! ### Line feeds that follow a `\r` -/

/-- Each line feed of a text follows a `\r`. -/
def FeedsFollowReturns (text : List Char) : Prop :=
  ∀ before after, text = before ++ '\n' :: after → ['\r'] <:+ before

/-- What is left without a front is of the same kind, unless it begins with the feed of a pair. -/
theorem FeedsFollowReturns.of_append (front : List Char) {rest : List Char}
    (h : FeedsFollowReturns (front ++ rest))
    (hseam : ∀ tail, rest = '\n' :: tail → ¬ ['\r'] <:+ front) : FeedsFollowReturns rest := by
  rintro before after rfl
  have hsuffix := h (front ++ before) after (List.append_assoc ..).symm
  rcases List.eq_nil_or_concat' before with rfl | ⟨before, c, rfl⟩
  · rw [List.append_nil] at hsuffix
    exact absurd hsuffix (hseam after rfl)
  · rw [← List.append_assoc, List.singleton_suffix_append_singleton_iff] at hsuffix
    rw [List.singleton_suffix_append_singleton_iff]
    exact hsuffix

/-- If each line feed follows a `\r`, all line feeds are cut away with the pairs. -/
theorem FeedsFollowReturns.notMem_of_mem_splitCrlf {text piece : List Char}
    (h : FeedsFollowReturns text) (hp : piece ∈ splitCrlf text) : '\n' ∉ piece := by
  fun_induction splitCrlf text generalizing piece with
  | case1 => simp_all
  | case2 rest ih =>
    have hrest : FeedsFollowReturns rest :=
      h.of_append ['\r', '\n'] fun _ _ ↦ by decide
    rcases List.mem_cons.1 hp with rfl | hp
    · simp
    · exact ih hrest hp
  | case3 c rest hc ih =>
    -- a feed at the front of `rest` would follow `c`, and the two would have been cut as a pair
    have hrest : FeedsFollowReturns rest := by
      refine h.of_append [c] fun tail ht hsuffix ↦ hc tail ?_ ht
      simpa [eq_comm] using hsuffix.mem (List.mem_singleton_self _)
    obtain ⟨first, others, hs⟩ := List.exists_cons_of_ne_nil (splitCrlf_ne_nil rest)
    rw [hs] at hp ih
    rcases List.mem_cons.1 hp with rfl | hp
    · have hne : '\n' ≠ c := by
        rintro rfl
        have hnil := h [] rest rfl
        simp at hnil
      have hfirst : '\n' ∉ first := ih hrest List.mem_cons_self
      simp [hne, hfirst]
    · exact ih hrest (List.mem_cons_of_mem _ hp)

/-- A text of which all line feeds are cut away with the pairs has them only there. -/
theorem feedsFollowReturns_of_notMem {text : List Char}
    (h : ∀ piece ∈ splitCrlf text, '\n' ∉ piece) : FeedsFollowReturns text := by
  intro before after htext
  fun_induction splitCrlf text generalizing before with
  | case1 => simp at htext
  | case2 rest ih =>
    rcases before with _ | ⟨first, _ | ⟨second, before⟩⟩
    · simp at htext
    · obtain ⟨rfl, -⟩ : '\r' = first ∧ rest = after := by simpa using htext
      exact List.suffix_refl _
    · obtain ⟨rfl, rfl, hrest⟩ : '\r' = first ∧ '\n' = second ∧ rest = before ++ '\n' :: after := by
        simpa using htext
      have hsuffix := ih (fun piece hp ↦ h piece (List.mem_cons_of_mem _ hp)) before hrest
      exact hsuffix.trans (List.suffix_append ['\r', '\n'] before)
  | case3 c rest _ ih =>
    obtain ⟨first, others, hs⟩ := List.exists_cons_of_ne_nil (splitCrlf_ne_nil rest)
    rw [hs, List.modifyHead_cons, List.forall_mem_cons] at h
    cases before with
    | nil => simp_all
    | cons d before =>
      obtain ⟨rfl, hrest⟩ : c = d ∧ rest = before ++ '\n' :: after := by simpa using htext
      have hpieces : ∀ piece ∈ splitCrlf rest, '\n' ∉ piece := by
        rw [hs, List.forall_mem_cons]
        exact ⟨fun hm ↦ h.1 (List.mem_cons_of_mem _ hm), h.2⟩
      exact (ih hpieces before hrest).trans (List.suffix_cons c before)

/-- Cutting the text decides whether each line feed follows a `\r`. -/
instance (text : List Char) : Decidable (FeedsFollowReturns text) :=
  decidable_of_iff (∀ piece ∈ splitCrlf text, '\n' ∉ piece)
    ⟨feedsFollowReturns_of_notMem, fun h _ hp ↦ h.notMem_of_mem_splitCrlf hp⟩

/-! ### How many pieces there are -/

theorem length_splitLf_le (text : List Char) : (splitLf text).length ≤ text.length + 1 := by
  fun_induction splitLf text with
  | case1 => exact Nat.le_refl 1
  | case2 rest ih => simpa using ih
  | case3 c rest _ ih =>
    rw [List.length_modifyHead, List.length_cons]
    omega

theorem length_splitCrlf_le (text : List Char) : (splitCrlf text).length ≤ text.length + 1 := by
  fun_induction splitCrlf text with
  | case1 => exact Nat.le_refl 1
  | case2 rest ih =>
    simp only [List.length_cons]
    omega
  | case3 c rest _ ih =>
    rw [List.length_modifyHead, List.length_cons]
    omega

/-- A text has at most one line more than it has characters. -/
theorem length_lines_le (ending : LineEnding) (text : String) :
    (ending.lines text).length ≤ text.length + 1 := by
  rw [lines, List.length_map, ← String.length_toList]
  cases ending with
  | crlf => exact length_splitCrlf_le text.toList
  | lf => exact length_splitLf_le text.toList
  | any =>
    rw [split, List.length_map]
    exact length_splitLf_le text.toList

/-! ### Joining and cutting again -/

/-- **A cut with a seam undoes the join.** If cutting treats the two sides of a separator
independently and leaves each of some pieces whole, it gives them back when they are joined. -/
theorem cut_intercalate {cut : List Char → List (List Char)} {sep : List Char}
    (hseam : ∀ before after, cut (before ++ sep ++ after) = cut before ++ cut after)
    {pieces : List (List Char)} (hne : pieces ≠ []) (h : ∀ piece ∈ pieces, cut piece = [piece]) :
    cut (sep.intercalate pieces) = pieces := by
  induction pieces with
  | nil => exact absurd rfl hne
  | cons piece rest ih =>
    have hpiece : cut piece = [piece] := h piece List.mem_cons_self
    by_cases hrest : rest = []
    · rw [hrest, List.intercalate_singleton, hpiece]
    · rw [intercalate_cons_of_ne_nil _ _ hrest, hseam, hpiece,
        ih hrest fun p hp ↦ h p (List.mem_cons_of_mem _ hp)]
      rfl

/-- Cutting at line feeds undoes joining with line feeds. -/
theorem splitLf_intercalate {pieces : List (List Char)} (hne : pieces ≠ [])
    (h : ∀ piece ∈ pieces, '\n' ∉ piece) :
    splitLf (List.intercalate ['\n'] pieces) = pieces := by
  refine cut_intercalate (fun before after ↦ ?_) hne fun piece hp ↦ splitLf_of_notMem (h piece hp)
  rw [List.append_assoc]
  exact splitLf_append_feed before after

/-- Cutting at `\r\n` undoes joining with `\r\n`, also when pieces end in `\r` or begin with
`\n`. -/
theorem splitCrlf_intercalate {pieces : List (List Char)} (hne : pieces ≠ [])
    (h : ∀ piece ∈ pieces, ¬ ['\r', '\n'] <:+: piece) :
    splitCrlf (List.intercalate ['\r', '\n'] pieces) = pieces := by
  refine cut_intercalate (fun before after ↦ ?_) hne fun piece hp ↦
    splitCrlf_of_not_infix (h piece hp)
  rw [List.append_assoc]
  exact splitCrlf_append_returnFeed before after

/-- Joining pieces with the terminator of a line ending and cutting under it gives the pieces back,
but for a `\r` at the end of a piece that `any` drops. -/
theorem split_intercalate (ending : LineEnding) {pieces : List (List Char)} (hne : pieces ≠ [])
    (h : ∀ piece ∈ pieces, '\n' ∉ piece) :
    ending.split (ending.terminator.intercalate pieces) =
      if ending = any then pieces.map dropFinalReturn else pieces := by
  cases ending with
  | crlf =>
    refine splitCrlf_intercalate hne fun piece hp hpair ↦ h piece hp ?_
    exact hpair.subset (by decide)
  | lf => exact splitLf_intercalate hne h
  | any => exact congrArg (List.map dropFinalReturn) (splitLf_intercalate hne h)

/-- Lines that are joined under a line ending are the lines of the text, unless the line ending
drops something from them. -/
theorem lines_intercalate {ending : LineEnding} (hany : ending ≠ any) {lines : List String}
    (hne : lines ≠ []) (h : ∀ line ∈ lines, '\n' ∉ line.toList) :
    ending.lines ((String.ofList ending.terminator).intercalate lines) = lines := by
  have hpieces : ∀ piece ∈ lines.map String.toList, '\n' ∉ piece := List.forall_mem_map.2 h
  rw [LineEnding.lines, String.toList_intercalate, String.toList_ofList,
    split_intercalate ending (by simpa using hne) hpieces, if_neg hany, List.map_map]
  simp [Function.comp_def]

/-- **The terminator of a line ending is a seam.** What is before it may end in `\r`, and what is
after it may begin with `\n`. -/
theorem split_append_terminator (ending : LineEnding) (before after : List Char) :
    ending.split (before ++ ending.terminator ++ after) =
      ending.split before ++ ending.split after := by
  rw [List.append_assoc]
  cases ending with
  | crlf => exact splitCrlf_append_returnFeed before after
  | lf => exact splitLf_append_feed before after
  | any =>
    exact (congrArg (List.map dropFinalReturn) (splitLf_append_feed before after)).trans
      List.map_append

/-- The lines of two texts joined by a terminator are those of the one and then those of the
other. -/
theorem lines_append_terminator (ending : LineEnding) (before after : String) :
    ending.lines (before ++ String.ofList ending.terminator ++ after) =
      ending.lines before ++ ending.lines after := by
  rw [lines, String.toList_append, String.toList_append, String.toList_ofList,
    split_append_terminator, List.map_append, lines, lines]

/-! ### Readings that a final `\r` does not change -/

/-- A reading of a piece that a `\r` at the end of the piece does not change. -/
def ReturnBlind {α : Type*} (read : List Char → α) : Prop :=
  ∀ piece, read (piece ++ ['\r']) = read piece

/-- A piece is unchanged by dropping a final `\r`, or is what is left with the `\r` put back. -/
theorem dropFinalReturn_eq_or (piece : List Char) :
    dropFinalReturn piece = piece ∨ piece = dropFinalReturn piece ++ ['\r'] := by
  fun_induction dropFinalReturn piece with
  | case1 => exact Or.inl rfl
  | case2 => exact Or.inr rfl
  | case3 c rest _ ih =>
    rcases ih with ih | ih
    · exact Or.inl (congrArg (c :: ·) ih)
    · exact Or.inr (congrArg (c :: ·) ih)

/-- What is added to the end of a text, if it holds no line feed, is added to the last piece. -/
theorem exists_splitLf_append (added : List Char) (h : '\n' ∉ added) (text : List Char) :
    ∃ before last, splitLf text = before ++ [last] ∧
      splitLf (text ++ added) = before ++ [last ++ added] := by
  fun_induction splitLf text with
  | case1 => exact ⟨[], [], rfl, splitLf_of_notMem h⟩
  | case2 rest ih =>
    obtain ⟨before, last, hs, hadd⟩ := ih
    exact ⟨[] :: before, last, by rw [hs]; rfl, by rw [List.cons_append, splitLf, hadd]; rfl⟩
  | case3 c rest hc ih =>
    obtain ⟨before, last, hs, hadd⟩ := ih
    have hcut : splitLf (c :: rest ++ added) = (before ++ [last ++ added]).modifyHead (c :: ·) := by
      rw [List.cons_append, splitLf, hadd]
      exact hc
    rw [hs, hcut]
    cases before with
    | nil => exact ⟨[], c :: last, rfl, rfl⟩
    | cons first before => exact ⟨(c :: first) :: before, last, rfl, rfl⟩

namespace ReturnBlind

variable {α : Type*} {read : List Char → α}

/-- Dropping the `\r` at the end of a piece does not change what is read from it. -/
theorem read_dropFinalReturn (h : ReturnBlind read) (piece : List Char) :
    read (dropFinalReturn piece) = read piece := by
  rcases dropFinalReturn_eq_or piece with he | he
  · rw [he]
  · conv_rhs => rw [he]
    exact (h _).symm

/-- What is read from joined pieces after cutting is what is read from the pieces. -/
theorem map_split_intercalate (h : ReturnBlind read) (ending : LineEnding)
    {pieces : List (List Char)} (hne : pieces ≠ []) (hfeed : ∀ piece ∈ pieces, '\n' ∉ piece) :
    (ending.split (ending.terminator.intercalate pieces)).map read = pieces.map read := by
  rw [split_intercalate ending hne hfeed]
  split
  · rw [List.map_map]
    exact List.map_congr_left fun piece _ ↦ h.read_dropFinalReturn piece
  · rfl

/-- A `\r` at the end of a text does not change what is read from its pieces. -/
theorem map_splitLf_append_return (h : ReturnBlind read) (text : List Char) :
    (splitLf (text ++ ['\r'])).map read = (splitLf text).map read := by
  obtain ⟨before, last, hs, hadd⟩ := exists_splitLf_append ['\r'] (by decide) text
  rw [hs, hadd, List.map_append, List.map_append, List.map_singleton, List.map_singleton, h]

/-- What is read from pieces joined by `\r\n` and cut at line feeds is what is read from each
piece cut at line feeds: the `\r` of each terminator ends a segment and goes unnoticed. -/
theorem map_splitLf_intercalate (h : ReturnBlind read) {pieces : List (List Char)}
    (hne : pieces ≠ []) :
    (splitLf (List.intercalate ['\r', '\n'] pieces)).map read =
      (pieces.flatMap splitLf).map read := by
  induction pieces with
  | nil => exact absurd rfl hne
  | cons piece rest ih =>
    by_cases hrest : rest = []
    · simp [hrest]
    · have hseam : List.intercalate ['\r', '\n'] (piece :: rest) =
          (piece ++ ['\r']) ++ '\n' :: List.intercalate ['\r', '\n'] rest := by
        simp [intercalate_cons_of_ne_nil _ _ hrest]
      rw [hseam, splitLf_append_feed, List.map_append, h.map_splitLf_append_return, ih hrest,
        List.flatMap_cons, List.map_append]

/-- **The segments of the `\r\n` pieces are the pieces between line feeds**, for every text and
every reading that a final `\r` does not change. -/
theorem map_splitLf_eq_flatMap (h : ReturnBlind read) (text : List Char) :
    (splitLf text).map read = ((splitCrlf text).flatMap splitLf).map read := by
  conv_lhs => rw [← intercalate_splitCrlf text]
  exact h.map_splitLf_intercalate (splitCrlf_ne_nil text)

/-- If each line feed follows a `\r`, the `\r\n` pieces read like the pieces between line
feeds. -/
theorem map_splitCrlf_eq_map_splitLf (h : ReturnBlind read) {text : List Char}
    (hfeeds : FeedsFollowReturns text) : (splitCrlf text).map read = (splitLf text).map read := by
  have hpieces : (splitCrlf text).flatMap splitLf = splitCrlf text := by
    have hsingle : ∀ piece ∈ splitCrlf text, splitLf piece = [piece] := fun piece hp ↦
      splitLf_of_notMem (hfeeds.notMem_of_mem_splitCrlf hp)
    rw [List.flatMap_congr hsingle]
    exact List.flatMap_singleton' _
  rw [h.map_splitLf_eq_flatMap, hpieces]

end ReturnBlind

end AlignmentTally.LineEnding
