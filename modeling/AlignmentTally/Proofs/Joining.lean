import AlignmentTally.Proofs.Lines
import Mathlib.Data.List.Forall2

/-!
# Lines are the one way to cut a text

Under `crlf` and `lf` the lines of a text are the only pieces, at least one, that hold no
terminator and join to the text again (`LineEnding.lines_eq_iff`). `LineEnding.IsCut` says this
without a word on how the text is gone through.

## What it rests on

* Joining undoes cutting because cutting loses nothing (`LineEnding.intercalate_split`).
* Cutting undoes joining because a terminator is a seam, and pieces without a terminator are not cut
  further (`LineEnding.split_intercalate_of_not_infix`).
* There is one line more than there are terminators (`LineEnding.length_split_eq`). Terminators are
  counted as occurrences in the text, which may overlap for an arbitrary word; that those of `\r\n`
  do not is part of the induction.

Under `any` the lines are those of `lf`, each without the `\r` at its end if it has one
(`LineEnding.forall₂_lines_lf_any`). So cutting loses something, and there is no such inverse.

## From line feeds to `\r\n`

Putting a `\r` before each line feed turns the cut at line feeds into the cut at `\r\n`
(`LineEnding.splitCrlf_flatMap_feedPair`). A `\r` that stood before a line feed already is then
the end of its piece, and no part of the terminator.
-/

namespace AlignmentTally.LineEnding

/-! ### Pieces that hold no terminator -/

theorem infix_terminator_lf_iff {piece : List Char} : lf.terminator <:+: piece ↔ '\n' ∈ piece := by
  constructor
  · intro h
    exact h.subset (List.mem_singleton_self _)
  · intro h
    obtain ⟨before, after, rfl⟩ := List.append_of_mem h
    exact ⟨before, after, by simp [terminator]⟩

/-- No piece of a cut holds the terminator. -/
theorem not_infix_of_mem_split {ending : LineEnding} {text piece : List Char}
    (h : piece ∈ ending.split text) : ¬ ending.terminator <:+: piece := by
  cases ending with
  | crlf => exact not_infix_of_mem_splitCrlf h
  | lf => exact fun hin ↦ notMem_of_mem_splitLf h (infix_terminator_lf_iff.1 hin)
  | any =>
    obtain ⟨whole, hwhole, rfl⟩ := List.mem_map.1 h
    intro hin
    refine notMem_of_mem_splitLf hwhole ?_
    -- what `any` leaves of a piece is a part of it
    have hfeed : '\n' ∈ dropFinalReturn whole := infix_terminator_lf_iff.1 hin
    rcases dropFinalReturn_eq_or whole with he | he
    · exact he ▸ hfeed
    · rw [he]
      exact List.mem_append_left _ hfeed

/-- Joining the pieces gives the text back, unless the line ending drops something from them. -/
theorem intercalate_split {ending : LineEnding} (hany : ending ≠ any) (text : List Char) :
    ending.terminator.intercalate (ending.split text) = text := by
  cases ending with
  | crlf => exact intercalate_splitCrlf text
  | lf => exact intercalate_splitLf text
  | any => exact absurd rfl hany

/-- Cutting gives joined pieces back that hold no terminator, unless the line ending drops
something from them. -/
theorem split_intercalate_of_not_infix {ending : LineEnding} (hany : ending ≠ any)
    {pieces : List (List Char)} (hne : pieces ≠ [])
    (h : ∀ piece ∈ pieces, ¬ ending.terminator <:+: piece) :
    ending.split (ending.terminator.intercalate pieces) = pieces := by
  cases ending with
  | crlf => exact splitCrlf_intercalate hne h
  | lf =>
    exact splitLf_intercalate hne fun piece hp hfeed ↦
      h piece hp (infix_terminator_lf_iff.2 hfeed)
  | any => exact absurd rfl hany

/-- Some pieces are a text cut at the terminator of a line ending. -/
structure IsCut (ending : LineEnding) (text : String) (pieces : List String) : Prop where
  /-- There is a piece. -/
  ne_nil : pieces ≠ []
  /-- The terminator stands in none of them. -/
  free : ∀ piece ∈ pieces, ¬ ending.terminator <:+: piece.toList
  /-- Joined by the terminator they are the text. -/
  join : (String.ofList ending.terminator).intercalate pieces = text

theorem toList_join (ending : LineEnding) (pieces : List String) :
    ((String.ofList ending.terminator).intercalate pieces).toList =
      ending.terminator.intercalate (pieces.map String.toList) := by
  rw [String.toList_intercalate, String.toList_ofList]

theorem map_toList_lines (ending : LineEnding) (text : String) :
    (ending.lines text).map String.toList = ending.split text.toList := by
  simp [lines, Function.comp_def]

/-- The lines of a text are its one cut. -/
theorem lines_eq_iff {ending : LineEnding} (hany : ending ≠ any) {text : String}
    {pieces : List String} : ending.lines text = pieces ↔ ending.IsCut text pieces := by
  constructor
  · rintro rfl
    refine ⟨by simp [lines, split_ne_nil], fun piece hp ↦ ?_, ?_⟩
    · exact not_infix_of_mem_split (map_toList_lines ending text ▸ List.mem_map_of_mem hp)
    · rw [← String.toList_inj, toList_join, map_toList_lines, intercalate_split hany]
  · rintro ⟨hne, hfree, rfl⟩
    rw [lines, toList_join, split_intercalate_of_not_infix hany (by simpa using hne)
      (List.forall_mem_map.2 hfree), List.map_map]
    simp [Function.comp_def]

/-! ### Counting terminators -/

/-- The number of places at which a word stands in a text. -/
def occurrences (word text : List Char) : Nat := text.tails.countP word.isPrefixOf

theorem occurrences_cons (word : List Char) (c : Char) (rest : List Char) :
    occurrences word (c :: rest) =
      occurrences word rest + if word.isPrefixOf (c :: rest) then 1 else 0 := by
  rw [occurrences, List.tails, List.countP_cons, occurrences]

theorem length_splitLf_eq (text : List Char) :
    (splitLf text).length = occurrences ['\n'] text + 1 := by
  fun_induction splitLf text with
  | case1 => rfl
  | case2 rest ih => simp [occurrences_cons, ih]
  | case3 c rest hc ih =>
    have hne : ¬ '\n' = c := fun he ↦ hc he.symm
    simp [occurrences_cons, ih, hne]

theorem length_splitCrlf_eq (text : List Char) :
    (splitCrlf text).length = occurrences ['\r', '\n'] text + 1 := by
  fun_induction splitCrlf text with
  | case1 => rfl
  | case2 rest ih => simp [occurrences_cons, ih]
  | case3 c rest hc ih =>
    -- `c` opens no pair, so no terminator stands at the front
    have hfront : ¬ ['\r', '\n'].isPrefixOf (c :: rest) := by
      rw [List.isPrefixOf_iff_prefix]
      rintro ⟨tail, ht⟩
      obtain ⟨rfl, rfl⟩ : '\r' = c ∧ '\n' :: tail = rest := by simpa using ht
      exact hc tail rfl rfl
    rw [List.length_modifyHead, ih, occurrences_cons, if_neg hfront]

/-- There is one piece more than there are terminators. -/
theorem length_split_eq (ending : LineEnding) (text : List Char) :
    (ending.split text).length = occurrences ending.terminator text + 1 := by
  cases ending with
  | crlf => exact length_splitCrlf_eq text
  | lf => exact length_splitLf_eq text
  | any => exact (List.length_map _).trans (length_splitLf_eq text)

/-! ### Dropping a final return -/

/-- The one `\r` that a piece ends in is dropped. -/
theorem dropFinalReturn_concat (piece : List Char) : dropFinalReturn (piece ++ ['\r']) = piece := by
  induction piece with
  | nil => rfl
  | cons c rest ih =>
    rw [List.cons_append, dropFinalReturn, ih]
    simp

/-- A line is without the `\r` that another one ends in, or the same if that ends in none. -/
def WithoutReturn (line stripped : String) : Prop :=
  line = stripped ++ "\r" ∨ line = stripped ∧ ¬ ['\r'] <:+ line.toList

theorem withoutReturn_dropFinalReturn (piece : List Char) :
    WithoutReturn (String.ofList piece) (String.ofList (dropFinalReturn piece)) := by
  by_cases hreturn : ['\r'] <:+ piece
  · obtain ⟨stripped, rfl⟩ := hreturn
    left
    rw [dropFinalReturn_concat, String.ofList_append]
  · right
    rcases dropFinalReturn_eq_or piece with he | he
    · exact ⟨by rw [he], by rwa [String.toList_ofList]⟩
    · exact absurd ⟨_, he.symm⟩ hreturn

/-- The lines under `any` are those under `lf`, each without its final `\r`. -/
theorem forall₂_lines_lf_any (text : String) :
    List.Forall₂ WithoutReturn (lf.lines text) (any.lines text) := by
  rw [lines, lines, split, split, List.map_map, List.forall₂_map_left_iff,
    List.forall₂_map_right_iff, List.forall₂_same]
  exact fun piece _ ↦ withoutReturn_dropFinalReturn piece

/-! ### Putting returns before feeds -/

/-- A character, a line feed with a `\r` before it. -/
def feedPair (c : Char) : List Char := if c = '\n' then ['\r', '\n'] else [c]

/-- Cutting at `\r\n` after a `\r` was put before each line feed is cutting at line feeds. -/
theorem splitCrlf_flatMap_feedPair (text : List Char) :
    splitCrlf (text.flatMap feedPair) = splitLf text := by
  fun_induction splitLf text with
  | case1 => rfl
  | case2 rest ih => simp [feedPair, splitCrlf, ih]
  | case3 c rest hc ih =>
    have hsingle : feedPair c = [c] := if_neg hc
    -- what follows `c` begins with no line feed, since each of them has its `\r` before it
    have hpair : ∀ tail, c = '\r' → rest.flatMap feedPair = '\n' :: tail → False := by
      rintro tail rfl ht
      rcases rest with _ | ⟨d, rest⟩
      · simp at ht
      · by_cases hd : d = '\n' <;> simp_all [feedPair]
    rw [List.flatMap_cons, hsingle, List.singleton_append, splitCrlf, ih]
    exact hpair

/-- A text with a `\r` put before each line feed. -/
def feedsToPairs (text : String) : String := String.ofList (text.toList.flatMap feedPair)

/-! ### All of it -/

/-- **Cutting into lines is the exact inverse of joining.** Under `crlf` and `lf` the lines of a
text are its one cut. There is one line more than there are terminators, under `any` counted as
under `lf`, of whose lines it drops the final `\r`. A text with a `\r` put before each line feed has
the lines under `crlf` that the text has under `lf`. -/
theorem lines_inverse_of_join (text : String) :
    (∀ pieces, crlf.lines text = pieces ↔ crlf.IsCut text pieces) ∧
      (∀ pieces, lf.lines text = pieces ↔ lf.IsCut text pieces) ∧
      (∀ line ∈ any.lines text, '\n' ∉ line.toList) ∧
      (∀ ending : LineEnding,
        (ending.lines text).length = occurrences ending.terminator text.toList + 1) ∧
      List.Forall₂ WithoutReturn (lf.lines text) (any.lines text) ∧
      crlf.lines (feedsToPairs text) = lf.lines text := by
  refine ⟨fun _ ↦ lines_eq_iff (by decide), fun _ ↦ lines_eq_iff (by decide), ?_, ?_,
    forall₂_lines_lf_any text, ?_⟩
  · intro line hline hfeed
    have hpiece : line.toList ∈ any.split text.toList :=
      map_toList_lines any text ▸ List.mem_map_of_mem hline
    exact not_infix_of_mem_split hpiece (infix_terminator_lf_iff.2 hfeed)
  · intro ending
    rw [lines, List.length_map, length_split_eq]
  · rw [lines, feedsToPairs, String.toList_ofList, split, splitCrlf_flatMap_feedPair]
    rfl

end AlignmentTally.LineEnding
