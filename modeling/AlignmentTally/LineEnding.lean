/-!
# Line endings

Captured console output is cut into lines under one of three rules. Cutting never loses a
character: under `crlf` and `lf` the pieces joined by the terminator are the text again
(`intercalate_splitCrlf`, `intercalate_splitLf`), and a text always has at least one piece,
since what follows the last terminator is a piece even when it is empty.
-/

namespace AlignmentTally

/-- How captured output is cut into lines. -/
inductive LineEnding where
  /-- Cut at `\r\n` only. -/
  | crlf
  /-- Cut at `\n` only. -/
  | lf
  /-- Cut at `\n`, and drop one `\r` from the end of each piece. -/
  | any
  deriving DecidableEq, Repr, Inhabited

namespace LineEnding

/-- The pieces of a text between its line feeds. -/
def splitLf : List Char → List (List Char)
  | [] => [[]]
  | '\n' :: rest => [] :: splitLf rest
  | c :: rest => (splitLf rest).modifyHead (c :: ·)

/-- The pieces of a text between its `\r\n` pairs; a lone `\r` or `\n` stays inside its piece. -/
def splitCrlf : List Char → List (List Char)
  | [] => [[]]
  | '\r' :: '\n' :: rest => [] :: splitCrlf rest
  | c :: rest => (splitCrlf rest).modifyHead (c :: ·)

/-- A piece without the `\r` at its end, if it has one. -/
def dropFinalReturn : List Char → List Char
  | [] => []
  | ['\r'] => []
  | c :: rest => c :: dropFinalReturn rest

/-- The pieces of a text under a line ending. -/
def split : LineEnding → List Char → List (List Char)
  | crlf, text => splitCrlf text
  | lf, text => splitLf text
  | any, text => (splitLf text).map dropFinalReturn

/-- The characters between two lines when lines are joined under a line ending. -/
def terminator : LineEnding → List Char
  | crlf => ['\r', '\n']
  | lf => ['\n']
  | any => ['\n']

/-- The lines of a text under a line ending. -/
def lines (ending : LineEnding) (text : String) : List String :=
  (ending.split text.toList).map String.ofList

/-- The word that names a line ending on the command line and in the settings file. -/
def word : LineEnding → String
  | crlf => "crlf"
  | lf => "lf"
  | any => "any"

/-- The line ending that a word names. Words are told apart by case. -/
def ofWord? : String → Option LineEnding
  | "crlf" => some crlf
  | "lf" => some lf
  | "any" => some any
  | _ => none

@[simp] theorem ofWord?_word (ending : LineEnding) : ofWord? ending.word = some ending := by
  cases ending <;> rfl

/-! ### Pieces -/

theorem splitLf_ne_nil (text : List Char) : splitLf text ≠ [] := by
  fun_induction splitLf text with
  | case1 => simp
  | case2 => simp
  | case3 c rest _ ih => simpa using ih

theorem splitCrlf_ne_nil (text : List Char) : splitCrlf text ≠ [] := by
  fun_induction splitCrlf text with
  | case1 => simp
  | case2 => simp
  | case3 c rest _ ih => simpa using ih

theorem split_ne_nil (ending : LineEnding) (text : List Char) : ending.split text ≠ [] := by
  cases ending <;> simp [split, splitLf_ne_nil, splitCrlf_ne_nil]

/-- A character put in front of the first piece is in front of the joined text. -/
theorem intercalate_modifyHead_cons (sep : List Char) (c : Char) :
    ∀ {pieces : List (List Char)}, pieces ≠ [] →
      sep.intercalate (pieces.modifyHead (c :: ·)) = c :: sep.intercalate pieces
  | [], h => absurd rfl h
  | [_], _ => by simp [List.intercalate]
  | _ :: _ :: _, _ => by simp [List.intercalate]

theorem intercalate_cons_of_ne_nil (sep piece : List Char) :
    ∀ {pieces : List (List Char)}, pieces ≠ [] →
      sep.intercalate (piece :: pieces) = piece ++ sep ++ sep.intercalate pieces
  | [], h => absurd rfl h
  | _ :: _, _ => by simp [List.intercalate]

/-- Joining the pieces with line feeds gives the text back. -/
theorem intercalate_splitLf (text : List Char) :
    List.intercalate ['\n'] (splitLf text) = text := by
  fun_induction splitLf text with
  | case1 => simp [List.intercalate]
  | case2 rest ih => simp [intercalate_cons_of_ne_nil _ _ (splitLf_ne_nil rest), ih]
  | case3 c rest _ ih => rw [intercalate_modifyHead_cons _ _ (splitLf_ne_nil rest), ih]

/-- Joining the pieces with `\r\n` gives the text back. -/
theorem intercalate_splitCrlf (text : List Char) :
    List.intercalate ['\r', '\n'] (splitCrlf text) = text := by
  fun_induction splitCrlf text with
  | case1 => simp [List.intercalate]
  | case2 rest ih => simp [intercalate_cons_of_ne_nil _ _ (splitCrlf_ne_nil rest), ih]
  | case3 c rest _ ih => rw [intercalate_modifyHead_cons _ _ (splitCrlf_ne_nil rest), ih]

end LineEnding

end AlignmentTally
