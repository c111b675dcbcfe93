import AlignmentTally.Command.Options
import AlignmentTally.Regex.Reader

/-!
# Expressions on the command line

Each argument is a number, a text or an operator. Operators that bind more tightly come first:
a match, then products, sums, comparisons, `&` and `|`. What is not wanted of `&` and `|` is read
but not computed.
-/

namespace AlignmentTally.Command

open Machine

namespace Expression

/-- The exit status of an expression that cannot be read or computed. -/
def invalid : Nat := 2

/-- Whether a text writes an integer. -/
def integer? (text : Text) : Option Int :=
  match text with
  | '+' :: _ => none
  | text => Text.toInt? text

/-- Whether a value counts as false: it is empty or zero. -/
def isNull (value : Text) : Bool :=
  value.isEmpty || (integer? value = some 0)

/-- The value of a number. -/
def ofInt (n : Int) : Text := Text.ofInt n

/-- Ends with a complaint about the expression. -/
def wrong {α : Type} (words : Text) : Work α := Work.fail ("syntax error: " ++ words) invalid

/-- Matches the start of a text: the first group, or the length of the fit. -/
def matchStart (text pattern : Text) : Work Text := do
  match Regex.read { extended := false } pattern with
  | .error fault => Work.fail fault.words invalid
  | .ok (regex, groups) =>
    let fit? := (regex.fitAt? {} ⟨0, none, text⟩).map fun e ↦
      (⟨⟨0, none, text⟩, e.place, e.groups⟩ : Regex.Fit)
    if groups = 0 then return Text.ofNat ((fit?.map (·.text.length)).getD 0)
    else return (fit?.map (·.group 1)).getD []

/-- The first place, from one on, of a character of a set; zero if there is none. -/
def indexOf (text set : Text) : Nat :=
  match text.findIdx? set.contains with
  | some n => n + 1
  | none => 0

/-- A part of a text: from a place, and so many characters. -/
def part (text place length : Text) : Text :=
  match integer? place, integer? length with
  | some place, some length =>
    if place ≤ 0 ∨ length ≤ 0 then [] else (text.drop (place.toNat - 1)).take length.toNat
  | _, _ => []

/-- The levels of operators, the loosest ones first. -/
def levels : List (List String) :=
  [["|"], ["&"], ["<", "<=", "=", "==", "!=", ">=", ">"], ["+", "-"], ["*", "/", "%"], [":"]]

/-- Computes an operator on two values. -/
def compute (operator : String) (a b : Text) : Work Text := do
  let compare (numbers : Int → Int → Bool) (order : Ordering → Bool) : Text :=
    let holds :=
      match integer? a, integer? b with
      | some a, some b => numbers a b
      | _, _ => order (if a = b then .eq else if Text.before a b then .lt else .gt)
    if holds then ['1'] else ['0']
  let arithmetic (f : Int → Int → Int) : Work Text :=
    match integer? a, integer? b with
    | some a, some b => return ofInt (f a b)
    | _, _ => Work.fail "non-integer argument" invalid
  let divide (f : Int → Int → Int) : Work Text := do
    if (integer? a).isSome ∧ integer? b = some 0 then Work.fail "division by zero" invalid
    arithmetic f
  match operator with
  | "|" => return if isNull a then if isNull b then ['0'] else b else a
  | "&" => return if isNull a ∨ isNull b then ['0'] else a
  | "<" => return compare (· < ·) (· == .lt)
  | "<=" => return compare (· ≤ ·) (· != .gt)
  | "=" | "==" => return compare (· = ·) (· == .eq)
  | "!=" => return compare (· ≠ ·) (· != .eq)
  | ">=" => return compare (· ≥ ·) (· != .lt)
  | ">" => return compare (· > ·) (· == .gt)
  | "+" => arithmetic (· + ·)
  | "-" => arithmetic (· - ·)
  | "*" => arithmetic (· * ·)
  | "/" => divide Int.tdiv
  | "%" => divide Int.tmod
  | _ => matchStart a b

/-- The arguments that are left, and the one before them. -/
structure Reading where
  /-- The arguments that are left. -/
  rest : List Text
  /-- The argument before them. -/
  before : Text

/-- The next argument, which must be there. -/
def next (reading : Reading) : Work (Text × Reading) :=
  match reading.rest with
  | [] => wrong ("missing argument after " ++ Quoted.word reading.before)
  | argument :: rest => return (argument, ⟨rest, argument⟩)

mutual

/-- Reads an expression whose operators are of some levels. -/
def readLevel (wanted : Bool) : Nat → List (List String) → Reading → Work (Text × Reading)
  | 0, _, reading => return ([], reading)
  | rounds + 1, [], reading => readFunction wanted rounds reading
  | rounds + 1, operators :: tighter, reading => do
    let (value, reading) ← readLevel wanted rounds tighter reading
    readMore wanted rounds operators tighter value reading

/-- Reads operators of one level with what follows them. -/
def readMore (wanted : Bool) :
    Nat → List String → List (List String) → Text → Reading → Work (Text × Reading)
  | 0, _, _, value, reading => return (value, reading)
  | rounds + 1, operators, tighter, value, reading => do
    match reading.rest with
    | [] => return (value, reading)
    | operator :: rest =>
      let operator := String.ofList operator
      if ¬ operators.contains operator then return (value, reading)
      let isWanted := wanted &&
        (if operator = "|" then isNull value else if operator = "&" then !isNull value else true)
      let (other, reading) ← readLevel isWanted rounds tighter ⟨rest, operator.toList⟩
      let value ←
        if wanted then compute operator value (if isWanted then other else []) else pure []
      readMore wanted rounds operators tighter value reading

/-- Reads a function with its operands, or a single operand. -/
def readFunction (wanted : Bool) : Nat → Reading → Work (Text × Reading)
  | 0, reading => return ([], reading)
  | rounds + 1, reading => do
    let (word, after) ← next reading
    match String.ofList word with
    | "+" => next after
    | "length" =>
      let (text, reading) ← readFunction wanted rounds after
      return (Text.ofNat text.length, reading)
    | "match" =>
      let (text, reading) ← readFunction wanted rounds after
      let (pattern, reading) ← readFunction wanted rounds reading
      let value ← if wanted then matchStart text pattern else pure []
      return (value, reading)
    | "index" =>
      let (text, reading) ← readFunction wanted rounds after
      let (set, reading) ← readFunction wanted rounds reading
      return (Text.ofNat (indexOf text set), reading)
    | "substr" =>
      let (text, reading) ← readFunction wanted rounds after
      let (place, reading) ← readFunction wanted rounds reading
      let (length, reading) ← readFunction wanted rounds reading
      return (part text place length, reading)
    | "(" =>
      let (value, reading) ← readLevel wanted rounds levels after
      match reading.rest with
      | [] => wrong ("expecting ')' after " ++ Quoted.word reading.before)
      | [')'] :: rest => return (value, ⟨rest, [')']⟩)
      | other :: _ => wrong ("expecting ')' instead of " ++ Quoted.word other)
    | ")" => wrong "unexpected ')'"
    | _ => return (word, after)

end

/-- Computes an expression. -/
def expr (arguments : List Text) : Work Unit := do
  let arguments := if arguments.head? = some ['-', '-'] then arguments.drop 1 else arguments
  if arguments.isEmpty then Work.misuse "missing operand" invalid
  let rounds := 16 * (arguments.length + 1)
  let (value, reading) ← readLevel true rounds levels ⟨arguments, []⟩
  match reading.rest with
  | extra :: _ => wrong ("unexpected argument " ++ Quoted.word extra)
  | [] =>
    Work.putLine value
    Work.setStatus (if isNull value then 1 else 0)

end Expression

end AlignmentTally.Command
