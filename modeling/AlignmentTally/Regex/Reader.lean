import AlignmentTally.Regex.Basic

/-!
# Reading regular expressions

There are two notations. In the basic one, parentheses, braces, bars, plus and question marks are
characters like others unless a backslash stands in front of them; in the extended one it is the
other way round. Stars, points, brackets, carets and dollar signs are the same in both.
-/

namespace AlignmentTally.Regex

open Machine

/-- A way of writing expressions. -/
structure Style where
  /-- Whether signs have their meaning without a backslash. -/
  extended : Bool
  /-- Whether a sign of repetition that has nothing in front of it is an error. -/
  strict : Bool := false
  /-- Whether a parenthesis that closes nothing stands for itself. -/
  laxClose : Bool := false
  /-- Whether backslashes stand for the same within brackets as outside. -/
  escapesInBrackets : Bool := false
  /-- Whether a brace that begins no count stands for itself. -/
  laxBraces : Bool := false
  /-- Whether braces count repetitions. -/
  hasCounts : Bool := true
  /-- Whether the name of a class in single brackets is an error. -/
  refusesBareClass : Bool := false
  /-- Whether a backslash gives words and groups a meaning. -/
  hasWords : Bool := true
  /-- Whether a backslash gives digits and some blanks a meaning. -/
  hasDigits : Bool := false
  /-- The signs that have their meaning without a backslash whatever the others do. -/
  bare : List Char := []

/-- Why an expression cannot be read. -/
inductive Fault where
  | unmatchedOpen
  | unmatchedClose
  | unmatchedBracket
  | unmatchedBrace
  | invalidCount
  | invalidRange
  | invalidClass
  | bareClass
  | nothingToRepeat
  | trailingBackslash
  | invalidGroup
  | tooBig
  | invalid
  deriving DecidableEq, Repr

/-- What is wrong, in words. -/
def Fault.words : Fault → String
  | unmatchedOpen => "Unmatched ( or \\("
  | unmatchedClose => "Unmatched ) or \\)"
  | unmatchedBracket => "Unmatched [, [^, [:, [., or [="
  | unmatchedBrace => "Unmatched \\\x7b"
  | invalidCount => "Invalid content of \\\x7b\\\x7d"
  | invalidRange => "Invalid range end"
  | invalidClass => "Invalid character class name"
  | bareClass => "character class syntax is [[:space:]], not [:space:]"
  | nothingToRepeat => "Invalid preceding regular expression"
  | trailingBackslash => "Trailing backslash"
  | invalidGroup => "Invalid back reference"
  | tooBig => "Regular expression too big"
  | invalid => "Invalid regular expression"

/-- The most repetitions that can be asked for. -/
def maxCount : Nat := 32767

/-- A character that stands for itself. -/
def char (c : Char) : Regex := .among true [.range c c]

/-- Any character. -/
def any : Regex := .among false []

/-- A sign of an expression. -/
inductive Sign where
  /-- A character. -/
  | plain (c : Char)
  /-- Any character. -/
  | any
  /-- An expression that is written as an escape. -/
  | escaped (regex : Regex)
  /-- The start of a group. -/
  | open_
  /-- The end of a group. -/
  | close
  /-- Something else may follow instead. -/
  | bar
  /-- A number of repetitions. -/
  | repeat_ (least : Nat) (most : Option Nat)
  /-- Repetitions that are counted in braces. -/
  | brace
  /-- The start of brackets. -/
  | bracket
  /-- The start of a line. -/
  | caret
  /-- The end of a line. -/
  | dollar
  deriving Repr

/-- The names of classes. -/
def classNames : List String :=
  ["alpha", "digit", "alnum", "upper", "lower", "space", "blank", "punct", "cntrl", "print",
    "graph", "xdigit"]

/-- The sets of the characters of words. -/
def wordSets : List CharSet := [.named "alnum".toList, .range '_' '_']

/-- What a character stands for after a backslash where digits have a letter. -/
def digitEscape? (c : Char) : Option Regex :=
  match c with
  | 'd' => some (.among true [.range '0' '9'])
  | 'D' => some (.among false [.range '0' '9'])
  | 'h' => some (.among true [.named "blank".toList])
  | 't' => some (char '\t')
  | 'n' => some (char '\n')
  | 'r' => some (char '\r')
  | _ => none

/-- The expression that a character stands for after a backslash. -/
def escape? (style : Style) (c : Char) : Option Regex :=
  if style.hasDigits ∧ (digitEscape? c).isSome then digitEscape? c
  else if ¬ style.hasWords then none
  else
    match c with
    | 'w' => some (.among true wordSets)
    | 'W' => some (.among false wordSets)
    | 's' => some (.among true [.named "space".toList])
    | 'S' => some (.among false [.named "space".toList])
    | '<' => some .wordStart
    | '>' => some .wordEnd
    | 'b' => some (.wordEdge true)
    | 'B' => some (.wordEdge false)
    | '\x60' => some .textStart
    | '\'' => some .textEnd
    | c => if '1' ≤ c ∧ c ≤ '9' then some (.again (c.toNat - '0'.toNat)) else none

/-- The sign at the start of a text, and what follows it. -/
def readSign (style : Style) (text : Text) : Except Fault (Option (Sign × Text)) :=
  let sign? (c : Char) : Option Sign :=
    match c with
    | '(' => some .open_
    | ')' => some .close
    | '|' => some .bar
    | '+' => some (.repeat_ 1 none)
    | '?' => some (.repeat_ 0 (some 1))
    | '{' => if style.hasCounts then some .brace else none
    | _ => none
  match text with
  | [] => .ok none
  | ['\\'] => .error .trailingBackslash
  | '\\' :: c :: rest =>
    let sign :=
      match escape? style c with
      | some regex => .escaped regex
      | none =>
        ((sign? c).filter fun _ ↦ !style.extended && !style.bare.contains c).getD (.plain c)
    .ok (some (sign, rest))
  | c :: rest =>
    let sign :=
      match c with
      | '*' => .repeat_ 0 none
      | '.' => .any
      | '[' => .bracket
      | '^' => .caret
      | '$' => .dollar
      | c => ((sign? c).filter fun _ ↦ style.extended || style.bare.contains c).getD (.plain c)
    .ok (some (sign, rest))

/-! ### Brackets -/

/-- One character of brackets, and what follows it. -/
def readMember (style : Style) (text : Text) : Except Fault (Char × Text) :=
  match text with
  | [] => .error .unmatchedBracket
  | '[' :: mark :: c :: mark' :: ']' :: rest =>
    if mark = mark' ∧ (mark = '.' ∨ mark = '=') then .ok (c, rest)
    else .ok ('[', mark :: c :: mark' :: ']' :: rest)
  | '\\' :: c :: rest => if style.escapesInBrackets then .ok (c, rest) else .ok ('\\', c :: rest)
  | c :: rest => .ok (c, rest)

/-- The sets of brackets up to their end, and what follows it. -/
def readMembers (style : Style) (isFirst : Bool) :
    Nat → Text → Except Fault (List CharSet × Text)
  | 0, _ => .error .unmatchedBracket
  | rounds + 1, text => do
    match text with
    | ']' :: rest =>
      if ¬ isFirst then return ([], rest)
    | '[' :: ':' :: rest =>
      let name := rest.takeWhile Char.isAlpha
      if let ':' :: ']' :: rest := rest.drop name.length then
        if ¬ classNames.contains (String.ofList name) then throw .invalidClass
        let (sets, rest) ← readMembers style false rounds rest
        return (.named name :: sets, rest)
    | _ => pure ()
    let (low, rest) ← readMember style text
    match rest with
    | '-' :: ']' :: _ =>
      let (sets, rest) ← readMembers style false rounds rest
      return (.range low low :: sets, rest)
    | '-' :: rest =>
      let (high, rest) ← readMember style rest
      if high < low then throw .invalidRange
      let (sets, rest) ← readMembers style false rounds rest
      return (.range low high :: sets, rest)
    | rest =>
      let (sets, rest) ← readMembers style false rounds rest
      return (.range low low :: sets, rest)

/-- Whether brackets, after their start, hold nothing but the name of a class between colons. -/
def isBareClass (text : Text) : Bool :=
  match text with
  | ':' :: rest =>
    let name := rest.takeWhile fun c ↦ c ≠ ':' && c ≠ ']' && c ≠ '[' && c ≠ '-'
    !name.isEmpty && (rest.drop name.length).take 2 = [':', ']']
  | _ => false

/-- The expression that brackets are, after their start, and what follows them. -/
def readBrackets (style : Style) (text : Text) : Except Fault (Regex × Text) := do
  let (inside, text) : Bool × Text :=
    match text with
    | '^' :: rest => (false, rest)
    | text => (true, text)
  if text.isEmpty then throw .invalid
  if style.refusesBareClass ∧ isBareClass text then throw .bareClass
  let (sets, rest) ← readMembers style true (text.length + 1) text
  return (.among inside sets, rest)

/-! ### Repetitions -/

/-- The numbers of repetitions in braces, after their start, and what follows them. -/
def readCounts (style : Style) (text : Text) :
    Except Fault (Nat × Option Nat × Text) := do
  let number (text : Text) : Option Nat × Text :=
    let digits := text.takeWhile Char.isDigit
    (Text.toNat? digits, text.drop digits.length)
  let (least, rest) := number text
  let (most, rest) : Option (Option Nat) × Text :=
    match rest with
    | ',' :: rest => ((number rest).map some id)
    | rest => (none, rest)
  let finish (rest : Text) : Except Fault (Nat × Option Nat × Text) := do
    if least.isNone ∧ most.isNone then throw .invalidCount
    let low := least.getD 0
    let high := most.getD (some low)
    if high.any (· < low) then throw .invalidCount
    if maxCount < (high.getD low) then throw .tooBig
    return (low, high, rest)
  match rest, style.extended with
  | '}' :: rest, true => finish rest
  | '\\' :: '}' :: rest, false => finish rest
  | [], _ => throw .unmatchedBrace
  | _, _ => throw .invalidCount

/-- Whether an open brace stands for itself in the extended notation, in view of what follows it:
it is followed by no count. -/
def Style.isOrdinary (style : Style) (rest : Text) : Bool :=
  let after := rest.dropWhile fun c ↦ c.isDigit || c = ','
  style.extended && style.laxBraces && after.head? ≠ some '}'

/-! ### The whole expression -/

/-- What was read up to a place. -/
structure Reading where
  /-- What is left. -/
  rest : Text
  /-- The number of groups that were begun. -/
  groups : Nat := 0
  /-- The numbers of the groups that were ended. -/
  ended : List Nat := []
  /-- The signs of repetition that had nothing to repeat, the last one first. -/
  idle : List Char := []

/-- Reads with a state and may fail. -/
abbrev Read := StateT Reading (Except Fault)

/-- Looks at the next sign: the sign and what follows it. -/
def peek (style : Style) : Read (Option (Sign × Text)) := do
  readSign style (← get).rest

/-- Goes on behind a sign. -/
def goTo (rest : Text) : Read Unit := modify ({ · with rest })

/-- Reads the repetitions of an expression. -/
def readRepetitions (style : Style) : Nat → Regex → Read Regex
  | 0, body => return body
  | rounds + 1, body => do
    match ← peek style with
    | some (.repeat_ least most, rest) =>
      goTo rest
      readRepetitions style rounds (.times body least most)
    | some (.brace, rest) =>
      match readCounts style rest with
      | .ok (least, most, rest) =>
        goTo rest
        readRepetitions style rounds (.times body least most)
      | .error fault =>
        if style.extended ∧ ¬ rest.head?.any Char.isDigit ∨ style.isOrdinary rest then return body
        else throw fault
    | _ => return body

/-- Whether a dollar sign that has some text behind it stands for the end of a line. -/
def endsLine (style : Style) (rest : Text) : Bool :=
  style.extended || rest.isEmpty ||
    match readSign style rest with
    | .ok (some (.bar, _)) | .ok (some (.close, _)) => true
    | _ => false

mutual

/-- Reads expressions between bars. -/
def readEither (style : Style) (depth : Nat) : Nat → Read Regex
  | 0 => return .nothing
  | rounds + 1 => do
    let first ← readSequence style depth true rounds none
    match ← peek style with
    | some (.bar, rest) =>
      goTo rest
      return .either first (← readEither style depth rounds)
    | _ => return first

/-- Reads expressions one after another, behind those that were read. At the start, a caret stands
for the start of a line in any notation, and a sign of repetition has nothing to repeat. -/
def readSequence (style : Style) (depth : Nat) (atStart : Bool) :
    Nat → Option Regex → Read Regex
  | 0, read => return read.getD .nothing
  | rounds + 1, read => do
    let next (isAnchor : Bool) (regex : Regex) : Read Regex :=
      readSequence style depth isAnchor rounds (some (read.elim regex (.both · regex)))
    let repeated (regex : Regex) : Read Regex := do
      let all ← readRepetitions style rounds regex
      readSequence style depth false rounds (some (read.elim all (.both · all)))
    let idle (sign : Char) (rest : Text) : Read Regex := do
      if style.strict then throw .nothingToRepeat
      else if style.extended then
        modify fun reading ↦ { reading with rest, idle := sign :: reading.idle }
        readSequence style depth atStart rounds read
      else
        goTo rest
        repeated (char sign)
    match ← peek style with
    | none => return read.getD .nothing
    | some (.bar, _) => return read.getD .nothing
    | some (.close, rest) =>
      if 0 < depth then return read.getD .nothing
      else if style.laxClose then
        goTo rest
        repeated (char ')')
      else throw .unmatchedClose
    | some (.open_, rest) =>
      let number := (← get).groups + 1
      modify ({ · with rest, groups := number })
      let body ← readEither style (depth + 1) rounds
      match ← peek style with
      | some (.close, rest) =>
        modify fun reading ↦ { reading with rest, ended := number :: reading.ended }
        repeated (.group number body)
      | _ => throw .unmatchedOpen
    | some (.plain c, rest) =>
      goTo rest
      repeated (char c)
    | some (.any, rest) =>
      goTo rest
      repeated any
    | some (.bracket, rest) =>
      let (regex, rest) ← readBrackets style rest
      goTo rest
      repeated regex
    | some (.escaped regex, rest) =>
      goTo rest
      match regex with
      | .again number =>
        if ¬ (← get).ended.contains number then throw .invalidGroup
        repeated regex
      | .among .. => repeated regex
      | regex => next true regex
    | some (.caret, rest) =>
      goTo rest
      if style.extended ∨ atStart ∧ read.isNone then next true .lineStart
      else repeated (char '^')
    | some (.dollar, rest) =>
      goTo rest
      if endsLine style rest then next style.extended .lineEnd else repeated (char '$')
    | some (.repeat_ least most, rest) =>
      match least, most with
      | 0, none => idle '*' rest
      | 0, _ => idle '?' rest
      | _, _ => idle '+' rest
    | some (.brace, rest) =>
      if style.laxBraces ∧ ¬ style.isOrdinary rest then
        let (_, _, rest) ← readCounts style rest
        idle '{' rest
      else if style.extended ∧ (style.laxBraces ∨ ¬ rest.head?.any Char.isDigit) ∧
          ¬ style.strict then
        goTo rest
        repeated (char '{')
      else throw .nothingToRepeat

end

/-- The expression that a text writes, the number of its groups, and the signs of repetition in it
that have nothing to repeat. -/
def readNoting (style : Style) (text : Text) : Except Fault (Regex × Nat × List Char) := do
  let (regex, reading) ← (readEither style 0 (3 * text.length + 3)).run ⟨text, 0, [], []⟩
  return (regex, reading.groups, reading.idle.reverse)

/-- The expression that a text writes, and the number of its groups. -/
def read (style : Style) (text : Text) : Except Fault (Regex × Nat) := do
  let (regex, groups, _) ← readNoting style text
  return (regex, groups)

end AlignmentTally.Regex
