import AlignmentTally.Command.Comparison

/-!
# Lines of two files with the same field

Two files that are in the order of one of their fields are gone through together, and the lines with
the same field make one line for each two of them. Lines that have no partner can be written, too.
-/

namespace AlignmentTally.Command

open Machine

namespace Joining

open Comparison (OrderCheck)

/-- A line with its fields. -/
structure Line where
  /-- The line. -/
  text : Text
  /-- The fields. -/
  fields : List Text

/-- A field that is written. -/
inductive Field where
  /-- The field that is compared. -/
  | key
  /-- A field of one of the files. -/
  | at (isSecond : Bool) (place : Nat)

/-- What separates fields. -/
inductive Separator where
  /-- Blanks, several together. -/
  | blanks
  /-- A character. -/
  | char (c : Char)
  /-- Nothing: a line is one field. -/
  | none

/-- What is asked for. -/
structure Plan where
  /-- The places of the fields that are compared. -/
  first : Option Nat := none
  /-- The place in the second file. -/
  second : Option Nat := none
  /-- What separates fields. -/
  separator : Option Separator := none
  /-- What lines end in. -/
  ending : Char := '\n'
  /-- What stands for a field that is not there. -/
  filler : Option Text := none
  /-- Whether small and capital letters are the same. -/
  ignoresCase : Bool := false
  /-- Whether lines with a partner are written. -/
  showsBoth : Bool := true
  /-- Whether lines of the first file without a partner are written. -/
  showsFirst : Bool := false
  /-- Whether lines of the second file without a partner are written. -/
  showsSecond : Bool := false
  /-- The fields that are written. -/
  fields : List Field := []
  /-- Whether the first lines tell how many fields are written. -/
  isCounted : Bool := false
  /-- Whether the first lines are headings. -/
  hasHeadings : Bool := false
  /-- When the order is checked. -/
  check : OrderCheck := .later

namespace Plan

/-- The place of the field that is compared. -/
def key (plan : Plan) (isSecond : Bool) : Nat :=
  (if isSecond then plan.second else plan.first).getD 0

/-- Whether a character separates fields unless one is given. -/
def isBlank (c : Char) : Bool := c = ' ' || c = '\t' || c = '\n'

/-- The fields of a line that stand between blanks. Blanks at the end have an empty field after
them. -/
def blankFields (text : Text) : List Text :=
  let body := text.dropWhile isBlank
  if body.isEmpty then []
  else
    Text.words isBlank body ++ if body.getLast?.any isBlank then [[]] else []

/-- A line with its fields. -/
def line (plan : Plan) (text : Text) : Line :=
  let fields : List Text :=
    if text.isEmpty then []
    else
      match plan.separator.getD .blanks with
      | .blanks => blankFields text
      | .char c => Text.splitOn c text
      | .none => [text]
  { text, fields }

/-- Compares the fields of two lines. A line without the field comes first. -/
def compare (plan : Plan) (a b : Line × Bool) : Ordering :=
  let field (line : Line × Bool) : Text :=
    let text := (line.1.fields[plan.key line.2]?).getD []
    if plan.ignoresCase then text.map Char.toUpper else text
  let (x, y) := (field a, field b)
  if x = y then .eq else if Text.before x y then .lt else .gt

/-- What stands between fields that are written. -/
def comma (plan : Plan) : Char :=
  match plan.separator.getD .blanks with
  | .blanks => ' '
  | .char c => c
  | .none => '\n'

/-- A field of a line, if there is a line. -/
def field (plan : Plan) (line : Option Line) (place : Nat) : Text :=
  match (line.map Line.fields).bind (·[place]?) with
  | none | some [] => plan.filler.getD []
  | some text => text

/-- The line that is made of two lines, of which one may be missing. `counts` are the numbers of
fields that the lines have in any case. -/
def joined (plan : Plan) (counts : Nat × Nat) (first second : Option Line) : Text :=
  let key : Text :=
    if first.isSome then plan.field first (plan.key false)
    else plan.field second (plan.key true)
  let others (line : Option Line) (isSecond : Bool) : List Text :=
    let known := (line.map fun line ↦ line.fields.length).getD 0
    let count := if plan.isCounted then if isSecond then counts.2 else counts.1 else known
    ((List.range count).filter (· ≠ plan.key isSecond)).map (plan.field line)
  let fields : List Text :=
    if plan.fields.isEmpty then key :: (others first false ++ others second true)
    else
      plan.fields.map fun field ↦
        match field with
        | .key => key
        | .at isSecond place => plan.field (if isSecond then second else first) place
  Text.join [plan.comma] fields ++ [plan.ending]

end Plan

/-! ### Two files -/

/-- A file that is read line by line. -/
structure Source where
  /-- The name of the file. -/
  name : Text
  /-- The stream that leads to it. -/
  stream : Nat
  /-- The line that was read last. -/
  last : Option Line := none
  /-- The number of lines that were read. -/
  count : Nat := 0
  /-- Whether it was found out of order. -/
  isDisordered : Bool := false

/-- Two files that are read line by line. -/
structure Pair where
  /-- The first file. -/
  first : Source
  /-- The second file. -/
  second : Source
  /-- The texts that were read and not used yet. -/
  buffers : Work.Buffers := []
  /-- Whether there was a line without a partner. -/
  sawSingle : Bool := false

/-- One of the two files. -/
def Pair.source (pair : Pair) (isSecond : Bool) : Source :=
  if isSecond then pair.second else pair.first

/-- The pair with another one of its files. -/
def Pair.set (pair : Pair) (isSecond : Bool) (source : Source) : Pair :=
  if isSecond then { pair with second := source } else { pair with first := source }

/-- Reads the next line of a file and checks the order. -/
def Pair.step (pair : Pair) (plan : Plan) (isSecond : Bool) : Work (Option Line × Pair) := do
  let source := pair.source isSecond
  let (answer, buffers) ← Work.nextPiece plan.ending source.stream endless pair.buffers
  let pair := { pair with buffers }
  match answer with
  | .error error => Work.fail ("read error: " ++ error.words) 1
  | .ok none => return (none, pair)
  | .ok (some text) =>
    let line := plan.line text
    let after := { source with last := some line, count := source.count + 1 }
    let checks := plan.check = .always || plan.check = .later && pair.sawSingle
    let isInOrder := source.last.all fun last ↦
      plan.compare (last, isSecond) (line, isSecond) ≠ .gt
    if ¬ checks ∨ source.isDisordered ∨ isInOrder then return (some line, pair.set isSecond after)
    let words := source.name ++ ':' :: Text.ofNat after.count ++ ": is not sorted: ".toList ++
      text
    if plan.check = .always then Work.fail words 1
    Work.warn words
    return (some line, pair.set isSecond { after with isDisordered := true })

/-- Reads the lines of a file that have the same field as a line, in at most some rounds. The result
has them, the last one first, and the line after them. -/
def gather (plan : Plan) (isSecond : Bool) (line : Line × Bool) :
    Nat → List Line → Pair → Work (List Line × Option Line × Pair)
  | 0, lines, pair => return (lines, none, pair)
  | rounds + 1, lines, pair => do
    match ← pair.step plan isSecond with
    | (none, pair) => return (lines, none, pair)
    | (some next, pair) =>
      if plan.compare (next, isSecond) line = .eq then
        gather plan isSecond line rounds (next :: lines) pair
      else return (lines, some next, pair)

/-- Goes through both files until one of them is at its end, in at most some rounds. -/
def walk (plan : Plan) (counts : Nat × Nat) :
    Nat → Option Line → Option Line → Pair → Work (Option Line × Option Line × Pair)
  | 0, first, second, pair => return (first, second, pair)
  | rounds + 1, first, second, pair => do
    if (← get).broken.isSome then return (first, second, pair)
    match first, second with
    | some x, some y =>
      match plan.compare (x, false) (y, true) with
      | .lt =>
        if plan.showsFirst then Work.put (plan.joined counts (some x) none)
        let (first, pair) ← pair.step plan false
        walk plan counts rounds first second { pair with sawSingle := true }
      | .gt =>
        if plan.showsSecond then Work.put (plan.joined counts none (some y))
        let (second, pair) ← pair.step plan true
        walk plan counts rounds first second { pair with sawSingle := true }
      | .eq =>
        let (xs, first, pair) ← gather plan false (y, true) endless [x] pair
        let (ys, second, pair) ← gather plan true (x, false) endless [y] pair
        if plan.showsBoth then
          for x in xs.reverse do
            for y in ys.reverse do
              Work.put (plan.joined counts (some x) (some y))
        walk plan counts rounds first second pair
    | _, _ => return (first, second, pair)

/-- Goes on to the end of a file, in at most some rounds. -/
def finish (plan : Plan) (counts : Nat × Nat) (isSecond shows : Bool) : Nat → Pair → Work Pair
  | 0, pair => return pair
  | rounds + 1, pair => do
    if (← get).broken.isSome then return pair
    match ← pair.step plan isSecond with
    | (none, pair) => return pair
    | (some line, pair) =>
      if shows then
        Work.put <|
          if isSecond then plan.joined counts none (some line)
          else plan.joined counts (some line) none
      if (pair.source isSecond).isDisordered ∧ ¬ shows then return pair
      finish plan counts isSecond shows rounds pair

/-- Joins two files. -/
def run (plan : Plan) (pair : Pair) : Work Unit := do
  let (first, pair) ← pair.step plan false
  let (second, pair) ← pair.step plan true
  let fieldCount (line : Option Line) : Nat := (line.map fun line ↦ line.fields.length).getD 0
  let counts := (fieldCount first, fieldCount second)
  let mut first := first
  let mut second := second
  let mut pair := pair
  if plan.hasHeadings ∧ (first.isSome ∨ second.isSome) then
    Work.put (plan.joined counts first second)
    pair :=
      { pair with
        first := { pair.first with last := none }, second := { pair.second with last := none } }
    if first.isSome then (first, pair) ← pair.step plan false
    if second.isSome then (second, pair) ← pair.step plan true
  (first, second, pair) ← walk plan counts endless first second pair
  let isChecked : Bool :=
    plan.check ≠ .never && !(pair.first.isDisordered && pair.second.isDisordered)
  if let some line := first then
    if plan.showsFirst ∨ isChecked then
      if plan.showsFirst then Work.put (plan.joined counts (some line) none)
      if second.isSome then pair := { pair with sawSingle := true }
      pair ← finish plan counts false plan.showsFirst endless pair
  if let some line := second then
    if plan.showsSecond ∨ isChecked then
      if plan.showsSecond then Work.put (plan.joined counts none (some line))
      if first.isSome then pair := { pair with sawSingle := true }
      pair ← finish plan counts true plan.showsSecond endless pair
  if pair.first.isDisordered ∨ pair.second.isDisordered then
    Work.fail "input is not in sorted order" 1

/-! ### What is asked for -/

/-- The place of a field, counted from zero, that a number writes. -/
def place (text : Text) : Work Nat := do
  match Amount.plain? text with
  | some (n + 1) => return min n (Amount.greatest - 1)
  | _ => Work.fail ("invalid field number: ".toList ++ Quoted.word text) 1

namespace Plan

/-- The plan with the place of the field that is compared in one of the files. -/
def setKey (plan : Plan) (isSecond : Bool) (n : Nat) : Work Plan := do
  let before := if isSecond then plan.second else plan.first
  if let some m := before then
    if m ≠ n then
      Work.fail ("incompatible join fields ".toList ++ Text.ofNat m ++ ", ".toList ++
        Text.ofNat n) 1
  return if isSecond then { plan with second := some n } else { plan with first := some n }

/-- The plan with the place of the field that is compared in both files. -/
def setKeys (plan : Plan) (n : Nat) : Work Plan := do (← plan.setKey false n).setKey true n

/-- The field that a word stands for. -/
def fieldOf (word : Text) : Work Field := do
  match word with
  | ['0'] => return .key
  | '1' :: '.' :: rest => return .at false (← place rest)
  | '2' :: '.' :: rest => return .at true (← place rest)
  | '0' :: _ | '1' :: _ | '2' :: _ =>
    Work.fail ("invalid field specifier: ".toList ++ Quoted.word word) 1
  | _ => Work.fail ("invalid file number in field spec: ".toList ++ Quoted.word word) 1

/-- The plan with more fields that are written, as words list them. -/
def addFields (plan : Plan) (text : Text) : Work Plan := do
  let mut plan := plan
  for word in Text.splitOn ',' (text.map fun c ↦ if c = ' ' || c = '\t' then ',' else c) do
    let field ← fieldOf word
    plan := { plan with fields := plan.fields ++ [field] }
  return plan

/-- The plan with what separates fields. -/
def setSeparator (plan : Plan) (text : Text) : Work Plan := do
  let code (separator : Separator) : Option Char :=
    match separator with
    | .blanks => none
    | .char c => some c
    | .none => some '\n'
  let separator : Separator ←
    match text with
    | [] | ['\n'] => pure .none
    | [c] => pure (.char c)
    | ['\\', '0'] => pure (.char '\x00')
    | _ => Work.fail ("multi-character tab ".toList ++ Quoted.word text) 1
  if let some before := plan.separator then
    if code before ≠ code separator then Work.fail "incompatible tabs" 1
  return { plan with separator := some separator }

/-- The plan with an option. -/
def add (plan : Plan) (letter : Char) (text : Text) : Work Plan := do
  match letter with
  | 'a' | 'v' =>
    let plan := if letter = 'v' then { plan with showsBoth := false } else plan
    match Amount.plain? text with
    | some 1 => return { plan with showsFirst := true }
    | some 2 => return { plan with showsSecond := true }
    | _ => Work.fail ("invalid field number: ".toList ++ Quoted.word text) 1
  | 'e' =>
    if plan.filler.any (· ≠ text) then
      Work.fail "conflicting empty-field replacement strings" 1
    return { plan with filler := some text }
  | 'i' => return { plan with ignoresCase := true }
  | '1' => plan.setKey false (← place text)
  | '2' => plan.setKey true (← place text)
  | 'j' => plan.setKeys (← place text)
  | 'o' =>
    if text = "auto".toList then return { plan with isCounted := true }
    plan.addFields text
  | 't' => plan.setSeparator text
  | 'z' => return { plan with ending := '\x00' }
  | 'H' => return { plan with hasHeadings := true }
  | 'k' => return { plan with check := .always }
  | 'K' => return { plan with check := .never }
  | _ => return plan

end Plan

/-- What an argument may be besides the name of a file. -/
inductive Role where
  /-- Nothing else. -/
  | file
  /-- The place of the field in a file, after an option that may want it. -/
  | key (isSecond : Bool)
  /-- More fields that are written. -/
  | fields
  deriving DecidableEq, Repr

/-- The arguments as far as they were gone through. -/
structure Taken where
  /-- What is asked for. -/
  plan : Plan := {}
  /-- The arguments that may be names of files, at most two. -/
  names : List (Text × Role) := []
  /-- The options that want the place of a field in a file and did not get one. -/
  wanting : List Bool := []

/-- Takes an argument that is no option. If there are two names already, the first one that may be
something else is taken for that. -/
def Taken.addName (taken : Taken) (name : Text) (role : Role) : Work Taken := do
  match taken.names with
  | [first, second] =>
    let (moved, kept) := if first.2 = .file then (second, first) else (first, second)
    let plan ←
      match moved.2 with
      | .file => Work.misuse ("extra operand " ++ Quoted.word name) 1
      | .key isSecond => taken.plan.setKey isSecond (← place moved.1)
      | .fields => taken.plan.addFields moved.1
    let wanting :=
      match moved.2 with
      | .key isSecond => taken.wanting.erase isSecond
      | _ => taken.wanting
    return { plan, wanting, names := [kept, (name, role)] }
  | names => return { taken with names := names ++ [(name, role)] }

/-- Opens a file. -/
def enter (path : Text) : Work Source := do
  match ← Work.open_ path with
  | .error error => Work.fail (Quoted.name path ++ ": " ++ error.words) 1
  | .ok stream => return { name := path, stream }

/-- Writes the lines of two files with the same field as one line. -/
def join (arguments : List Text) : Work Unit := do
  let (chosen, others) ← Choices.take
    { letters := "a:e:i1:2:j::o:t:v:z", operand := some '-'
      words := [("ignore-case", 'i'), ("check-order", 'k'), ("nocheck-order", 'K'),
        ("zero-terminated", 'z'), ("header", 'H')] }
    arguments
  let mut taken : Taken := {}
  let mut role : Role := .file
  let mut isKey := false
  for (letter, text) in chosen do
    let before := role
    role := .file
    if isKey then
      taken := { taken with plan := ← taken.plan.setKeys (← place text) }
      isKey := false
    else if letter = '-' then
      taken ← taken.addName text before
      if before = .fields then role := .fields
    else if letter = 'j' ∧ text.isEmpty then isKey := true
    else if letter = 'j' ∧ (text = ['1'] ∨ text = ['2']) then
      let isSecond := text = ['2']
      taken := { taken with wanting := isSecond :: taken.wanting }
      role := .key isSecond
    else
      taken := { taken with plan := ← taken.plan.add letter text }
      if letter = 'o' ∧ text ≠ "auto".toList then role := .fields
  if isKey then Work.misuse "option requires an argument -- 'j'" 1
  for name in others do
    taken ← taken.addName name .file
  let mut plan := taken.plan
  let (first, second) ←
    match taken.names with
    | [first, second] => pure (first.1, second.1)
    | [] => Work.misuse "missing operand" 1
    | _ => Work.misuse ("missing operand after " ++ Quoted.word (arguments.getLast?.getD [])) 1
  for isSecond in [false, true] do
    if taken.wanting.contains isSecond then plan ← plan.setKeys isSecond.toNat
  let pair : Pair := { first := ← enter first, second := ← enter second }
  if first = ['-'] ∧ second = ['-'] then Work.fail "both files cannot be standard input" 1
  run plan pair

end Joining

end AlignmentTally.Command
