import AlignmentTally.Command.Options
import AlignmentTally.Machine.Escape
import AlignmentTally.Machine.CharSet

/-!
# Replacing characters

Every character of one list is replaced by the character at its place in another, or left out, and
repeated characters may be made one. Lists hold characters, ranges, classes and repetitions. A class
of small letters that stands opposite to one of capital letters stands for a change of case.
-/

namespace AlignmentTally.Command

open Machine

namespace Translate

/-- A part of a list of characters. -/
inductive Part where
  /-- A character. -/
  | char (c : Char)
  /-- The characters between two, with both. -/
  | range (low high : Char)
  /-- All characters of a class. -/
  | named (name : String)
  /-- The characters that count as the same as one. -/
  | like (c : Char)
  /-- A character some number of times, or as often as is needed. -/
  | repeated (c : Char) (count : Option Nat)
  deriving DecidableEq, Repr

/-- A character of a written list, and whether it was written with a backslash, so that it has no
meaning. -/
abbrev Sign := Char × Bool

/-! ### Reading lists -/

/-- What a written list has to be warned about. -/
abbrev Warnings := List Text

/-- The character written in octal digits after a backslash, and what follows, with a warning if
three digits make no octet. -/
def octal (first : Char) (rest : Text) : Char × Text × Warnings :=
  let digit (c : Char) : Nat := c.toNat - '0'.toNat
  match rest with
  | second :: rest =>
    if ¬ Escape.isOctal second then (Char.ofNat (digit first), second :: rest, [])
    else
      let two := 8 * digit first + digit second
      match rest with
      | third :: others =>
        if ¬ Escape.isOctal third then (Char.ofNat two, rest, [])
        else if 8 * two + digit third < 256 then (Char.ofNat (8 * two + digit third), others, [])
        else
          let warning : Text := "warning: the ambiguous octal escape \\".toList ++
            [first, second, third] ++ " is being\n\tinterpreted as the 2-byte sequence \\0".toList ++
            [first, second] ++ ", ".toList ++ [third]
          (Char.ofNat two, rest, [warning])
      | [] => (Char.ofNat two, [], [])
  | [] => (Char.ofNat (digit first), [], [])

/-- The signs of a written list, in at most some rounds. -/
def signs : Nat → Text → List Sign × Warnings
  | 0, _ => ([], [])
  | rounds + 1, text =>
    match text with
    | [] => ([], [])
    | ['\\'] =>
      ([('\\', false)], ["warning: an unescaped backslash at end of string is not portable".toList])
    | '\\' :: c :: rest =>
      if Escape.isOctal c then
        let (value, rest, warnings) := octal c rest
        let (others, more) := signs rounds rest
        ((value, true) :: others, warnings ++ more)
      else
        let value := if c = 'e' then c else (Escape.letter? c).getD c
        let (others, warnings) := signs rounds rest
        ((value, true) :: others, warnings)
    | c :: rest =>
      let (others, warnings) := signs rounds rest
      ((c, false) :: others, warnings)

/-- The signs before a mark and a closing bracket, and what follows. -/
def beforeMark (mark : Char) : List Sign → List Sign → Option (Text × List Sign)
  | [], _ => none
  | [_], _ => none
  | a :: b :: rest, name =>
    if a = (mark, false) ∧ b = (']', false) then some (name.reverse.map Prod.fst, rest)
    else beforeMark mark (b :: rest) (a :: name)

/-- A character as it is shown. -/
def shown (c : Char) : Text :=
  if c = '\\' then ['\\', '\\']
  else if Quoted.isPrintable c then [c]
  else Quoted.spelling c

/-- An end of a range as it is shown. -/
def shownEnd (c : Char) : Text := if Quoted.isPrintable c then [c] else Quoted.octal c

/-- The repetition after an opening bracket, if there is one. -/
def repetition? (signs : List Sign) : Except Text (Option (Part × List Sign)) :=
  match signs with
  | (c, _) :: ('*', false) :: rest =>
    let count := rest.takeWhile fun sign ↦ !sign.2 && sign.1 ≠ ']'
    match rest.drop count.length with
    | (']', false) :: rest =>
      let digits := count.map Prod.fst
      let base := if digits.head? = some '0' then 8 else 10
      let fits (c : Char) : Bool := if base = 8 then Escape.isOctal c else c.isDigit
      let n := Text.natOfDigits base digits
      if digits.all fits ∧ n < 18446744073709551616 then
        .ok (some (.repeated c (if n = 0 then none else some n), rest))
      else
        .error ("invalid repeat count ".toList ++ Quoted.word (digits.flatMap shown) ++
          " in [c*n] construct".toList)
    | _ => .ok none
  | _ => .ok none

/-- Whether signs are a star, digits and a closing bracket. -/
def isStarred : List Sign → Bool
  | ('*', false) :: rest => (rest.dropWhile fun sign ↦ sign.1.isDigit).head? = some (']', false)
  | _ => false

/-- The names of the classes. -/
def classNames : List String :=
  ["alpha", "digit", "alnum", "upper", "lower", "space", "blank", "punct", "cntrl", "print",
    "graph", "xdigit"]

/-- The class between colons, or the like of a character between equals signs, after an opening
bracket, if there is one. -/
def named? (signs : List Sign) : Except Text (Option (Part × List Sign)) :=
  match signs with
  | (':', false) :: rest =>
    match beforeMark ':' rest [] with
    | none => .ok none
    | some ([], _) => .error "missing character class name '[::]'"
    | some (name, others) =>
      if classNames.contains (String.ofList name) then
        .ok (some (.named (String.ofList name), others))
      else if isStarred rest then .ok none
      else .error ("invalid character class " ++ Quoted.word (name.flatMap shown))
  | ('=', false) :: rest =>
    match beforeMark '=' rest [] with
    | none => .ok none
    | some ([], _) => .error "missing equivalence class character '[==]'"
    | some ([c], others) => .ok (some (.like c, others))
    | some (name, _) =>
      if isStarred rest then .ok none
      else .error (name.flatMap shown ++
        ": equivalence class operand must be a single character".toList)
  | _ => .ok none

/-- The parts of a list of signs, in at most some rounds. -/
def parts : Nat → List Sign → Except Text (List Part)
  | 0, _ => .ok []
  | rounds + 1, signs => do
    match signs with
    | a :: b :: c :: rest =>
      let found ←
        if a = ('[', false) then do
          match ← named? (b :: c :: rest) with
          | some found => pure (some found)
          | none => repetition? (b :: c :: rest)
        else pure none
      match found with
      | some (part, rest) => return part :: (← parts rounds rest)
      | none =>
        if b = ('-', false) then
          if c.1 < a.1 then
            .error ("range-endpoints of '".toList ++ shownEnd a.1 ++ '-' :: shownEnd c.1 ++
              "' are in reverse collating sequence order".toList)
          else return .range a.1 c.1 :: (← parts rounds rest)
        else return .char a.1 :: (← parts rounds (b :: c :: rest))
    | signs => return signs.map fun sign ↦ .char sign.1

/-! ### What lists stand for -/

/-- All octets as characters. -/
def allChars : Text := (List.range 256).map Char.ofNat

/-- The characters of a part. -/
def Part.chars : Part → Text
  | char c => [c]
  | range low high =>
    (List.range (high.toNat - low.toNat + 1)).map fun i ↦ Char.ofNat (low.toNat + i)
  | named name => allChars.filter (CharSet.isOfClass name)
  | like c => [c]
  | repeated c count => List.replicate (count.getD 0) c

/-- The number of characters of a part. -/
def Part.size : Part → Nat
  | repeated _ count => count.getD 0
  | part => part.chars.length

/-- The number of characters of a list. -/
def size (parts : List Part) : Nat := parts.foldl (fun n part ↦ n + part.size) 0

/-- Whether a part goes on as long as is needed. -/
def Part.isOpen : Part → Bool
  | repeated _ none => true
  | _ => false

/-- Whether a part is a class. -/
def Part.isNamed : Part → Bool
  | named _ => true
  | _ => false

/-- Whether a part is a class of letters, and of which: capital ones or small ones. -/
def Part.upper? : Part → Option Bool
  | named "upper" => some true
  | named "lower" => some false
  | _ => none

/-- A character of a list with the part in which it stands: whether that is a class of capital or
small letters, and whether the part begins here. -/
structure Step where
  /-- The character. -/
  char : Char
  /-- Whether the letters of the part are capital ones. -/
  upper? : Option Bool
  /-- Whether the part begins here. -/
  isFirst : Bool

/-- The steps through a list. -/
def steps (parts : List Part) : List Step :=
  parts.flatMap fun part ↦ part.chars.mapIdx fun i char ↦ ⟨char, part.upper?, i = 0⟩

/-- What follows the part in which steps go on. -/
def afterPart (steps : List Step) : List Step := steps.dropWhile (!·.isFirst)

/-- The number of letters of one case. -/
def letterCount : Nat := 26

/-- Goes through two lists side by side: `none` if a class of letters in the second one has no class
of letters at its side, and otherwise by how many characters the lists are shorter if such a pair
of classes counts as one. -/
def aligned : Nat → List Step → List Step → Option Nat
  | 0, _, _ => some 0
  | rounds + 1, first, second =>
    match second with
    | [] => some 0
    | b :: second =>
      let upper? := first.head?.bind Step.upper?
      if b.isFirst ∧ b.upper?.isSome ∧ ¬ (upper?.isSome ∧ first.head?.any Step.isFirst) then none
      else if first.isEmpty then some 0
      else if b.upper?.isSome then
        (aligned rounds (afterPart (first.drop 1)) (afterPart second)).map (· + (letterCount - 1))
      else aligned rounds (first.drop 1) second

/-- Pairs of characters for two lists that run side by side. -/
def pairs : Nat → List Step → List Step → List (Char × Char)
  | 0, _, _ => []
  | rounds + 1, a :: first, b :: second =>
    let here : List (Char × Char) :=
      match a.upper?, b.upper? with
      | some false, some true => (Part.named "lower").chars.map fun c ↦ (c, c.toUpper)
      | some true, some false => (Part.named "upper").chars.map fun c ↦ (c, c.toLower)
      | _, _ => [(a.char, b.char)]
    here ++
      if b.upper?.isSome then pairs rounds (afterPart first) (afterPart second)
      else pairs rounds first second
  | _, _, _ => []

/-- The last character of a list, to be repeated as long as is needed. -/
def lastChar? (parts : List Part) : Option Char :=
  match parts.getLast? with
  | some (.char c) | some (.range _ c) | some (.repeated c _) | some (.like c) => some c
  | _ => none

/-- What is done with the characters of the input. -/
structure Plan where
  /-- Whether the characters that are not in the first list are meant. -/
  inverse : Bool
  /-- Whether the characters of the first list are left out. -/
  deletes : Bool
  /-- Whether characters next to each other are made one. -/
  squeezes : Bool
  /-- Whether characters of the first list without one in the second stay. -/
  truncates : Bool
  /-- The first list. -/
  first : List Part
  /-- The second list. -/
  second : Option (List Part)

namespace Plan

/-- Whether characters are replaced. -/
def translates (plan : Plan) : Bool := plan.second.isSome && !plan.deletes

/-- The characters that the first list means, in order. -/
def meant (plan : Plan) : Text :=
  let listed := plan.first.flatMap Part.chars
  if plan.inverse then allChars.filter (!listed.contains ·) else listed

/-- The number of characters that the first list means. -/
def meantSize (plan : Plan) : Nat := if plan.inverse then plan.meant.length else size plan.first

/-- The second list with the repetition that goes on as long as is needed. -/
def filled (plan : Plan) (second : List Part) : List Part :=
  let missing := plan.meantSize - size second
  second.map fun part ↦
    match part with
    | .repeated c none => .repeated c (some missing)
    | part => part

/-- The second list as it is used for replacing, or why the lists do not fit. -/
def fitted (plan : Plan) (second : List Part) : Except Text (List Part) := do
  if second.any fun part ↦ part matches .like _ then
    .error "[=c=] expressions may not appear in string2 when translating"
  if second.any fun part ↦ part.isNamed && part.upper?.isNone then
    .error ("when translating, the only character classes that may appear in\n".toList ++
      "string2 are 'upper' and 'lower'".toList)
  let firstSize := plan.meantSize
  let secondSize := size second
  let surplus ←
    if plan.inverse ∨ ¬ second.any Part.isNamed then .ok 0
    else
      match aligned (secondSize + 1) (steps plan.first) (steps second) with
      | some surplus => .ok surplus
      | none => .error "misaligned [:upper:] and/or [:lower:] construct"
  let long := secondSize - surplus < firstSize - surplus
  let second ←
    if long ∧ ¬ plan.truncates then
      if secondSize - surplus = 0 then
        .error "when not truncating set1, string2 must be non-empty"
      else
        match lastChar? second with
        | some c => .ok (second ++ [.repeated c (some (firstSize - secondSize))])
        | none => .error ("when translating with string1 longer than string2,\n".toList ++
            "the latter string must not end with a character class".toList)
    else .ok second
  let chars := second.flatMap Part.chars
  let isUniform := chars.all fun c ↦ chars.head? = some c
  if plan.inverse ∧ plan.first.any Part.isNamed ∧
      ¬ (chars.length = firstSize ∧ isUniform) then
    .error ("when translating with complemented character classes,\n".toList ++
      "string2 must map all characters in the domain to one".toList)
  return second

/-- The plan with the second list as it is used, or why the lists do not fit. -/
def checked (plan : Plan) : Except Text Plan := do
  if plan.first.any Part.isOpen then
    .error "the [c*] repeat construct may not appear in string1"
  match plan.second with
  | none => return plan
  | some second =>
    if 1 < (second.filter Part.isOpen).length then
      .error "only one [c*] repeat construct may appear in string2"
    if plan.translates then
      return { plan with second := some (← plan.fitted (plan.filled second)) }
    if second.any Part.isOpen then
      .error "the [c*] construct may appear in string2 only when translating"
    return plan

/-- The characters with what replaces them. -/
def replacements (plan : Plan) : List (Char × Char) :=
  match plan.second with
  | some second =>
    if plan.inverse then plan.meant.zip (second.flatMap Part.chars)
    else pairs (plan.meantSize + 1) (steps plan.first) (steps second)
  | none => []

end Plan

/-! ### The command -/

/-- A text in which characters with a property that repeat the one before are left out, and the last
character. `last` is the character before the text. -/
def squeeze (p : Char → Bool) (last : Option Char) (text : Text) : Text × Option Char :=
  let (done, last) := text.foldl
    (fun (done, last) c ↦
      if p c ∧ last = some c then (done, last) else (c :: done, some c))
    (([] : Text), last)
  (done.reverse, last)

/-- Whether an octet is among characters, in a table. -/
def among (chars : Text) : Char → Bool :=
  let table := chars.foldl (fun table c ↦ table.setIfInBounds c.toNat true)
    (Array.replicate 256 false)
  fun c ↦ table.getD c.toNat false

/-- What becomes of each character. -/
structure Table where
  /-- Whether it is left out. -/
  drops : Char → Bool
  /-- What replaces it. -/
  code : Char → Char
  /-- Whether it is left out, after it was replaced, if it repeats the one before. -/
  squeezes : Char → Bool

/-- What a plan makes of each character. -/
def Plan.table (plan : Plan) : Table :=
  let isMeant := among plan.meant
  let codes := plan.replacements.foldl (fun codes (a, b) ↦ codes.setIfInBounds a.toNat b)
    allChars.toArray
  let isSecond := among ((plan.second.getD []).flatMap Part.chars)
  { drops := if plan.deletes then isMeant else fun _ ↦ false
    code := if plan.translates then fun c ↦ codes.getD c.toNat c else fun c ↦ c
    squeezes :=
      if ¬ plan.squeezes then fun _ ↦ false
      else if plan.second.isSome then isSecond
      else isMeant }

/-- A text as a table changes it, and its last character. -/
def Table.apply (table : Table) (last : Option Char) (text : Text) : Text × Option Char :=
  squeeze table.squeezes last ((text.filter (!table.drops ·)).map table.code)

/-- Complains about the number of lists and says why there have to be others. -/
def misuse {α : Type} (words reason : Text) : Work α := do
  Work.warn words
  if ¬ reason.isEmpty then Work.say (reason ++ ['\n'])
  Work.advise 1

/-- The parts of a written list. -/
def read (text : Text) : Work (List Part) := do
  let (signs, warnings) := signs (text.length + 1) text
  for warning in warnings do Work.warn warning
  match parts (signs.length + 1) signs with
  | .ok parts => return parts
  | .error fault => Work.fail fault 1

/-- Writes the input with characters replaced. -/
def tr (arguments : List Text) : Work Unit := do
  let (chosen, lists) ← Choices.take
    { letters := "cCdst", anywhere := false
      words := [("complement", 'c'), ("delete", 'd'), ("squeeze-repeats", 's'),
        ("truncate-set1", 't')] }
    arguments
  let deletes := has chosen 'd'
  let squeezes := has chosen 's'
  let least := if deletes == squeezes then 2 else 1
  let most := if deletes && !squeezes then 1 else 2
  if lists.isEmpty then Work.misuse "missing operand" 1
  if lists.length < least then
    misuse ("missing operand after " ++ Quoted.word (lists.headD []))
      (if squeezes then "Two strings must be given when both deleting and squeezing repeats."
      else "Two strings must be given when translating.")
  if most < lists.length then
    misuse ("extra operand " ++ Quoted.word (lists.getD most []))
      (if lists.length = 2 then
        "Only one string may be given when deleting without squeezing repeats."
      else [])
  let first ← read (lists.headD [])
  let second ←
    match lists with
    | [_, list] => (some ·) <$> read list
    | _ => pure none
  let plan : Plan :=
    { inverse := has chosen 'c' || has chosen 'C', deletes, squeezes
      truncates := has chosen 't', first, second }
  match plan.checked with
  | .error fault => Work.fail fault 1
  | .ok plan =>
    let table := plan.table
    let act (last : Option Char) (text : Text) : Work (Option Char) := do
      let (text, last) := table.apply last text
      Work.put text
      return last
    let (_, error) ← Work.foldReads 0 (fun _ ↦ false) act endless none
    if let some error := error then Work.fail ("read error: " ++ error.words.toList) 1

end Translate

end AlignmentTally.Command
