import AlignmentTally.Command.Options
import AlignmentTally.Command.Sorting.Key

/-!
# Repeated lines

The command that writes lines of which those next to each other that are alike come once, or counts
them, or puts them in groups.
-/

namespace AlignmentTally.Command

open Machine

namespace Repetition

/-- Where lines stand that set groups apart. -/
inductive Gap where
  /-- Nowhere. -/
  | none
  /-- Before each group. -/
  | before
  /-- After each group. -/
  | after
  /-- Between two groups. -/
  | between
  /-- Before each group and after the last one. -/
  | around
  deriving DecidableEq, Repr

/-- The words for gaps between groups of lines that are repeated. -/
def repeatedGaps : List (String × Gap) :=
  [("none", .none), ("prepend", .before), ("separate", .between)]

/-- The words for gaps between all groups. -/
def groupGaps : List (String × Gap) :=
  [("prepend", .before), ("append", .after), ("separate", .between), ("both", .around)]

/-- Which part of a line is compared, and how. -/
structure Compared where
  /-- The number of fields that do not count. -/
  fields : Nat := 0
  /-- The number of octets after them that do not count. -/
  chars : Nat := 0
  /-- The number of octets that count. -/
  width : Option Nat := none
  /-- Whether small letters count as capital ones. -/
  folds : Bool := false

/-- The part of a line that is compared. -/
def Compared.part (compared : Compared) (line : Text) : Text :=
  let rest := (Sorting.afterFields none compared.fields line).drop compared.chars
  let rest := (compared.width.map rest.take).getD rest
  if compared.folds then rest.map Char.toUpper else rest

/-- Which lines of groups are written. -/
structure Shown where
  /-- Whether lines that are not repeated are. -/
  single : Bool := true
  /-- Whether the first line of a group is, or the last one if others are. -/
  one : Bool := true
  /-- Whether the other lines of a group are. -/
  others : Bool := false
  /-- Whether the number of lines of a group stands before it. -/
  counts : Bool := false

/-- The lines of a group that are written. -/
def Shown.lines (shown : Shown) (group : List Text) : List Text :=
  let kept :=
    match group with
    | [line] => if shown.single then [line] else []
    | line :: _ =>
      if shown.others then
        group.dropLast ++ (if shown.one then (group.getLast?).toList else [])
      else if shown.one then [line] else []
    | [] => []
  if shown.counts then
    kept.map fun line ↦ Text.padLeft ' ' 7 (Text.ofNat group.length) ++ ' ' :: line
  else kept

/-- The lines of a group with those that set it apart from others. -/
def Gap.around? (gap : Gap) (isFirst : Bool) (group : List Text) : List Text :=
  match gap with
  | .none => group
  | .before | .around => [] :: group
  | .after => group ++ [[]]
  | .between => if isFirst then group else [] :: group

/-- How lines are put in groups and written. -/
structure Plan where
  /-- The part of lines that is compared. -/
  compared : Compared
  /-- The lines that are written. -/
  shown : Shown
  /-- What sets groups apart. -/
  gap : Gap
  /-- Whether groups of one line are left out. -/
  onlyRepeated : Bool
  /-- What lines end in. -/
  ending : Char

/-- How far lines have been put in groups. -/
structure Place where
  /-- The lines of the group, the last one first. -/
  group : List Text := []
  /-- Whether no group was written. -/
  isFirst : Bool := true
  /-- What is to be written, the last line first. -/
  written : List Text := []

/-- Ends the group. -/
def Plan.close (plan : Plan) (place : Place) : Place :=
  let group := place.group.reverse
  if group.isEmpty ∨ plan.onlyRepeated ∧ group.length = 1 then { place with group := [] }
  else
    let lines := plan.gap.around? place.isFirst (plan.shown.lines group)
    { group := [], isFirst := false, written := lines.reverse ++ place.written }

/-- Takes one more line. -/
def Plan.take (plan : Plan) (place : Place) (line : Text) : Place :=
  match place.group with
  | last :: _ =>
    if plan.compared.part last = plan.compared.part line then
      { place with group := line :: place.group }
    else { plan.close place with group := [line] }
  | [] => { place with group := [line] }

/-- Writes what is to be written. -/
def Plan.put (plan : Plan) (output : Option Nat) (place : Place) : Work Place := do
  let text := place.written.reverse.flatMap (· ++ [plan.ending])
  match output with
  | none => Work.put text
  | some stream =>
    let _ ← Routine.write stream text
  return { place with written := [] }

/-- The number that an option asks for. -/
def number (what : String) (text : Text) : Work Nat :=
  match Amount.plain? text with
  | some n => return n
  | none => Work.fail (text ++ ": invalid number of ".toList ++ what.toList) 1

/-- Complains that options do not fit together, and ends. -/
def refuse {α : Type} (words : String) : Work α := Work.misuse words 1

/-- Writes lines of which those next to each other that are alike come once. -/
def uniq (arguments : List Text) : Work Unit := do
  let (chosen, operands) ← Choices.take
    { letters := "0123456789cdDf:is:uw:z"
      words := [("count", 'c'), ("repeated", 'd'), ("all-repeated?", 'D'), ("group?", 'g'),
        ("skip-fields=", 'f'), ("ignore-case", 'i'), ("skip-chars=", 's'), ("unique", 'u'),
        ("check-chars=", 'w'), ("zero-terminated", 'z')] }
    arguments
  let mut compared : Compared := { folds := has chosen 'i' }
  let mut gap : Gap := .none
  let mut isOld := false
  for (letter, text) in chosen do
    match letter with
    | 'f' =>
      compared := { compared with fields := ← number "fields to skip" text }
      isOld := false
    | 's' => compared := { compared with chars := ← number "bytes to skip" text }
    | 'w' => compared := { compared with width := some (← number "bytes to compare" text) }
    | 'D' =>
      if ¬ text.isEmpty then gap ← meaningOf "--all-repeated" repeatedGaps text
      else gap := .none
    | 'g' =>
      if text.isEmpty then gap := .between else gap ← meaningOf "--group" groupGaps text
    | letter =>
      if letter.isDigit then
        let before := if isOld then compared.fields else 0
        compared := { compared with fields := before * 10 + (letter.toNat - '0'.toNat) }
        isOld := true
  -- an operand that is a number after a plus sign is the old form of an option
  let isNumber (path : Text) : Bool := path.head? = some '+' && (Amount.plain? path).isSome
  for path in operands do
    if isNumber path then compared := { compared with chars := (Amount.plain? path).getD 0 }
  let paths := operands.filter (!isNumber ·)
  if let some extra := paths[2]? then Work.misuse ("extra operand " ++ Quoted.word extra) 1
  let inGroups := has chosen 'g'
  if inGroups ∧ (has chosen 'c' ∨ has chosen 'd' ∨ has chosen 'D' ∨ has chosen 'u') then
    refuse "--group is mutually exclusive with -c/-d/-D/-u"
  if has chosen 'c' ∧ has chosen 'D' then
    refuse "printing all duplicated lines and repeat counts is meaningless"
  let shown : Shown :=
    { single := !(has chosen 'd' || has chosen 'D')
      one := !has chosen 'u'
      others := has chosen 'D' || inGroups
      counts := has chosen 'c' }
  let ending := if has chosen 'z' then '\x00' else '\n'
  let input := paths.headD ['-']
  match ← Work.open_ input with
  | .error error => Work.fail (Quoted.name input ++ ": " ++ error.words.toList) 1
  | .ok stream =>
    let output ←
      match paths[1]? with
      | none | some ['-'] => pure none
      | some path =>
        match ← Routine.openFile path .replace with
        | .ok stream => pure (some stream)
        | .error error => Work.fail (Quoted.name path ++ ": " ++ error.words.toList) 1
    let plan : Plan := { compared, shown, gap, onlyRepeated := has chosen 'D', ending }
    let act (place : Place) (text : Text) : Work Place :=
      plan.put output ((Text.pieces ending text).foldl plan.take place)
    let (place, error) ← Work.foldLines ending stream (fun _ ↦ false) act {}
    if let some error := error then
      Work.fail ("error reading " ++ Quoted.between input ++ ": " ++ error.words.toList) 1
    let place := plan.close place
    let closing := if gap = .around ∧ ¬ place.isFirst then [[]] else []
    let _ ← plan.put output { place with written := closing ++ place.written }

end Repetition

end AlignmentTally.Command
