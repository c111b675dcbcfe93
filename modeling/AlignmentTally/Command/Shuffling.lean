import AlignmentTally.Command.Noise

/-!
# Shuffling

The command that writes lines, arguments or numbers in an order by chance, all of them, some of them,
or some again and again. Chance comes from the octets of a file, so that the same octets lead to the
same order.
-/

/-!
### Numbers by chance

Numbers up to some greatest one that are drawn from octets, all of them alike if the octets are. What
an octet says beyond the number drawn is kept for the next one.
-/

namespace AlignmentTally

/-- What is kept of octets: a number that is as likely as any other up to the greatest one. -/
structure Chance where
  /-- The number. -/
  number : Nat := 0
  /-- The greatest number that it could be. -/
  greatest : Nat := 0
  deriving Repr

namespace Chance

/-- A number with one more octet at its end, in 64 bits. -/
def shift (n octet : Nat) : Nat := (n * 256 + octet) % 18446744073709551616

/-- The number of octets that are missing before numbers up to some greatest one can be drawn. -/
def missing (most greatest : Nat) : Nat → Nat
  | 0 => 0
  | rounds + 1 => if greatest < most then missing most (shift greatest 255) rounds + 1 else 0

/-- What is kept of octets and those that follow. -/
def extend (chance : Chance) (octets : List Nat) : Chance :=
  octets.foldl (fun ⟨number, greatest⟩ octet ↦ ⟨shift number octet, shift greatest 255⟩) chance

/-- Draws a number up to some greatest one. If what is kept is above the last multiple of the count of
such numbers, nothing is drawn, for then the small ones would be more likely. -/
def draw (chance : Chance) (most : Nat) : Option Nat × Chance :=
  if chance.greatest = most then (some chance.number, {})
  else
    let excess := chance.greatest - most
    let useless := excess % (most + 1)
    let last := chance.greatest - useless
    if chance.number ≤ last then
      (some (chance.number % (most + 1)), ⟨chance.number / (most + 1), excess / (most + 1)⟩)
    else (none, ⟨chance.number - (last + 1), useless - 1⟩)

end Chance

end AlignmentTally

namespace AlignmentTally.Command

open Machine

namespace Shuffling

/-- Draws a number up to some greatest one, in at most some rounds. -/
def draw (noise : Noise) (most : Nat) : Nat → Chance → Work (Nat × Chance)
  | 0, chance => return (0, chance)
  | rounds + 1, chance => do
    let missing := Chance.missing most chance.greatest 9
    let text ← noise.octets 1 missing missing
    match (chance.extend (text.map Char.toNat)).draw most with
    | (some n, chance) => return (n, chance)
    | (none, chance) => draw noise most rounds chance

/-- The first of some things in an order by chance, each drawn among those that are left. -/
def firstOf {α : Type} (noise : Noise) (count : Nat) (items : Array α) (chance : Chance) :
    Work (Array α) := do
  let mut items := items
  let mut chance := chance
  for i in [0 : count] do
    let (n, next) ← draw noise (items.size - i - 1) endless chance
    items := items.swapIfInBounds i (i + n)
    chance := next
  return items.take count

/-- Some of many things: once there are enough of them, each other one takes the place of one of
those, or of none, by chance. -/
def someOf (noise : Noise) (count : Nat) (lines : List Text) :
    Work (Array Text × Chance) := do
  let mut kept := (lines.take count).toArray
  let mut chance : Chance := {}
  if kept.size < count then return (kept, chance)
  let others := lines.drop count
  -- a number is drawn for the line after the last one, too
  for i in [count : count + others.length + 1] do
    let (n, next) ← draw noise i endless chance
    if let some line := others[i - count]? then kept := kept.setIfInBounds n line
    chance := next
  return (kept, chance)

/-- The first of the numbers below some number in an order by chance. Instead of all numbers only
those are kept that were moved from their places. -/
def fewBelow (noise : Noise) (whole : Nat) :
    Nat → Nat → List (Nat × Nat) → Chance → List Nat → Work (List Nat)
  | 0, _, _, _, drawn => return drawn.reverse
  | count + 1, place, moved, chance, drawn => do
    let (n, chance) ← draw noise (whole - place - 1) endless chance
    let there (place : Nat) : Nat := (moved.lookup place).getD place
    fewBelow noise whole count (place + 1) ((place + n, there place) :: moved) chance
      (there (place + n) :: drawn)

/-- The first of the numbers below some number in an order by chance. -/
def firstBelow (noise : Noise) (count whole : Nat) : Work (List Nat) := do
  if count * 64 < whole then fewBelow noise whole count 0 [] {} []
  else return (← firstOf noise count (Array.range whole) {}).toList

/-- Writes one of some things by chance, again and again. -/
def again (noise : Noise) (whole : Nat) (item : Nat → Text) : Nat → Chance → Work Unit
  | 0, _ => return ()
  | rounds + 1, chance => do
    let (n, chance) ← draw noise (whole - 1) endless chance
    Work.put (item n)
    if (← get).broken.isSome then return ()
    again noise whole item rounds chance

/-! ### What is asked for -/

/-- What is shuffled. -/
inductive Stock where
  /-- The lines of a file. -/
  | lines
  /-- The arguments. -/
  | arguments
  /-- The numbers from one to another, if there are any. -/
  | numbers (least most : Nat)
  deriving DecidableEq

/-- What is asked for. -/
structure Plan where
  /-- What is shuffled. -/
  stock : Stock := .lines
  /-- Whether arguments were asked for. -/
  echoes : Bool := false
  /-- How many are written at most. -/
  count : Option Nat := none
  /-- Where they are written. -/
  output : Option Text := none
  /-- The file that chance comes from. -/
  source : Option Text := none
  /-- Whether each may be written several times. -/
  repeats : Bool := false
  /-- What ends a line. -/
  lineEnd : Char := '\n'

/-- The numbers that a text asks for. -/
def readNumbers (text : Text) : Work Stock := do
  let number (text : Text) : Work Nat :=
    numberWithin "invalid input range".toList "" 0 Amount.greatest text
  let start := text.takeWhile (· ≠ '-')
  match text.drop start.length with
  | [] =>
    let _ ← number text
    Work.fail ("invalid input range: " ++ Quoted.word text) 1
  | _ :: stop =>
    let least ← number start
    let most ← number stop
    -- no numbers at all are asked for by a range that ends one before it begins
    if most + 1 < least ∨ most - least = Amount.greatest then
      Work.fail ("invalid input range: " ++ Quoted.word text) 1
    return .numbers least most

/-- A plan with one more option. -/
def withOption (plan : Plan) (letter : Char) (text : Text) : Work Plan := do
  match letter with
  | 'e' => return { plan with echoes := true }
  | 'i' =>
    if plan.stock ≠ .lines then Work.fail "multiple -i options specified" 1
    return { plan with stock := ← readNumbers text }
  | 'n' =>
    match Amount.sizeIn? "" text with
    | some n =>
      return { plan with
        count := if Amount.greatest < n then plan.count else some (min n (plan.count.getD n)) }
    | none => Work.fail ("invalid line count: " ++ Quoted.word text) 1
  | 'o' =>
    if plan.output.any (· ≠ text) then Work.fail "multiple output files specified" 1
    return { plan with output := some text }
  | 'r' => return { plan with repeats := true }
  | 's' =>
    if plan.source.any (· ≠ text) then Work.fail "multiple random sources specified" 1
    return { plan with source := some text }
  | _ => return { plan with lineEnd := '\x00' }

/-- How long a file is at least of which lines are not all kept. -/
def longFile : Nat := 8388608

/-- Lets the output go to the file that was asked for. -/
def openOutput (plan : Plan) : Work Unit := do
  let some path := plan.output | return
  match ← Routine.openFile path .replace with
  | .ok stream =>
    let _ ← Routine.lead 1 stream
    Routine.close stream
  | .error error => Work.fail (Quoted.name path ++ ": " ++ error.words) 1

/-- The lines that are shuffled, and whether they are too many to keep them all. -/
def linesOf (plan : Plan) (operands : List Text) : Work (List Text × Bool) := do
  if plan.echoes then return (operands, false)
  let path := operands.headD ['-']
  match ← Work.open_ path with
  | .error error => Work.fail (Quoted.name path ++ ": " ++ error.words) 1
  | .ok stream =>
    let file? ← Routine.fileOf? stream
    let isLong ← Routine.look fun _ disk ↦
      file?.elim true fun number ↦ longFile < (disk.get number).octets.size
    match ← Routine.readAll stream with
    | .error error => Work.fail ("read error: " ++ error.words) 1
    | .ok text =>
      return (Text.pieces plan.lineEnd text, isLong && !plan.repeats && plan.count.isSome)

end Shuffling

open Shuffling in
/-- Writes lines, arguments or numbers in an order by chance. -/
def shuf (arguments : List Text) : Work Unit := do
  let (chosen, operands) ← Choices.take
    { letters := "ei:n:o:rz"
      words := [("echo", 'e'), ("input-range=", 'i'), ("head-count=", 'n'), ("output=", 'o'),
        ("random-source=", 's'), ("repeat", 'r'), ("zero-terminated", 'z')] } arguments
  let mut plan : Plan := {}
  for (letter, text) in chosen do plan ← withOption plan letter text
  if plan.echoes ∧ plan.stock ≠ .lines then Work.misuse "cannot combine -e and -i options" 1
  let most := if plan.stock ≠ .lines then 0 else 1
  if let some extra := operands[most]? then
    if ¬ plan.echoes then Work.misuse ("extra operand " ++ Quoted.word extra) 1
  if plan.count = some 0 then
    let _ ← Noise.open_ plan.source [] 1
    openOutput plan
    return
  let line (text : Text) : Text := text ++ [plan.lineEnd]
  let none_ : Work Unit := Work.fail "no lines to repeat" 1
  match plan.stock with
  | .numbers least last =>
    let whole := last + 1 - least
    let noise ← Noise.open_ plan.source [] 1
    openOutput plan
    if plan.repeats then
      if whole = 0 then none_
      again noise whole (fun n ↦ line (Text.ofNat (least + n))) (plan.count.getD endless) {}
    else
      for n in ← firstBelow noise (min whole (plan.count.getD whole)) whole do
        Work.put (line (Text.ofNat (least + n)))
  | _ =>
    let (lines, isLong) ← linesOf plan operands
    let noise ← Noise.open_ plan.source [] 1
    if plan.repeats then
      openOutput plan
      if lines.isEmpty then none_
      let items := lines.toArray
      again noise items.size (fun n ↦ line ((items[n]?).getD [])) (plan.count.getD endless) {}
    else
      let count := plan.count.getD lines.length
      let (items, chance) ←
        if isLong then someOf noise count lines else pure (lines.toArray, {})
      let items ← firstOf noise (min count items.size) items chance
      openOutput plan
      for item in items do Work.put (line item)

end AlignmentTally.Command
