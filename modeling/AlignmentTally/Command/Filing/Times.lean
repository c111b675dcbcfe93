import AlignmentTally.Command.Filing.Making
import AlignmentTally.Command.Present

/-!
# The times of files

A file has the time when it was changed last, and when it was read last. Both can be set to another
point in time.
-/

namespace AlignmentTally.Command.Filing

open Machine

/-- The point in time that digits write: two for each of month, day, hour and minute, after the year
if there are more of them, and before a point and the second. -/
def stamp? (zone : Zone) (now : Instant) (text : Text) : Option Instant := do
  let digits := text.takeWhile (· ≠ '.')
  let rest := text.drop digits.length
  let second ←
    match rest with
    | [] => some 0
    | [_, a, b] => if a.isDigit ∧ b.isDigit then some (Text.natOfDigits 10 [a, b]) else none
    | _ => none
  if ¬ digits.all Char.isDigit ∨ ¬ [8, 10, 12].contains digits.length then failure
  let (front, digits) := digits.splitAt (digits.length - 8)
  let part (i : Nat) : Nat := Text.natOfDigits 10 ((digits.drop (2 * i)).take 2)
  let year : Int :=
    match front.length with
    | 0 => (Civil.ofInstant zone now).date.year
    | 2 =>
      let n := Text.natOfDigits 10 front
      if n < 69 then n + 2000 else n + 1900
    | _ => Text.natOfDigits 10 front
  let date : Date := { year, month := part 0, day := part 1 }
  if Date.ofDays date.toDays ≠ date ∨ 23 < part 2 ∨ 59 < part 3 ∨ 60 < second then failure
  return { seconds :=
    date.toDays * 86400 + (part 2 * 3600 + part 3 * 60 + second : Nat) - zone.ahead }

/-- The microseconds since 1970-01-01 that a point in time is. -/
def microsecondsOf (instant : Instant) : Nat :=
  (instant.seconds * 1000000).toNat + instant.nanoseconds / 1000

/-- Which of the times of files are set. -/
inductive Times where
  /-- When they were read. -/
  | read
  /-- When they were changed. -/
  | changed
  deriving DecidableEq, Repr

/-- The words for the times of files. -/
def timeWords : List (String × Times) :=
  [("atime", .read), ("access", .read), ("use", .read), ("mtime", .changed),
    ("modify", .changed)]

/-- When files are said to have been read and changed, unless it is now. -/
def timesOf (chosen : List Chosen) : Work (Option (Nat × Nat)) := do
  let zone ← Present.ownZone
  let now ← Present.present
  let mut stamp : Option Nat := none
  for (letter, text) in chosen do
    if letter = 't' then
      match stamp? zone now text with
      | some instant => stamp := some (microsecondsOf instant)
      | none => Work.fail ("invalid date format ".toList ++ Quoted.word text) 1
  if stamp.isSome ∧ (has chosen 'r' ∨ has chosen 'd') then
    Work.misuse "cannot specify times from more than one source" 1
  let reference ←
    match last? chosen 'r' with
    | none => pure none
    | some path =>
      match ← lookAt (!has chosen 'h') path with
      | .ok file => pure (some (file.accessed, file.changed))
      | .error error =>
        Work.fail ("failed to get attributes of " ++ quoted path ++ ": " ++ error.words) 1
  match last? chosen 'd' with
  | none => return (stamp.map fun time ↦ (time, time)).or reference
  | some text =>
    let read (from_ : Instant) : Work Nat :=
      match Clock.read? zone from_ text with
      | some instant => return microsecondsOf instant
      | none => Work.fail ("invalid date format ".toList ++ Quoted.word text) 1
    let (accessed, changed) : Instant × Instant :=
      reference.elim (now, now) fun (accessed, changed) ↦
        (Present.instantOf accessed, Present.instantOf changed)
    return some (← read accessed, ← read changed)

/-- Sets when files were read and changed; makes them if they are missing. -/
def touch (arguments : List Text) : Work Unit := do
  let (chosen, paths) ← Choices.take
    { letters := "acd:fhmr:t:"
      words := [("no-create", 'c'), ("date=", 'd'), ("no-dereference", 'h'), ("reference=", 'r'),
        ("time=", 'T')] } arguments
  let mut times : List Times := []
  for (letter, text) in chosen do
    match letter with
    | 'a' => times := .read :: times
    | 'm' => times := .changed :: times
    | 'T' => times := (← meaningOf "--time" timeWords text) :: times
    | _ => pure ()
  let times? ← timesOf chosen
  if paths.isEmpty then Work.misuse "missing file operand" 1
  let sets (time : Times) : Bool := times.isEmpty || times.contains time
  let mark (disk : Disk) (now number : Nat) : Disk :=
    let file := disk.get number
    let (accessed, changed) := times?.getD (now, now)
    disk.set number { file with
      accessed := if sets .read then accessed else file.accessed
      changed := if sets .changed then changed else file.changed }
  let follow := !has chosen 'h'
  for path in paths do
    if path = ['-'] then
      match (← Routine.self).streams.lookup 1 with
      | some (.file number) =>
        let _ ← Routine.change fun _ now disk ↦ .ok (mark disk now number)
      | some _ => pure ()
      | none => if ¬ has chosen 'c' then complainTo "setting times of" path .badStream
    else
      match ← lookAt follow path with
      | .ok _ =>
        let _ ← Routine.change fun directory now disk ↦ do
          return mark disk now (← disk.findWith follow directory path)
      | .error error =>
        if has chosen 'c' ∧ error = .notFound then pure ()
        else if has chosen 'c' ∨ ¬ follow ∨ error = .notFound ∧ path.getLast? = some '/' then
          complainTo "setting times of" path error
        else
          match ← Routine.change fun directory now disk ↦ do
              let (disk, number) ← disk.make now directory path
              return mark disk now number with
          | .ok () => pure ()
          | .error error => complainTo "cannot touch" path error

end AlignmentTally.Command.Filing
