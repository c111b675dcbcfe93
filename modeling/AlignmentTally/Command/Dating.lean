import AlignmentTally.Command.Filing.Times

/-!
# Dates and times

A date that is given, or that of a file, or the present, is written in a layout.
-/

namespace AlignmentTally.Command

open Machine

namespace Dating

open Present

/-- How much of a time is written after a date. -/
inductive Precision where
  /-- Hours. -/
  | hours
  /-- Hours and minutes. -/
  | minutes
  /-- Nothing. -/
  | date
  /-- All but the fraction of a second. -/
  | seconds
  /-- All. -/
  | nanoseconds
  deriving DecidableEq, Repr

/-- The words for precisions. -/
def precisions : List (String × Precision) :=
  [("hours", .hours), ("minutes", .minutes), ("date", .date), ("seconds", .seconds),
    ("ns", .nanoseconds)]

/-- The layout of a date and a time with the zone. `isTight` says that a letter stands between
them. -/
def layoutOf (isTight : Bool) (precision : Precision) : String :=
  let gap := if isTight then "T" else " "
  match precision with
  | .date => "%Y-%m-%d"
  | .hours => "%Y-%m-%d" ++ gap ++ "%H%:z"
  | .minutes => "%Y-%m-%d" ++ gap ++ "%H:%M%:z"
  | .seconds => "%Y-%m-%d" ++ gap ++ "%H:%M:%S%:z"
  | .nanoseconds =>
    "%Y-%m-%d" ++ gap ++ "%H:%M:%S" ++ (if isTight then "," else ".") ++ "%N%:z"

/-- The layout unless one is given. -/
def usualLayout : String := "%a %b %e %H:%M:%S %Z %Y"

/-- A layout in which a fraction that is not filled has all digits. -/
def withDigits : Text → Text
  | '%' :: '-' :: 'N' :: rest => '%' :: '9' :: 'N' :: withDigits rest
  | '%' :: '%' :: rest => '%' :: '%' :: withDigits rest
  | c :: rest => c :: withDigits rest
  | [] => []

/-- Writes a point in time in a layout. -/
def put (zone : Zone) (layout : Text) (instant : Instant) : Work Unit :=
  Work.putLine ((Civil.ofInstant zone instant).inLayout (withDigits layout))

/-- Writes a date and a time. -/
def date (arguments : List Text) : Work Unit := do
  let (chosen, operands) ← Choices.take
    { letters := "d:f:I::r:Rs:u"
      words := [("date=", 'd'), ("debug", 'D'), ("file=", 'f'), ("iso-8601?", 'I'),
        ("reference=", 'r'), ("resolution", 'p'), ("rfc-822", 'R'), ("rfc-2822", 'R'),
        ("rfc-email", 'R'), ("rfc-3339=", '3'), ("set=", 's'), ("uct", 'u'), ("utc", 'u'),
        ("universal", 'u')] }
    arguments
  let mut layout? : Option Text := none
  for (letter, text) in chosen do
    let layout : Option String ←
      match letter with
      | 'R' => pure (some "%a, %d %b %Y %H:%M:%S %z")
      | 'I' =>
        if text.isEmpty then pure (some (layoutOf true .date))
        else pure (some (layoutOf true (← meaningOf "--iso-8601" precisions text)))
      | '3' => pure (some (layoutOf false (← meaningOf "--rfc-3339" (precisions.drop 2) text)))
      | _ => pure none
    if let some layout := layout then
      if layout?.isSome then Work.fail "multiple output formats specified" 1
      layout? := some layout.toList
  let given := ['d', 'f', 'r', 'p'].filter (has chosen)
  if 1 < given.length then
    Work.misuse "the options to specify dates for printing are mutually exclusive" 1
  if let some extra := operands[1]? then Work.misuse ("extra operand " ++ Quoted.word extra) 1
  let mut setting : Option Text := last? chosen 's'
  if setting.isSome ∧ ¬ given.isEmpty then
    Work.misuse "the options to print and set the time may not be used together" 1
  match operands with
  | ('+' :: layout) :: _ =>
    if layout?.isSome then Work.fail "multiple output formats specified" 1
    layout? := some layout
  | operand :: _ =>
    if ¬ given.isEmpty ∨ setting.isSome then
      Work.misuse ("the argument ".toList ++ Quoted.word operand ++
        " lacks a leading '+';\nwhen using an option to specify date(s), any non-option\n".toList ++
        "argument must be a format string beginning with '+'".toList) 1
    Work.fail ("invalid date ".toList ++ Quoted.word operand) 1
  | [] => pure ()
  let layout := layout?.getD usualLayout.toList
  let zone : Zone ← if has chosen 'u' then pure {} else ownZone
  if let some path := last? chosen 'f' then
    let text ←
      match ← Work.open_ path with
      | .error error => Work.fail (Quoted.name path ++ ": " ++ error.words) 1
      | .ok stream => pure ((← Routine.readAll stream).toOption.getD [])
    for line in Text.lines text do
      match ← read? zone line with
      | some instant => put zone layout instant
      | none => Work.complain ("invalid date ".toList ++ Quoted.word line)
    return
  if let some path := last? chosen 'r' then
    match ← Filing.lookAt true path with
    | .ok file => put zone layout (instantOf file.changed)
    | .error error => Work.fail (Quoted.name path ++ ": " ++ error.words) 1
    return
  match (last? chosen 'd').or setting with
  | none => put zone layout (← present)
  | some text =>
    match ← read? zone text with
    | none => Work.fail ("invalid date ".toList ++ Quoted.word text) 1
    | some instant =>
      if setting.isSome then Work.complain "cannot set date: Operation not permitted"
      put zone layout instant

end Dating

end AlignmentTally.Command
