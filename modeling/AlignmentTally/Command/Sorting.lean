import AlignmentTally.Command.Noise
import AlignmentTally.Command.Sorting.Key

/-!
# Sorted lines

The command that writes the lines of files in order, or merges files that are in order, or finds out
whether a file is.
-/

namespace AlignmentTally.Command

open Machine

namespace Sorting

/-! ### Keys as they are written -/

/-- Complains about how a key is written, and ends. -/
def refuseKey {α : Type} (words : String) (spec : Text) : Work α :=
  Work.fail (words.toList ++ ": invalid field specification ".toList ++ Quoted.word spec) 2

/-- The number at the start of a part of a key, and what follows. -/
def readCount (words : String) (text : Text) : Work (Nat × Text) :=
  match Amount.start? text with
  | some (n, rest) => return (n, rest)
  | none =>
    Work.fail (words.toList ++ ": invalid count at start of ".toList ++ Quoted.word text) 2

/-- A style with the letters at the start of a text, and what follows them. -/
def readStyle (style : Style) (blanks : BlankEnd) (text : Text) : Style × Text :=
  let letters := text.takeWhile styleLetters.contains
  (letters.foldl (Style.with · blanks) style, text.drop letters.length)

/-- The key that a text describes: where it begins, and where it ends after a comma, each as a field
and a character counted from 1. -/
def readKey (spec : Text) : Work Key := do
  let (field, rest) ← readCount "invalid number at field start" spec
  if field = 0 then refuseKey "field number is zero" spec
  let (char, rest) ←
    match rest with
    | '.' :: rest => do
      let (char, rest) ← readCount "invalid number after '.'" rest
      if char = 0 then refuseKey "character offset is zero" spec
      pure (char, rest)
    | rest => pure (1, rest)
  let (style, rest) := readStyle {} .start rest
  let (last, style, rest) ←
    match rest with
    | ',' :: rest => do
      let (field, rest) ← readCount "invalid number after ','" rest
      if field = 0 then refuseKey "field number is zero" spec
      let (char, rest) ←
        match rest with
        | '.' :: rest => readCount "invalid number after '.'" rest
        | rest => pure (0, rest)
      let (style, rest) := readStyle style .stop rest
      pure (some (field - 1, char), style, rest)
    | rest => pure (none, style, rest)
  if ¬ rest.isEmpty then refuseKey "stray character in field spec" spec
  return { fields := field - 1, chars := char - 1, last, style }

/-- The start of a key in the old form, with the number of fields and of characters before it. -/
def oldStart? (spec : Text) : Option Key := do
  let (fields, rest) ← Amount.start? spec
  let (chars, rest) ←
    match rest with
    | '.' :: rest => Amount.start? rest
    | rest => some (0, rest)
  let (style, rest) := readStyle {} .start rest
  if rest.isEmpty then some { fields, chars, style } else none

/-- A key in the old form with its end. -/
def readOldEnd (key : Key) (spec : Text) : Work Key := do
  let (fields, rest) ← readCount "invalid number after '-'" (spec.drop 1)
  let (chars, rest) ←
    match rest with
    | '.' :: rest => readCount "invalid number after '.'" rest
    | rest => pure (0, rest)
  let (style, rest) := readStyle key.style .stop rest
  if ¬ rest.isEmpty then refuseKey "stray character in field spec" spec
  return { key with last := some (if chars = 0 then fields - 1 else fields, chars), style }

/-- Whether an argument is an option whose text is the next argument. -/
def expectsText (argument : Text) : Bool :=
  match argument with
  | '-' :: letters =>
    let flags := letters.takeWhile "bcCdfghimMnrRsuVz".toList.contains
    match letters.drop flags.length with
    | [letter] => "koStT".toList.contains letter
    | _ => false
  | _ => false

/-- The arguments, with keys in the old form taken out of them, such as `+1 -2`. -/
def splitOld : Nat → List Text → Work (List (Key ⊕ Text))
  | 0, _ => return []
  | rounds + 1, arguments => do
    match arguments with
    | [] => return []
    | ('+' :: spec) :: rest =>
      match oldStart? spec with
      | none => return .inr ('+' :: spec) :: (← splitOld rounds rest)
      | some key =>
        match rest with
        | ('-' :: c :: stop) :: rest =>
          if c.isDigit then
            return .inl (← readOldEnd key ('-' :: c :: stop)) :: (← splitOld rounds rest)
          else return .inl key :: (← splitOld rounds (('-' :: c :: stop) :: rest))
        | rest => return .inl key :: (← splitOld rounds rest)
    | argument :: rest =>
      if expectsText argument then
        return .inr argument :: ((rest.take 1).map .inr ++ (← splitOld rounds (rest.drop 1)))
      else return .inr argument :: (← splitOld rounds rest)

/-! ### Lines -/

/-- Lines of which those that are alike come only once, the first of them. -/
def unique (alike : Text → Text → Bool) : List Text → List Text
  | [] => []
  | [line] => [line]
  | a :: b :: rest =>
    if alike a b then unique alike (a :: rest) else a :: unique alike (b :: rest)
termination_by lines => lines.length

/-- The index of the first line that stands in the wrong order, if any. -/
def disorder? (wrong : Text → Text → Bool) : Nat → List Text → Option (Nat × Text)
  | n, a :: b :: rest => if wrong a b then some (n + 1, b) else disorder? wrong (n + 1) (b :: rest)
  | _, _ => none

/-- Two files of lines as one, each time the line that comes first of the two next ones. -/
def merge (before : Text → Text → Bool) : List Text → List Text → List Text
  | [], bs => bs
  | as, [] => as
  | a :: as, b :: bs =>
    if before b a then b :: merge before (a :: as) bs else a :: merge before as (b :: bs)
termination_by as bs => as.length + bs.length

/-! ### The command -/

/-- How a file is checked. -/
inductive Check where
  /-- The exit status tells whether it is in order. -/
  | quiet
  /-- The first line that is out of order is shown. -/
  | diagnose
  deriving DecidableEq, Repr

/-- The words for how a file is checked. -/
def checks : List (String × Check) :=
  [("quiet", .quiet), ("silent", .quiet), ("diagnose-first", .diagnose)]

/-- The words for how lines are compared. -/
def sortWords : List (String × Char) :=
  [("general-numeric", 'g'), ("human-numeric", 'h'), ("month", 'M'), ("numeric", 'n'),
    ("random", 'R'), ("version", 'V')]

/-- The options of `sort`. -/
def choices : Choices :=
  { letters := "bcCdfghik:mMno:rRsS:t:T:uVy::z"
    words := [("ignore-leading-blanks", 'b'), ("check?", 'c'), ("compress-program=", 'Z'),
      ("dictionary-order", 'd'), ("ignore-case", 'f'), ("files0-from=", 'F'),
      ("general-numeric-sort", 'g'), ("ignore-nonprinting", 'i'), ("key=", 'k'), ("merge", 'm'),
      ("month-sort", 'M'), ("numeric-sort", 'n'), ("human-numeric-sort", 'h'),
      ("version-sort", 'V'), ("random-sort", 'R'), ("random-source=", 'Q'), ("sort=", 'w'),
      ("output=", 'o'), ("reverse", 'r'), ("stable", 's'), ("batch-size=", 'N'),
      ("buffer-size=", 'B'), ("field-separator=", 't'), ("temporary-directory=", 'T'),
      ("unique", 'u'), ("zero-terminated", 'z'), ("parallel=", 'P')]
    status := 2 }

/-- What the options ask for. -/
structure Request where
  /-- The keys, the last one first. -/
  keys : List Key := []
  /-- How lines are compared, and keys about which nothing is said. -/
  usual : Style := {}
  /-- What separates fields. -/
  separator : Option Char := none
  /-- How the file is checked, if that is all. -/
  check : Option Check := none
  /-- Where the lines are written. -/
  output : Option Text := none
  /-- The file with the names of the files. -/
  source : Option Text := none
  /-- The file that the order without any meaning comes from. -/
  noise : Option Text := none

/-- Complains about options that cannot be asked for together, and ends. -/
def refuseTogether {α : Type} (letters : Text) : Work α :=
  Work.fail ("options '-".toList ++ letters ++ "' are incompatible".toList) 2

/-- Checks the number that an option asks for. -/
def checkNumber (option : String) (text : Text) : Work Nat :=
  match Amount.start? text with
  | some (n, []) => return n
  | some _ =>
    Work.fail ("invalid suffix in ".toList ++ option.toList ++ " argument ".toList ++
      Quoted.word text) 2
  | none =>
    Work.fail ("invalid ".toList ++ option.toList ++ " argument ".toList ++ Quoted.word text) 2

/-- The letter of how a file is checked. -/
def Check.letter : Check → Char
  | .quiet => 'C'
  | .diagnose => 'c'

/-- A request with an option. -/
def Request.with (request : Request) (option : Chosen) : Work Request := do
  let (letter, text) := option
  match letter with
  | 'c' | 'C' =>
    let check ←
      if letter = 'C' then pure Check.quiet
      else if text.isEmpty then pure .diagnose
      else meaningOf "--check" checks text
    if request.check.any (· ≠ check) then refuseTogether "cC"
    return { request with check := some check }
  | 'k' => return { request with keys := (← readKey text) :: request.keys }
  | 'o' =>
    if request.output.any (· ≠ text) then Work.fail "multiple output files specified" 2
    return { request with output := some text }
  | 't' =>
    let separator ←
      match text with
      | [] => Work.fail "empty tab" 2
      | [c] => pure c
      | ['\\', '0'] => pure '\x00'
      | text => Work.fail ("multi-character tab " ++ Quoted.word text) 2
    if request.separator.any (· ≠ separator) then Work.fail "incompatible tabs" 2
    return { request with separator := some separator }
  | 'w' =>
    return { request with usual := request.usual.with .both (← meaningOf "--sort" sortWords text) }
  | 'F' => return { request with source := some text }
  | 'Q' =>
    if request.noise.any (· ≠ text) then Work.fail "multiple random sources specified" 2
    return { request with noise := some text }
  | 'P' =>
    if (← checkNumber "--parallel" text) = 0 then Work.fail "number in parallel must be nonzero" 2
    return request
  | 'N' =>
    if (← checkNumber "--batch-size" text) < 2 then
      Work.warn ("invalid --batch-size argument " ++ Quoted.word text)
      Work.fail "minimum --batch-size argument is '2'" 2
    return request
  | 'S' | 'B' =>
    let option : String := if letter = 'S' then "-S" else "--buffer-size"
    let (_, unit) := Amount.digits text
    if (Amount.digits text).1.isEmpty then
      Work.fail ("invalid ".toList ++ option.toList ++ " argument ".toList ++ Quoted.word text) 2
    if ¬ unit.isEmpty ∧ unit ≠ ['%'] ∧ (Amount.sizeIn? "EgGkKmMPtTYZb" text).isNone then
      Work.fail ("invalid suffix in ".toList ++ option.toList ++ " argument ".toList ++
        Quoted.word text) 2
    return request
  | letter =>
    if styleLetters.contains letter then
      return { request with usual := request.usual.with .both letter }
    else return request

/-- The names of files that a file lists, each ending in a zero octet. -/
def listed (source : Text) : Work (List Text) := do
  match ← Work.open_ source with
  | .error error =>
    Work.fail ("open failed: " ++ Quoted.name source ++ ": " ++ error.words.toList) 2
  | .ok stream =>
    match ← Routine.readAll stream with
    | .error _ => Work.fail ("cannot read file names from " ++ Quoted.between source) 2
    | .ok text =>
      Work.close stream
      let names := Text.pieces '\x00' text
      if names.isEmpty then Work.fail ("no input from " ++ Quoted.between source) 2
      for (name, i) in names.zipIdx 1 do
        if source = ['-'] ∧ name = ['-'] then
          Work.fail ("when reading file names from stdin, ".toList ++
            "no file name of '-' allowed".toList) 2
        if name.isEmpty then
          Work.fail (Quoted.name source ++ ':' :: Text.ofNat i ++
            ": invalid zero-length file name".toList) 2
      return names

/-- The lines of a file. -/
def linesOf (ending : Char) (path : Text) : Work (List Text) := do
  match ← Work.open_ path with
  | .error error => Work.fail ("open failed: " ++ Quoted.name path ++ ": " ++ error.words.toList) 2
  | .ok stream =>
    match ← Routine.readAll stream with
    | .error error =>
      Work.fail ("read failed: " ++ Quoted.name path ++ ": " ++ error.words.toList) 2
    | .ok text =>
      Work.close stream
      return Text.pieces ending text

/-- Makes sure that files can be read. -/
def checkInputs (paths : List Text) : Work Unit := do
  for path in paths do
    match ← Work.open_ path with
    | .error error =>
      Work.fail ("cannot read: " ++ Quoted.name path ++ ": " ++ error.words.toList) 2
    | .ok stream => Work.close stream

/-- The plan of a request. -/
def Request.plan (request : Request) (keysOnly : Bool) : Plan :=
  let usual := request.usual
  -- a key about which nothing is said is compared like whole lines
  let keys := request.keys.reverse.map fun key ↦
    if key.style = {} then { key with style := usual } else key
  { keys := if keys.isEmpty ∧ ¬ usual.isPlain then [{ style := usual }] else keys
    separator := request.separator
    keysOnly
    reverse := usual.reverse }

/-- A plan with what the order without any meaning comes from, if there is such an order. -/
def Request.withSalt (request : Request) (plan : Plan) : Work Plan := do
  if ¬ plan.keys.any fun key ↦ key.style.manners.contains .random then return plan
  let noise ← Noise.open_ request.noise "open failed: " 2
  let octets ← noise.octets 2 16 16
  let salt : Salt :=
    if request.noise.isSome then .octets octets
    else .number (octets.foldl (fun n c ↦ n * 256 + c.toNat) 0 % 18446744073709551616)
  return { plan with salt }

/-- Finds out whether the lines of a file are in order. -/
def checkOrder (plan : Plan) (isUnique : Bool) (check : Check) (ending : Char) (path : Text) :
    Work Unit := do
  let wrong (a b : Text) : Bool :=
    match plan.compare a b with
    | .gt => true
    | .eq => isUnique
    | .lt => false
  match disorder? wrong 1 (← linesOf ending path) with
  | none => return
  | some (n, line) =>
    if check = .diagnose then
      Work.warn (path ++ ":" ++ Text.ofNat n ++ ": disorder: " ++ line)
    Work.leave 1

/-- Writes the lines of files in order. -/
def sort (arguments : List Text) : Work Unit := do
  let parts ← splitOld (arguments.length + 1) arguments
  let oldKeys := parts.filterMap fun part ↦
    match part with
    | .inl key => some key
    | .inr _ => none
  let (chosen, operands) ← choices.take <| parts.filterMap fun part ↦
    match part with
    | .inl _ => none
    | .inr argument => some argument
  let mut request : Request := { keys := oldKeys.reverse }
  for option in chosen do request ← request.with option
  if request.source.isSome then
    if let extra :: _ := operands then
      Work.warn ("extra operand " ++ Quoted.between extra)
      Work.say "file operands cannot be combined with --files0-from\n"
      Work.advise 2
  let paths ←
    match request.source with
    | some source => listed source
    | none => pure (if operands.isEmpty then [['-']] else operands)
  let isUnique := has chosen 'u'
  let plan := request.plan (has chosen 's' || isUnique)
  for key in plan.keys do
    if let some letters := key.style.clash? then refuseTogether letters
  let plan ← request.withSalt plan
  let ending := if has chosen 'z' then '\x00' else '\n'
  if let some check := request.check then
    if let some second := paths[1]? then
      Work.fail ("extra operand ".toList ++ Quoted.between second ++ " not allowed with -".toList ++
        [check.letter]) 2
    if request.output.isSome then refuseTogether [check.letter, 'o']
    checkOrder plan isUnique check ending (paths.headD ['-'])
    Work.leave 0
  checkInputs (paths.filter (· ≠ ['-']))
  let output ←
    match request.output with
    | none => pure none
    | some path =>
      match ← Routine.openFile path .append with
      | .ok stream => pure (some (path, stream))
      | .error error =>
        Work.fail ("open failed: " ++ Quoted.name path ++ ": " ++ error.words.toList) 2
  let mut files : List (List Text) := []
  for path in paths do files := (← linesOf ending path) :: files
  let inputs := files.reverse
  let sorted :=
    if has chosen 'm' then inputs.foldl (merge fun a b ↦ plan.compare a b = .lt) []
    else inputs.flatten.mergeSort fun a b ↦ plan.compare a b ≠ .gt
  let sorted := if isUnique then unique (fun a b ↦ plan.compare a b = .eq) sorted else sorted
  let text := sorted.flatMap (· ++ [ending])
  match output with
  | none => Work.put text
  | some (path, stream) =>
    Routine.close stream
    match ← Routine.openFile path .replace with
    | .ok stream =>
      let _ ← Routine.write stream text
    | .error error =>
      Work.fail ("open failed: " ++ Quoted.name path ++ ": " ++ error.words.toList) 2

end Sorting

end AlignmentTally.Command
