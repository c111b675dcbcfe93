import AlignmentTally.Command.Filing.Making
import AlignmentTally.Machine.Text
import AlignmentTally.Number.Layout
import AlignmentTally.Number.Scaled

/-!
# Copying block by block

The command that copies a file in blocks and changes it on the way. What is read at once is a block of
the input, and what is written at once is one of the output. Unless the size of both is given as one
number, the blocks of the output are filled up from those of the input. At the end it is told how many
blocks were full and how many were not.
-/

/-!
### The other alphabet

Two alphabets give octets to the same characters. A table tells for each octet of the usual one which
octet the other one has; no two octets have the same, so that the way back is the table read from
right to left. A variant of the table differs in a few places, and has no way back.
-/

namespace AlignmentTally.Command.Ebcdic

open Machine

/-- The octets of the other alphabet, in the order of those of the usual one. -/
def table : List Nat :=
  [0, 1, 2, 3, 55, 45, 46, 47, 22, 5, 37, 11, 12, 13, 14, 15, 16, 17, 18, 19, 60, 61, 50, 38, 24,
    25, 63, 39, 28, 29, 30, 31, 64, 90, 127, 123, 91, 108, 80, 125, 77, 93, 92, 78, 107, 96, 75,
    97, 240, 241, 242, 243, 244, 245, 246, 247, 248, 249, 122, 94, 76, 126, 110, 111, 124, 193,
    194, 195, 196, 197, 198, 199, 200, 201, 209, 210, 211, 212, 213, 214, 215, 216, 217, 226,
    227, 228, 229, 230, 231, 232, 233, 173, 224, 189, 154, 109, 121, 129, 130, 131, 132, 133,
    134, 135, 136, 137, 145, 146, 147, 148, 149, 150, 151, 152, 153, 162, 163, 164, 165, 166,
    167, 168, 169, 192, 79, 208, 95, 7, 32, 33, 34, 35, 36, 21, 6, 23, 40, 41, 42, 43, 44, 9, 10,
    27, 48, 49, 26, 51, 52, 53, 54, 8, 56, 57, 58, 59, 4, 20, 62, 225, 65, 66, 67, 68, 69, 70,
    71, 72, 73, 81, 82, 83, 84, 85, 86, 87, 88, 89, 98, 99, 100, 101, 102, 103, 104, 105, 112,
    113, 114, 115, 116, 117, 118, 119, 120, 128, 138, 139, 140, 141, 142, 143, 144, 106, 155,
    156, 157, 158, 159, 160, 170, 171, 172, 74, 174, 175, 176, 177, 178, 179, 180, 181, 182, 183,
    184, 185, 186, 187, 188, 161, 190, 191, 202, 203, 204, 205, 206, 207, 218, 219, 220, 221,
    222, 223, 234, 235, 236, 237, 238, 239, 250, 251, 252, 253, 254, 255]

/-- The octets for which the variant differs, with those that it has for them. -/
def variant : List (Nat × Nat) := [(94, 95), (126, 161), (203, 154), (213, 173), (229, 189)]

/-- A character in the other alphabet. -/
def encode (c : Char) : Char := .ofNat (table[c.toNat]?.getD 0)

/-- A character in the variant of the other alphabet. -/
def encodeVariant (c : Char) : Char := ((variant.lookup c.toNat).map Char.ofNat).getD (encode c)

/-- A character of the other alphabet in the usual one. -/
def decode (c : Char) : Char := .ofNat (table.idxOf c.toNat)

end AlignmentTally.Command.Ebcdic

namespace AlignmentTally.Command

open Machine

namespace Blocks

/-! ### What is asked for -/

/-- What is done to the octets, or to the files. -/
inductive Conversion where
  /-- They are put into the usual alphabet. -/
  | ascii
  /-- They are put into the other alphabet. -/
  | ebcdic
  /-- They are put into a variant of the other alphabet. -/
  | ibm
  /-- Lines become records of one size. -/
  | block
  /-- Records of one size become lines. -/
  | unblock
  /-- Letters become small. -/
  | lower
  /-- Letters become great. -/
  | upper
  /-- Octets change places in pairs. -/
  | swap
  /-- Zeros are not written. -/
  | sparse
  /-- Errors of reading do not end it. -/
  | goesOn
  /-- The output is not made. -/
  | noMaking
  /-- The output has to be made. -/
  | onlyMaking
  /-- The output is not cut off. -/
  | keeps
  /-- Blocks of the input are filled up. -/
  | pad
  /-- The output is on the disk at the end. -/
  | settle
  deriving DecidableEq, Repr

/-- The conversions under their names. -/
def conversions : List (String × Conversion) :=
  [("ascii", .ascii), ("ebcdic", .ebcdic), ("ibm", .ibm), ("block", .block),
    ("unblock", .unblock), ("lcase", .lower), ("ucase", .upper), ("sparse", .sparse),
    ("swab", .swap), ("noerror", .goesOn), ("nocreat", .noMaking), ("excl", .onlyMaking),
    ("notrunc", .keeps), ("sync", .pad), ("fdatasync", .settle), ("fsync", .settle)]

/-- How files are opened and blocks counted. -/
inductive Flag where
  /-- The output is written at its end. -/
  | append
  /-- Blocks are read until they are full. -/
  | fullBlock
  /-- The number of blocks is one of octets. -/
  | countOctets
  /-- The number of blocks that are left out of the input is one of octets. -/
  | skipOctets
  /-- The number of blocks that are left out of the output is one of octets. -/
  | seekOctets
  /-- The input has to be a directory. -/
  | directory
  /-- The disk is used without delay. -/
  | direct
  /-- What was used is forgotten. -/
  | noCache
  /-- Nothing that shows. -/
  | idle
  deriving DecidableEq, Repr

/-- The flags under their names. -/
def flags : List (String × Flag) :=
  [("append", .append), ("direct", .direct), ("directory", .directory), ("dsync", .idle),
    ("noatime", .idle), ("nocache", .noCache), ("noctty", .idle), ("nofollow", .idle),
    ("nonblock", .idle), ("sync", .idle), ("fullblock", .fullBlock),
    ("count_bytes", .countOctets), ("skip_bytes", .skipOctets), ("seek_bytes", .seekOctets)]

/-- How much is told at the end. -/
inductive Report where
  /-- All. -/
  | all
  /-- Nothing. -/
  | nothing
  /-- Only the numbers of blocks. -/
  | blocks
  deriving DecidableEq, Repr

/-- The reports under their names. -/
def reports : List (String × Report) :=
  [("none", .nothing), ("noxfer", .blocks), ("progress", .all)]

/-- A number of blocks, or of octets. -/
structure Extent where
  /-- The number. -/
  count : Nat
  /-- Whether it is one of octets. -/
  isOctets : Bool := false

/-- What is asked for. -/
structure Plan where
  /-- The file that is read, by default the input. -/
  source : Option Text := none
  /-- The file that is written, by default the output. -/
  target : Option Text := none
  /-- The size of a block of the input. -/
  inputSize : Nat := 512
  /-- The size of a block of the output. -/
  outputSize : Nat := 512
  /-- The size of both, if it is given as one number. -/
  bothSize : Option Nat := none
  /-- The size of a record. -/
  recordSize : Nat := 0
  /-- What is left out of the input. -/
  skip : Extent := ⟨0, false⟩
  /-- What is left out of the output. -/
  seek : Extent := ⟨0, false⟩
  /-- How much is copied, if not all. -/
  count : Option Extent := none
  /-- What is done on the way. -/
  conversions : List Conversion := []
  /-- How the input is read. -/
  inputFlags : List Flag := []
  /-- How the output is written. -/
  outputFlags : List Flag := []
  /-- How much is told. -/
  report : Report := .all

namespace Plan

/-- Whether something is done on the way. -/
def does (plan : Plan) (conversion : Conversion) : Bool := plan.conversions.contains conversion

/-- Whether blocks of the output are filled up from those of the input. -/
def collects (plan : Plan) : Bool :=
  plan.bothSize.isNone || [.ascii, .ebcdic, .ibm, .block, .unblock, .lower, .upper, .swap].any
    plan.does

/-- Whether lines become records. -/
def makesRecords (plan : Plan) : Bool :=
  plan.recordSize ≠ 0 && [.block, .ebcdic, .ibm].any plan.does

/-- Whether records become lines. -/
def makesLines (plan : Plan) : Bool :=
  plan.recordSize ≠ 0 && [.unblock, .ascii].any plan.does

/-- The name of the input. -/
def sourceName (plan : Plan) : Text := plan.source.getD "standard input"

/-- The name of the output. -/
def targetName (plan : Plan) : Text := plan.target.getD "standard output"

/-- A character as it is put into another alphabet or case. -/
def translate (plan : Plan) (c : Char) : Char :=
  let c := if plan.does .ascii then Ebcdic.decode c else c
  let c :=
    if plan.does .upper then c.toUpper else if plan.does .lower then c.toLower else c
  if plan.does .ebcdic then Ebcdic.encode c
  else if plan.does .ibm then Ebcdic.encodeVariant c
  else c

/-- A character of the usual alphabet as it is written. -/
def sign (plan : Plan) (c : Char) : Char :=
  if plan.does .ebcdic then Ebcdic.encode c
  else if plan.does .ibm then Ebcdic.encodeVariant c
  else c

/-- The octets that are left out of the output. -/
def seekOctets (plan : Plan) : Nat :=
  if plan.seek.isOctets then plan.seek.count else plan.seek.count * plan.outputSize

/-- The octets that are left out of the input. -/
def skipOctets (plan : Plan) : Nat :=
  if plan.skip.isOctets then plan.skip.count else plan.skip.count * plan.inputSize

/-- The number of full blocks that are read, and the size of one more. -/
def limits (plan : Plan) : Option (Nat × Nat) :=
  plan.count.map fun count ↦
    if count.isOctets then (count.count / plan.inputSize, count.count % plan.inputSize)
    else (count.count, 0)

end Plan

/-- The greatest number that is counted with. -/
def greatest : Nat := 9223372036854775807

/-- The number that a text writes, perhaps with a unit, or as a product, and what follows a part that
cannot be read. The second result tells of factors that are zero by mistake. -/
def number? : Nat → Text → Option (Nat × Nat)
  | 0, _ => none
  | rounds + 1, text => do
    if (text.dropWhile isSpace).head? = some '-' then none
    let units := "bcEGkKMPTwYZ"
    let (n, rest) ← match Amount.start? text with
      | some found => some found
      | none =>
        if text.head?.any units.toList.contains then some (1, text) else none
    let (n, rest) :=
      match Amount.unit? units rest with
      | some (worth, rest) => (n * worth, rest)
      | none => (n, rest)
    let before := (text.take (text.length - rest.length)).getLast?
    let rest := if rest.head? = some 'B' ∧ before ≠ some 'B' then rest.drop 1 else rest
    match rest with
    | [] => some (n, 0)
    | 'x' :: more =>
      let (m, warnings) ← number? rounds more
      let isMistake := n * m = 0 ∧ Text.beginsWith text ['0', 'x']
      some (n * m, if isMistake then warnings + 1 else warnings)
    | _ => none
where
  /-- Whether a character is a blank. -/
  isSpace (c : Char) : Bool := " \t\n\x0b\x0c\r".toList.contains c

/-- The number that an operand gives, at least some. -/
def numberOf (least : Nat) (text : Text) : Work Nat := do
  match number? (text.length + 1) text with
  | none => Work.fail ("invalid number: " ++ Quoted.word text) 1
  | some (n, warnings) =>
    for _ in List.range warnings do
      Work.warn "warning: '0x' is a zero multiplier; use '00x' if that is intended"
    if n < least then Work.fail ("invalid number: " ++ Quoted.word text) 1
    if greatest < n then
      Work.fail ("invalid number: " ++ Quoted.word text ++
        ": Value too large for defined data type") 1
    return n

/-- What names between commas stand for. -/
def meanings {α : Type} (kind : Text) (names : List (String × α)) (text : Text) : Work (List α) :=
  (Text.splitOn ',' text).mapM fun name ↦
    match names.lookup (String.ofList name) with
    | some meaning => return meaning
    | none => Work.misuse ("invalid " ++ kind ++ ": " ++ Quoted.word name) 1

/-- A plan with one more operand. -/
def withOperand (plan : Plan) (name value : Text) : Work Plan := do
  let extent : Work Extent := do
    return ⟨← numberOf 0 value, value.contains 'B'⟩
  match String.ofList name with
  | "if" => return { plan with source := some value }
  | "of" => return { plan with target := some value }
  | "conv" =>
    return { plan with
      conversions := plan.conversions ++ (← meanings "conversion" conversions value) }
  | "iflag" =>
    return { plan with inputFlags := plan.inputFlags ++ (← meanings "input flag" flags value) }
  | "oflag" =>
    return { plan with outputFlags := plan.outputFlags ++ (← meanings "output flag" flags value) }
  | "status" =>
    return { plan with
      report := ((← meanings "status level" reports value).getLast?).getD plan.report }
  | "ibs" => return { plan with inputSize := ← numberOf 1 value }
  | "obs" => return { plan with outputSize := ← numberOf 1 value }
  | "bs" => return { plan with bothSize := some (← numberOf 1 value) }
  | "cbs" => return { plan with recordSize := ← numberOf 1 value }
  | "skip" | "iseek" => return { plan with skip := ← extent }
  | "seek" | "oseek" => return { plan with seek := ← extent }
  | "count" => return { plan with count := some (← extent) }
  | _ => Work.misuse ("unrecognized operand " ++ Quoted.word (name ++ '=' :: value)) 1

/-- Ends with a complaint if more than one of some things are asked for. -/
def refuseSeveral {α : Type} [DecidableEq α] (words : String) (asked some_ : List α) : Work Unit :=
  if 1 < (some_.filter asked.contains).length then Work.fail ("cannot combine " ++ words.toList) 1
  else return ()

/-- The plan that operands give. -/
def planOf (operands : List Text) : Work Plan := do
  let mut plan : Plan := {}
  for operand in operands do
    let name := operand.takeWhile (· ≠ '=')
    if name.length = operand.length then
      Work.misuse ("unrecognized operand " ++ Quoted.word operand) 1
    plan ← withOperand plan name (operand.drop (name.length + 1))
  if let some size := plan.bothSize then
    plan := { plan with inputSize := size, outputSize := size }
  if plan.outputFlags.contains .fullBlock then
    Work.misuse "invalid output flag: 'fullblock'" 1
  let all := plan.inputFlags ++ plan.outputFlags
  if plan.inputFlags.contains .skipOctets then
    plan := { plan with skip := { plan.skip with isOctets := true } }
  if plan.inputFlags.contains .countOctets then
    plan := { plan with count := plan.count.map fun count ↦ { count with isOctets := true } }
  if all.contains .seekOctets then
    plan := { plan with seek := { plan.seek with isOctets := true } }
  refuseSeveral "any two of \x7bascii,ebcdic,ibm\x7d" plan.conversions [.ascii, .ebcdic, .ibm]
  let asked := plan.conversions
  let isBlock := asked.contains .block ∨ asked.contains .ebcdic ∨ asked.contains .ibm
  let isUnblock := asked.contains .unblock ∨ asked.contains .ascii
  if plan.recordSize ≠ 0 ∧ isBlock ∧ isUnblock then Work.fail "cannot combine block and unblock" 1
  refuseSeveral "lcase and ucase" asked [.lower, .upper]
  refuseSeveral "excl and nocreat" asked [.onlyMaking, .noMaking]
  refuseSeveral "direct and nocache" plan.inputFlags [.direct, .noCache]
  refuseSeveral "direct and nocache" plan.outputFlags [.direct, .noCache]
  return plan

/-! ### Copying -/

/-- How far the copying has come. -/
structure Copy where
  /-- The stream that is read. -/
  input : Nat := 0
  /-- The stream that is written. -/
  output : Nat := 1
  /-- The full blocks that were read. -/
  fullReads : Nat := 0
  /-- The other blocks that were read. -/
  partReads : Nat := 0
  /-- The full blocks that were written. -/
  fullWrites : Nat := 0
  /-- The other blocks that were written. -/
  partWrites : Nat := 0
  /-- The octets that were written. -/
  written : Nat := 0
  /-- The lines that were too long for a record. -/
  cut : Nat := 0
  /-- The octets of the line or record that were gone through. -/
  column : Nat := 0
  /-- The blanks that are written before the next character. -/
  blanks : Nat := 0
  /-- The octet that waits for the other one of its pair. -/
  single : Option Char := none
  /-- What is not written yet. -/
  pending : Text := []
  /-- The size of the last block that was read. -/
  lastSize : Nat := 0
  /-- Whether it was told that a block was not full. -/
  hasWarned : Bool := false

/-- The work of the command, which may stop with an exit status. -/
abbrev Copying := ExceptT Nat (StateT Copy Work)

/-- Does what is no matter of the copying alone. -/
def do_ {α : Type} (work : Work α) : Copying α := fun copy ↦ do return (.ok (← work), copy)

/-- Complains and stops. -/
def fail {α : Type} (words : Text) : Copying α := do
  do_ (Work.warn words)
  throw 1

/-- Writes a block. -/
def writeBlock (plan : Plan) (text : Text) : Copying Unit := do
  match ← do_ (Routine.write (← get).output text) with
  | .ok () => modify fun copy ↦ { copy with written := copy.written + text.length }
  | .error error => fail ("error writing " ++ Quoted.between plan.targetName ++ ": " ++ error.words)

/-- Writes the full blocks of a text, in at most some rounds, and keeps the rest. -/
def writeFull (plan : Plan) : Nat → Text → Copying Unit
  | 0, _ => return ()
  | rounds + 1, text => do
    let (block, rest) := text.splitAt plan.outputSize
    if block.length < plan.outputSize then modify ({ · with pending := text })
    else
      writeBlock plan block
      modify fun copy ↦ { copy with fullWrites := copy.fullWrites + 1 }
      writeFull plan rounds rest

/-- Collects a text to be written. -/
def collect (plan : Plan) (text : Text) : Copying Unit := do
  let all := (← get).pending ++ text
  writeFull plan (all.length + 1) all

/-- A text with the octets of each pair in the other order. The first one may wait from before, and
the last one may wait for the next text. -/
def swapped : Option Char → Text → Text × Option Char
  | single, [] => ([], single)
  | none, c :: rest => swapped (some c) rest
  | some a, b :: rest =>
    let (text, single) := swapped none rest
    (b :: a :: text, single)

/-- One more octet of lines that become records. The last result is what is written, the last octet
first. -/
def recordStep (plan : Plan) (state : Nat × Nat × Text) (c : Char) : Nat × Nat × Text :=
  let (column, cut, written) := state
  if c = plan.sign '\n' then
    (0, cut, List.replicate (plan.recordSize - column) (plan.sign ' ') ++ written)
  else if column < plan.recordSize then (column + 1, cut, c :: written)
  else (column + 1, if column = plan.recordSize then cut + 1 else cut, written)

/-- One more octet of records that become lines. The last result is what is written, the last octet
first. -/
def lineStep (plan : Plan) (state : Nat × Nat × Text) (c : Char) : Nat × Nat × Text :=
  let (column, blanks, written) := state
  let (column, blanks, written) :=
    if plan.recordSize ≤ column then (0, 0, '\n' :: written) else (column, blanks, written)
  if c = ' ' then (column + 1, blanks + 1, written)
  else (column + 1, 0, c :: (List.replicate blanks ' ' ++ written))

/-- Collects what becomes of a text as lines or records. -/
def collectShaped (plan : Plan) (text : Text) : Copying Unit := do
  let copy ← get
  if plan.makesRecords then
    let (column, cut, written) := text.foldl (recordStep plan) (copy.column, copy.cut, [])
    set { copy with column, cut }
    collect plan written.reverse
  else if plan.makesLines then
    let (column, blanks, written) := text.foldl (lineStep plan) (copy.column, copy.blanks, [])
    set { copy with column, blanks }
    collect plan written.reverse
  else collect plan text

/-- Collects what becomes of a text. -/
def collectChanged (plan : Plan) (text : Text) : Copying Unit := do
  let text := text.map plan.translate
  if plan.does .swap then
    let (text, single) := swapped (← get).single text
    modify ({ · with single })
    collectShaped plan text
  else collectShaped plan text

/-- Writes what is left at the end. -/
def finish (plan : Plan) : Copying Unit := do
  if let some c := (← get).single then collectShaped plan [c]
  let copy ← get
  if plan.makesRecords ∧ copy.column ≠ 0 then
    collect plan (List.replicate (plan.recordSize - copy.column) (plan.sign ' '))
  if plan.makesLines ∧ copy.column ≠ 0 then collect plan ['\n']
  let pending := (← get).pending
  if ¬ pending.isEmpty then
    writeBlock plan pending
    modify fun copy ↦ { copy with partWrites := copy.partWrites + 1, pending := [] }

/-- Reads from a stream until there are enough octets, in at most some rounds. -/
def readFully (stream : Nat) : Nat → Nat → List Text → Work (Except SystemError Text)
  | 0, _, pieces => return .ok pieces.reverse.flatten
  | _, 0, pieces => return .ok pieces.reverse.flatten
  | rounds + 1, left, pieces => do
    match ← Routine.read stream left with
    | .error error => return .error error
    | .ok [] => return .ok pieces.reverse.flatten
    | .ok piece => readFully stream rounds (left - piece.length) (piece :: pieces)

/-- Reads a block of the input. -/
def readBlock (plan : Plan) (size : Nat) : Copying (Except SystemError Text) := do
  let copy ← get
  if plan.inputFlags.contains .fullBlock then do_ (readFully copy.input endless size [])
  else
    let answer ← do_ (Routine.read copy.input size)
    let minds := !plan.collects &&
      ((!plan.skip.isOctets && plan.skip.count ≠ 0) || (plan.limits.any (·.1 ≠ 0)))
    if let .ok text := answer then
      if minds ∧ ¬ copy.hasWarned ∧ ¬ text.isEmpty then
        if 0 < copy.lastSize ∧ copy.lastSize < size then
          if plan.report ≠ .nothing then
            let unit : Text := if copy.lastSize = 1 then " byte" else " bytes"
            do_ (Work.warn ("warning: partial read (" ++ Text.ofNat copy.lastSize ++ unit ++
              "); suggest iflag=fullblock"))
          modify ({ · with hasWarned := true })
        modify ({ · with lastSize := text.length })
    return answer

/-- Copies blocks, in at most some rounds. -/
def copyBlocks (plan : Plan) : Nat → Copying Unit
  | 0 => return ()
  | rounds + 1 => do
    let copy ← get
    let reads := copy.fullReads + copy.partReads
    let (isOver, size) :=
      match plan.limits with
      | none => (false, plan.inputSize)
      | some (blocks, more) =>
        if reads < blocks then (false, plan.inputSize)
        else (reads ≥ blocks + min 1 more, more)
    if isOver then return ()
    match ← readBlock plan size with
    | .error error =>
      if plan.report ≠ .nothing ∨ ¬ plan.does .goesOn then
        do_ (Work.warn ("error reading " ++ Quoted.between plan.sourceName ++ ": " ++ error.words))
      finish plan
      throw 1
    | .ok [] => return ()
    | .ok text =>
      let isFull := text.length = plan.inputSize
      modify fun copy ↦
        if isFull then { copy with fullReads := copy.fullReads + 1 }
        else { copy with partReads := copy.partReads + 1 }
      let padding := if plan.makesRecords ∨ plan.makesLines then ' ' else '\x00'
      let text :=
        if plan.does .pad then text ++ List.replicate (plan.inputSize - text.length) padding
        else text
      if plan.collects then collectChanged plan text
      else
        writeBlock plan text
        modify fun copy ↦
          if text.length = plan.inputSize then { copy with fullWrites := copy.fullWrites + 1 }
          else { copy with partWrites := copy.partWrites + 1 }
      copyBlocks plan rounds

/-! ### What is left out -/

/-- Reads some blocks, in at most some rounds, and leaves them out. The result is how many octets were
read. -/
def dropBlocks (plan : Plan) : Nat → Nat → Nat → Copying Nat
  | 0, _, dropped => return dropped
  | _, 0, dropped => return dropped
  | rounds + 1, left, dropped => do
    let size := min left plan.inputSize
    match ← readBlock plan size with
    | .error error =>
      fail ("error reading " ++ Quoted.between plan.sourceName ++ ": " ++ error.words)
    | .ok [] => return dropped
    | .ok text => dropBlocks plan rounds (left - size) (dropped + text.length)

/-- Leaves out the start of the input. -/
def skipInput (plan : Plan) : Copying Unit := do
  let wanted := plan.skipOctets
  if wanted = 0 then return ()
  let stream := (← get).input
  let place ← do_ (Routine.move stream 0)
  let dropped ←
    match place with
    | .ok place => do
      let file? ← do_ (Routine.fileOf? stream)
      let size? ← do_ (Routine.look fun _ disk ↦
        (file?.map disk.get).bind fun file ↦
          if file.isRegular then some file.octets.size else none)
      let room := size?.elim wanted (· - place)
      let _ ← do_ (Routine.move stream (min wanted room))
      pure (min wanted room)
    | .error _ => dropBlocks plan endless wanted 0
  if dropped < wanted ∧ plan.report ≠ .nothing then
    do_ (Work.warn (Quoted.name plan.sourceName ++ ": cannot skip to specified offset"))

/-- Leaves out the start of the output. -/
def skipOutput (plan : Plan) : Copying Unit := do
  let wanted := plan.seekOctets
  if wanted = 0 then return ()
  match ← do_ (Routine.move (← get).output wanted) with
  | .ok _ => return ()
  | .error error => fail (Quoted.name plan.targetName ++ ": cannot seek: " ++ error.words)

/-! ### The command -/

/-- Cuts off a file, or lengthens it with zeros. -/
def cutFile (path : Text) (size : Nat) : Work Unit := do
  let _ ← Routine.change fun directory now disk ↦ do
    let number ← disk.find directory path
    let octets := (disk.get number).octets
    let kept := octets.extract 0 size
    return disk.setOctets now number (kept.append ⟨Array.replicate (size - kept.size) 0⟩)
  return ()

/-- Opens the output. -/
def openTarget (plan : Plan) (path : Text) : Work Nat := do
  let refuse (error : SystemError) : Work Nat :=
    Work.fail ("failed to open " ++ Quoted.between path ++ ": " ++ error.words) 1
  let there ← Routine.look fun directory disk ↦ disk.file? directory path
  if there.isNone ∧ plan.does .noMaking then refuse .notFound
  else if there.isSome ∧ plan.does .onlyMaking then refuse .alreadyThere
  else
    let access : Access :=
      if plan.outputFlags.contains .append then .append
      else if there.all DiskFile.isRegular then .update
      else .replace
    match ← Routine.openFile path access with
    | .error error => refuse error
    | .ok stream =>
      if ¬ plan.does .keeps then cutFile path plan.seekOctets
      return stream

/-- The lines that tell what was copied in some microseconds. -/
def summary (plan : Plan) (copy : Copy) (duration : Nat) : Text :=
  let blocks (full part : Nat) (way : String) : Text :=
    Text.ofNat full ++ '+' :: Text.ofNat part ++ " records ".toList ++ way.toList ++ ['\n']
  let cut : Text :=
    if copy.cut = 0 then []
    else Text.ofNat copy.cut ++
      (if copy.cut = 1 then " truncated record\n" else " truncated records\n")
  let counts := blocks (copy.fullReads) copy.partReads "in" ++
    blocks copy.fullWrites copy.partWrites "out" ++ cut
  let named (base num den : Nat) : Text :=
    -- what is no whole number is shown in thousands at least
    let scaled :=
      if den = 1 then Scaled.ofQuotient false base num Scaled.maxExponent 0 1
      else Scaled.ofQuotient false base num (Scaled.maxExponent - 1) 1 (den * base)
    let unit : Text :=
      match scaled.letter? (base = 1000) with
      | none => ['B']
      | some letter => if base = 1000 then [letter, 'B'] else [letter, 'i', 'B']
    scaled.digits ++ ' ' :: unit
  let written := copy.written
  let octets : Text := if written = 1 then " byte" else " bytes"
  let names : Text :=
    if written < 1000 then []
    else if written < 1024 then " (" ++ named 1000 written 1 ++ ")"
    else " (" ++ named 1000 written 1 ++ ", " ++ named 1024 written 1 ++ ")"
  let time := Layout.real {} 'g' (.finite false duration 1000000)
  let speed : Text :=
    if duration = 0 then "Infinity B/s" else named 1000 (written * 1000000) duration ++ "/s"
  if plan.report = .blocks then counts
  else counts ++ Text.ofNat written ++ octets ++ names ++ " copied, " ++ time ++ " s, " ++ speed ++
    ['\n']

end Blocks

open Blocks in
/-- Copies a file block by block. -/
def dd (arguments : List Text) : Work Unit := do
  let (_, operands) ← Choices.take { letters := "" } arguments
  let plan ← planOf operands
  let input ←
    match plan.source with
    | none => pure 0
    | some path =>
      match ← Routine.openFile path .read with
      | .ok stream => pure stream
      | .error error =>
        Work.fail ("failed to open " ++ Quoted.between path ++ ": " ++ error.words) 1
  let output ← plan.target.elim (pure 1) (openTarget plan)
  let start := (← Routine.self).now
  let copying : Copying Unit := do
    skipInput plan
    skipOutput plan
    if ¬ plan.limits.any fun (blocks, more) ↦ blocks = 0 ∧ more = 0 then
      copyBlocks plan endless
      finish plan
  let (ending, copy) ← copying.run.run { input, output }
  let isOnDisk := (← Routine.fileOf? output).isSome
  let failsToSettle := plan.does .settle ∧ ¬ isOnDisk
  if failsToSettle then
    Work.warn ("fsync failed for " ++ Quoted.between plan.targetName ++ ": Invalid argument")
  let stop := (← Routine.self).now
  if plan.report ≠ .nothing then Work.say (summary plan copy (stop - start))
  match ending with
  | .ok () => if failsToSettle then Work.leave 1
  | .error status => Work.leave status

end AlignmentTally.Command
