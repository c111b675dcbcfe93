import AlignmentTally.Command.Options

/-!
# Octets in few characters

Octets are written with the digits of an alphabet, each of which stands for a number of bits. Some
digits make up a group, which stands for whole octets; where octets run out within a group, equals
signs fill it. In one more code, five digits of base 85 stand for four octets.
-/

namespace AlignmentTally.Command

open Machine

namespace Encoding

/-- A code for octets. -/
structure Code where
  /-- The digits, each at the place of its value. -/
  digits : Text
  /-- Characters that are read as digits, too, with their values. -/
  others : List (Char × Nat) := []
  /-- The number of octets that a group stands for. -/
  octets : Nat
  /-- The number of characters in a group. -/
  width : Nat
  /-- The number of bits that a digit stands for; none if a group is one number. -/
  bits : Option Nat
  /-- Whether groups are filled. -/
  isFilled : Bool := false
  /-- Whether the lowest bit of an octet is the first one. -/
  lowFirst : Bool := false
  /-- Characters that spoil all that is read with them. -/
  spoilers : Text := []

/-- The digits of many bases: letters and numerals. -/
def letters : Text := "ABCDEFGHIJKLMNOPQRSTUVWXYZ"

/-- The decimal digits. -/
def numerals : Text := "0123456789"

/-- Six bits for each digit. -/
def base64 : Code :=
  { digits := letters ++ "abcdefghijklmnopqrstuvwxyz".toList ++ numerals ++ ['+', '/']
    octets := 3, width := 4, bits := some 6, isFilled := true }

/-- Six bits for each digit, without characters that have a meaning in addresses. -/
def base64url : Code :=
  { base64 with digits := base64.digits.take 62 ++ ['-', '_'], spoilers := ['+', '/'] }

/-- Five bits for each digit. -/
def base32 : Code :=
  { digits := letters ++ "234567".toList, octets := 5, width := 8, bits := some 5
    isFilled := true }

/-- Five bits for each digit, in the order of characters. -/
def base32hex : Code :=
  { base32 with
    digits := numerals ++ letters.take 22
    others := [('W', 22), ('X', 23), ('Y', 24), ('Z', 25)] }

/-- Hexadecimal digits. -/
def base16 : Code :=
  { digits := numerals ++ letters.take 6, octets := 1, width := 2, bits := some 4 }

/-- Binary digits. -/
def base2 (lowFirst : Bool) : Code :=
  { digits := ['0', '1'], octets := 1, width := 8, bits := some 1, lowFirst }

/-- Five digits of base 85 for four octets. -/
def base85 : Code :=
  { digits := "0123456789abcdefghijklmnopqrstuvwxyzABCDEFGHIJKLMNOPQRSTUVWXYZ.-:+=^!/*?&<>()[]".toList ++
      ['\x7b', '\x7d', '@', '%', '$', '#']
    octets := 4, width := 5, bits := none }

namespace Code

/-- The value of a digit. -/
def value? (code : Code) (c : Char) : Option Nat :=
  match code.digits.findIdx? (· = c) with
  | some value => some value
  | none => code.others.lookup c

/-- Pieces of some size; the last one may be shorter. At most some of them. -/
def chunks (size : Nat) : Nat → Text → List Text
  | 0, _ => []
  | _, [] => []
  | rounds + 1, text => text.take size :: chunks size rounds (text.drop size)

/-- The lowest digits of a number in a base, the highest of them first. -/
def lowDigits (base : Nat) : Nat → Nat → List Nat
  | 0, _ => []
  | count + 1, n => lowDigits base count (n / base) ++ [n % base]

/-- The number that octets write. -/
def number (octets : Text) : Nat := octets.foldl (fun n c ↦ 256 * n + c.toNat) 0

/-- The group for some octets. -/
def encodeGroup (code : Code) (octets : Text) : Text :=
  let digitsOf (base count n : Nat) : Text :=
    (lowDigits base count n).map fun value ↦ code.digits[value]?.getD '='
  match code.bits with
  | none => digitsOf code.digits.length code.width (number octets)
  | some bits =>
    let count := (8 * octets.length + bits - 1) / bits
    let digits := digitsOf code.digits.length count
      (number octets <<< (count * bits - 8 * octets.length))
    let digits := if code.lowFirst then digits.reverse else digits
    digits ++ List.replicate (code.width - count) '='

/-- The text for octets. -/
def encode (code : Code) (octets : Text) : Text :=
  (chunks code.octets octets.length octets).flatMap code.encodeGroup

/-- The octets that a group stands for, as far as it is right, and whether it is. -/
def decodeGroup (code : Code) (group : Text) : Text × Bool :=
  let start := group.takeWhile fun c ↦ (code.value? c).isSome
  let values := start.filterMap code.value?
  let isWhole := group.length = code.width
  match code.bits with
  | none =>
    let n := values.foldl (fun n value ↦ code.digits.length * n + value) 0
    if isWhole && start.length = group.length && n < 4294967296 then
      ((lowDigits 256 code.octets n).map Char.ofNat, true)
    else ([], false)
  | some bits =>
    let values := if code.lowFirst then values.reverse else values
    let n := values.foldl (fun n value ↦ n <<< bits + value) 0
    let size := start.length * bits
    let octets := (lowDigits 256 (size / 8) (n >>> (size % 8))).map Char.ofNat
    let rest := group.drop start.length
    let isFilled : Bool :=
      code.isFilled && !start.isEmpty && size % 8 < bits && rest.all (· = '=')
    if isWhole then (octets, rest.isEmpty || isFilled)
    else (if code.octets = 3 then octets else [], false)

/-- The octets that groups stand for, as far as they are right, and whether they all are. -/
def decodeGroups (code : Code) : List Text → Text × Bool
  | [] => ([], true)
  | group :: rest =>
    match code.decodeGroup group with
    | (octets, false) => (octets, false)
    | (octets, true) =>
      let (more, isRight) := decodeGroups code rest
      (octets ++ more, isRight)

end Code

/-! ### The commands -/

/-- A text in lines of some width, and the column after it. The first line goes on from a column. -/
def wrap (width column : Nat) (text : Text) : Text × Nat :=
  let (written, column) := text.foldl
    (fun (written, column) c ↦
      if column = width then (c :: '\n' :: written, 1) else (c :: written, column + 1))
    (([] : Text), column)
  (written.reverse, column)

/-- Reads blocks of some size from a stream and goes through them. What is left over is no part of a
block. -/
def foldBlocks {σ : Type} (stream size : Nat) (keep : Char → Bool) (act : σ → Text → Work σ)
    (state : σ) : Work (σ × Text) := do
  let ((state, rest), error) ← Work.foldReads stream (fun _ ↦ false)
    (fun (state, rest) text ↦ do
      let text := rest ++ text.filter keep
      let whole := text.length / size
      let mut state := state
      for block in Code.chunks size whole text do
        state ← act state block
      return (state, text.drop (whole * size)))
    endless (state, ([] : Text))
  if let some error := error then Work.fail ("read error: " ++ error.words) 1
  return (state, rest)

/-- Writes what a stream gives in a code, in lines of some width, if it is positive. -/
def encodeAll (code : Code) (stream width : Nat) : Work Unit := do
  let act (column : Nat) (block : Text) : Work Nat := do
    if code.bits.isNone ∧ block.length % code.octets ≠ 0 then
      Work.fail "invalid input (length must be multiple of 4 characters)" 1
    let text := code.encode block
    if width = 0 then
      Work.put text
      return column
    let (text, column) := wrap width column text
    Work.put text
    return column
  let (column, rest) ← foldBlocks stream 30720 (fun _ ↦ true) act 0
  let column ← act column rest
  if 0 < column then Work.put ['\n']

/-- Writes the octets that a stream gives in a code. -/
def decodeAll (code : Code) (stream : Nat) (keep : Char → Bool) : Work Unit := do
  let write (groups : List Text) : Work Unit := do
    let (octets, isRight) := code.decodeGroups groups
    Work.put octets
    if ¬ isRight then Work.fail "invalid input" 1
  let act (rest block : Text) : Work Text := do
    if block.any code.spoilers.contains then Work.fail "invalid input" 1
    let text := rest ++ block.filter (· ≠ '\n')
    let whole := text.length / code.width
    write (Code.chunks code.width whole text)
    return text.drop (whole * code.width)
  let size := (4200 + code.octets - 1) / code.octets * code.width
  let (before, rest) ← foldBlocks stream size keep act []
  let last ← act before rest
  if ¬ last.isEmpty then write [last]

/-- The width of lines that an option asks for; none if there are to be no lines. -/
def widthOf (text : Text) : Work Nat :=
  match Amount.plain? text with
  | some n => return if 9223372036854775807 < n then 0 else n
  | none => Work.fail ("invalid wrap size: ".toList ++ Quoted.word text) 1

/-- The codes, each under the letter that stands for it. -/
def codes : List (Char × Code) :=
  [('A', base64), ('B', base64url), ('C', base32), ('D', base32hex), ('E', base16),
    ('F', base2 false), ('G', base2 true), ('Z', base85)]

/-- Writes a file in a code, or reads it. The code is given, or an option tells it. -/
def run (given : Option Code) (arguments : List Text) : Work Unit := do
  let names : List (String × Char) :=
    if given.isSome then []
    else [("base64", 'A'), ("base64url", 'B'), ("base32", 'C'), ("base32hex", 'D'),
      ("base16", 'E'), ("base2msbf", 'F'), ("base2lsbf", 'G'), ("z85", 'Z')]
  let (chosen, paths) ← Choices.take
    { letters := "diw:"
      words := [("decode", 'd'), ("wrap=", 'w'), ("ignore-garbage", 'i')] ++ names }
    arguments
  let mut width := 76
  let mut code? := given
  for (letter, text) in chosen do
    if letter = 'w' then width ← widthOf text
    else if let some code := codes.lookup letter then code? := some code
  match code?, paths with
  | none, _ => Work.misuse "missing encoding type" 1
  | _, _ :: extra :: _ => Work.misuse ("extra operand " ++ Quoted.word extra) 1
  | some code, paths =>
    let path := paths.headD ['-']
    match ← Work.open_ path with
    | .error error => Work.fail (Quoted.name path ++ ": " ++ error.words) 1
    | .ok stream =>
      if ¬ has chosen 'd' then encodeAll code stream width
      else
        let isKept (c : Char) : Bool := c = '=' || (code.value? c).isSome
        decodeAll code stream (if has chosen 'i' then isKept else fun _ ↦ true)

end Encoding

end AlignmentTally.Command
