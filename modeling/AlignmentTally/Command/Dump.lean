import AlignmentTally.Command.Lines
import AlignmentTally.Number.Layout

/-!
# Octets spelled out

A dump shows octets in rows of blocks: as numbers of one or more octets, as characters or by their
names, each row after the place at which it begins. Rows that repeat the row before are shown by a
star.
-/

namespace AlignmentTally.Command

open Machine

namespace Dump

/-- What a block of octets is shown as. -/
inductive Kind where
  /-- The names of characters. -/
  | names
  /-- Characters and escapes. -/
  | chars
  /-- A number with a sign. -/
  | signed
  /-- A number without a sign. -/
  | unsigned
  /-- An octal number. -/
  | octal
  /-- A hexadecimal number. -/
  | hexadecimal
  /-- A floating-point number. -/
  | real
  deriving DecidableEq, Repr

/-- One way in which rows are shown. -/
structure Form where
  /-- What a block is shown as. -/
  kind : Kind
  /-- The octets of a block. -/
  size : Nat
  /-- Whether the row is shown as text besides. -/
  showsText : Bool := false

/-- The characters of the widest block. -/
def Form.width (form : Form) : Nat :=
  match form.kind with
  | .names | .chars => 3
  | .signed => (Text.ofNat (1 <<< (8 * form.size - 1))).length + 1
  | .unsigned => (Text.ofNat ((1 <<< (8 * form.size)) - 1)).length
  | .octal => (8 * form.size + 2) / 3
  | .hexadecimal => 2 * form.size
  | .real => if form.size = 4 then 15 else 24

/-- The names of the first characters. -/
def controlNames : List String :=
  ["nul", "soh", "stx", "etx", "eot", "enq", "ack", "bel", "bs", "ht", "nl", "vt", "ff", "cr", "so",
    "si", "dle", "dc1", "dc2", "dc3", "dc4", "nak", "syn", "etb", "can", "em", "sub", "esc", "fs",
    "gs", "rs", "us", "sp"]

/-- The name of a character. -/
def nameOf (c : Char) : Text :=
  let n := c.toNat % 128
  if n = 127 then "del" else (controlNames[n]?.map String.toList).getD [.ofNat n]

/-- A character, or how it is spelled. -/
def spelled (c : Char) : Text :=
  match c with
  | '\x00' => "\\0"
  | '\x07' => "\\a"
  | '\x08' => "\\b"
  | '\x0c' => "\\f"
  | '\n' => "\\n"
  | '\r' => "\\r"
  | '\t' => "\\t"
  | '\x0b' => "\\v"
  | c =>
    if ' ' ≤ c ∧ c < '\x7f' then [c] else Text.padLeft '0' 3 (Nat.toDigits 8 c.toNat)

/-- The number that octets are. -/
def numberOf (bigEndian : Bool) (block : Text) : Nat :=
  (if bigEndian then block else block.reverse).foldl (fun n c ↦ 256 * n + c.toNat) 0

/-- A value as it reads back in a format, with as few digits as need be. -/
def shortest (x : Scanned) (format : Scanned → Scanned) (least most : Nat) : Text :=
  let written (digits : Nat) : Text := ({ precision := some digits } : Layout).real 'g' x
  let readsBack (text : Text) : Bool :=
    (Scanned.read? text).any fun (y, _) ↦ format y = format x
  (((List.range (most - least)).map fun n ↦ written (least + n)).find? readsBack).getD
    (written most)

/-- The floating-point number whose pattern a number is. -/
def realOf (size n : Nat) : Text :=
  if size = 4 then
    let exponent := (n >>> 23) % 256
    let fraction := n % (1 <<< 23)
    let negative := n >>> 31 = 1
    if exponent = 255 then
      ({} : Layout).real 'g' (if fraction = 0 then .infinite negative else .undefined)
    else
      let significand := if exponent = 0 then fraction else fraction + (1 <<< 23)
      let power : Int := (max exponent 1 : Nat) - 150
      shortest (.finite negative (significand <<< power.toNat) (1 <<< (-power).toNat))
        (if exponent = 0 then (·.onGrid 149) else (·.rounded 24)) (if exponent = 0 then 1 else 6) 9
  else
    let isSmall := (n >>> 52) % 2048 = 0
    shortest (.ofFloat (.ofBits (.ofNat n))) (·.toBinary64.1) (if isSmall then 1 else 15) 17

/-- A block of octets as it is shown. -/
def Form.show_ (form : Form) (bigEndian : Bool) (block : Text) : Text :=
  let n := numberOf bigEndian block
  match form.kind with
  | .names => nameOf (block.headD ' ')
  | .chars => spelled (block.headD ' ')
  | .signed =>
    Text.ofInt (if n < 1 <<< (8 * form.size - 1) then n else (n : Int) - (1 <<< (8 * form.size)))
  | .unsigned => Text.ofNat n
  | .octal => Text.padLeft '0' form.width (Nat.toDigits 8 n)
  | .hexadecimal => Text.padLeft '0' form.width (Nat.toDigits 16 n)
  | .real => realOf form.size n

/-- The blocks of a row. The last one is filled up with zeros. -/
def blocks (size : Nat) : Nat → Text → List Text
  | 0, _ => []
  | count + 1, row =>
    if row.isEmpty then []
    else
      let block := row.take size
      (block ++ List.replicate (size - block.length) '\x00') :: blocks size count (row.drop size)

/-- The widths of the fields of a row: those of the form, with some more blanks spread over them. -/
def fieldWidths (width count pad : Nat) : List Nat :=
  (List.range count).map fun done ↦
    let left := count - done
    pad * left / count - pad * (left - 1) / count + width

/-- A row of octets in a form, whose rows have some octets and some more blanks. -/
def Form.row (form : Form) (bigEndian : Bool) (rowSize pad : Nat) (row : Text) : Text :=
  let count := rowSize / form.size
  let widths := fieldWidths (form.width + 1) count pad
  let shown := (blocks form.size count row).map (form.show_ bigEndian)
  let fields := (shown.zip widths).map fun (text, width) ↦ Text.padLeft ' ' width text
  let missing := (widths.drop shown.length).map fun width ↦ List.replicate width ' '
  let text :=
    if form.showsText then
      missing.flatten ++ "  >".toList ++
        row.map (fun c ↦ if ' ' ≤ c ∧ c < '\x7f' then c else '.') ++ ['<']
    else []
  fields.flatten ++ text

/-- The form that letters of a type stand for, with what follows them. `all` is the whole type. -/
def formOf (all text : Text) : Except Text (Form × Text) := do
  let invalid (c : Char) : Text := "invalid character '" ++ c :: "' in type string ".toList
  let sized (kind : Kind) (letters : List (Char × Nat)) (default : Nat) (rest : Text) :
      Except Text (Form × Text) :=
    match rest with
    | [] => return (⟨kind, default, false⟩, [])
    | c :: others =>
      match letters.lookup c with
      | some size => return (⟨kind, size, false⟩, others)
      | none =>
        let digits := rest.takeWhile Char.isDigit
        if digits.isEmpty then return (⟨kind, default, false⟩, rest)
        else
          let size := Text.natOfDigits 10 digits
          if (letters.map Prod.snd).contains size then
            return (⟨kind, size, false⟩, rest.drop digits.length)
          else throw ("invalid type string " ++ Quoted.word all ++ ";\nthis system doesn't provide a " ++
            digits ++ (if kind = .real then "-byte floating point type" else "-byte integral type"))
  let whole := [('C', 1), ('S', 2), ('I', 4), ('L', 8)]
  let (form, rest) ←
    match text with
    | 'a' :: rest => pure (⟨.names, 1, false⟩, rest)
    | 'c' :: rest => pure (⟨.chars, 1, false⟩, rest)
    | 'd' :: rest => sized .signed whole 4 rest
    | 'u' :: rest => sized .unsigned whole 4 rest
    | 'o' :: rest => sized .octal whole 4 rest
    | 'x' :: rest => sized .hexadecimal whole 4 rest
    | 'f' :: rest => sized .real [('F', 4), ('D', 8)] 8 rest
    | c :: _ => throw (invalid c ++ Quoted.word all)
    | [] => throw "missing type string".toList
  match rest with
  | 'z' :: rest => return ({ form with showsText := true }, rest)
  | rest => return (form, rest)

/-- The forms that a type stands for. -/
def formsOf (all : Text) : Nat → Text → Except Text (List Form)
  | 0, _ => return []
  | rounds + 1, text => do
    if text.isEmpty then return []
    let (form, rest) ← formOf all text
    return form :: (← formsOf all rounds rest)

/-- The type that a letter stands for. -/
def typeOf (letter : Char) : Option String :=
  [('a', "a"), ('b', "o1"), ('c', "c"), ('D', "u4"), ('d', "u2"), ('e', "fD"), ('F', "fD"),
    ('f', "fF"), ('H', "x4"), ('X', "x4"), ('h', "x2"), ('x', "x2"), ('i', "dI"), ('I', "dL"),
    ('L', "dL"), ('l', "dL"), ('O', "o4"), ('B', "o2"), ('o', "o2"), ('s', "d2")].lookup letter

/-- A place in the input. -/
def address (radix : Char) (n : Nat) : Text :=
  match radix with
  | 'd' => Text.padLeft '0' 7 (Text.ofNat n)
  | 'x' => Text.padLeft '0' 6 (Nat.toDigits 16 n)
  | 'n' => []
  | _ => Text.padLeft '0' 7 (Nat.toDigits 8 n)

/-- What is shown of the input, and how. -/
structure View where
  /-- The ways in which rows are shown. -/
  forms : List Form
  /-- How places are written. -/
  radix : Char
  /-- The octets of a row. -/
  rowSize : Nat
  /-- Whether rows that repeat are shown, too. -/
  showsAll : Bool
  /-- Whether the first octet of a number is the most significant one. -/
  bigEndian : Bool

/-- How far the input has been shown. -/
structure Place where
  /-- The number of octets before. -/
  index : Nat
  /-- The row before, if it was a whole one, and whether it repeated the one before it. -/
  before : Option (Text × Bool) := none
  /-- The octets that were read and not shown yet. -/
  text : Text := []
  /-- The octets that are still left out. -/
  skipped : Nat := 0

/-- Writes one row, or a star for the first one that repeats the row before. -/
def putRow (view : View) (place : Place) (row : Text) : Work Place := do
  let repeats := row.length = view.rowSize && !view.showsAll && place.before.any (·.1 = row)
  if ¬ repeats then
    let widest := (view.forms.map fun form ↦
      (form.width + 1) * (view.rowSize / form.size)).foldl max 0
    let front := address view.radix place.index
    let shown := view.forms.map fun form ↦
      let pad := widest - (form.width + 1) * (view.rowSize / form.size)
      form.row view.bigEndian view.rowSize pad row
    let fronts := front :: List.replicate (shown.length - 1) (front.map fun _ ↦ ' ')
    (fronts.zip shown).forM fun (front, shown) ↦ Work.putLine (front ++ shown)
  else if ¬ place.before.any Prod.snd then Work.putLine ['*']
  return { place with index := place.index + row.length, before := some (row, repeats) }

/-- Writes the whole rows of the octets that were read, in at most some rounds. -/
def putWhole (view : View) : Nat → Place → Work Place
  | 0, place => return place
  | rounds + 1, place => do
    let row := place.text.take view.rowSize
    if row.length < view.rowSize then return place
    let after ← putRow view place row
    putWhole view rounds { after with text := place.text.drop view.rowSize }

/-- Takes octets that were read. -/
def takeText (view : View) (place : Place) (text : Text) : Work Place :=
  let place := { place with
    text := place.text ++ text.drop place.skipped, skipped := place.skipped - text.length }
  putWhole view (place.text.length + 1) place

/-- Writes the last row and the place at the end. -/
def putEnd (view : View) (place : Place) : Work Unit := do
  let place ← if place.text.isEmpty then pure place else putRow view place place.text
  if view.radix = 'n' then return () else Work.putLine (address view.radix place.index)

/-- Writes the texts of at least some characters that end with a zero octet. -/
def putTexts (radix : Char) (least : Nat) : Nat → Nat → Text → Work Unit
  | 0, _, _ => return ()
  | rounds + 1, place, text => do
    if text.isEmpty then return
    let piece := text.takeWhile fun c ↦
      ' ' ≤ c && c < '\x7f' || "\x07\x08\x0c\n\r\t\x0b".toList.contains c
    let after := text.drop piece.length
    if least ≤ piece.length ∧ after.head? = some '\x00' then
      let front := address radix place
      Work.putLine (front ++ (if front.isEmpty then [] else [' ']) ++ piece.flatMap spelled)
    putTexts radix least rounds (place + piece.length + 1) (after.drop 1)

/-- A number of octets that an option asks for. -/
def amount (option : Char) (text : Text) : Work Nat := do
  let (base, digits) : Nat × Text :=
    match text with
    | '0' :: 'x' :: rest => (16, rest)
    | '0' :: c :: rest => if c.isDigit then (8, c :: rest) else (10, text)
    | _ => (10, text)
  let number := digits.takeWhile (Scanned.isDigit base)
  if base ≠ 10 ∧ number.length = digits.length ∧ ¬ number.isEmpty then
    return Text.natOfDigits base number
  match Amount.size? text with
  | some n => return n
  | none => Work.fail ("invalid -" ++ option :: (" argument '".toList ++ text ++ "'")) 1

/-- The place that an operand names in the old form: a number in octal or hexadecimal digits. -/
def oldPlace? (text : Text) : Option Nat := do
  let text := if text.head? = some '+' then text.drop 1 else text
  let (base, text) : Nat × Text :=
    match text with
    | '0' :: 'x' :: rest | '0' :: 'X' :: rest => (16, rest)
    | text => (8, text)
  let isDigit (c : Char) : Bool := if base = 8 then '0' ≤ c && c ≤ '7' else Scanned.isDigit 16 c
  let digits := text.takeWhile isDigit
  if digits.isEmpty then none
  let n := Scanned.digits base digits
  match text.drop digits.length with
  | [] => some n
  | ['b'] => some (n * 512)
  | ['B'] => some (n * 1024)
  | _ => none

/-- The files among operands and the number of octets that are left out, which the last operand may
name in the old form. -/
def splitPlace (operands : List Text) : List Text × Option Nat :=
  match operands with
  | [place] =>
    match if place.head? = some '+' then oldPlace? place else none with
    | some n => ([], some n)
    | none => (operands, none)
  | [file, place] =>
    match if place.head?.any fun c ↦ c = '+' ∨ c.isDigit then oldPlace? place else none with
    | some n => ([file], some n)
    | none => (operands, none)
  | operands => (operands, none)

/-- The number of octets of a row: the wanted one if the forms fit into it. -/
def rowSizeFor (forms : List Form) (wanted : Option Nat) : Work Nat := do
  let least := (forms.map (·.size)).foldl Nat.lcm 1
  match wanted with
  | none => return if least < 16 then least * (16 / least) else least
  | some n =>
    if 0 < n ∧ n % least = 0 then return n
    Work.warn ("warning: invalid width " ++ Text.ofNat n ++ "; using " ++ Text.ofNat least ++
      " instead")
    return least

/-- Shows the octets of files. -/
def od (arguments : List Text) : Work Unit := do
  let (chosen, operands) ← Choices.take
    { letters := "A:aBbcDdeFfHhIij:LlN:OoS:st:vw::Xx"
      words := [("address-radix=", 'A'), ("endian=", 'E'), ("format=", 't'),
        ("output-duplicates", 'v'), ("read-bytes=", 'N'), ("skip-bytes=", 'j'), ("strings?", 'T'),
        ("width?", 'w')] } arguments
  let radix ←
    match last? chosen 'A' with
    | none => pure 'o'
    | some (c :: _) =>
      if "doxn".toList.contains c then pure c
      else Work.fail ("invalid output address radix '" ++ c ::
        "'; it must be one character from [doxn]".toList) 1
    | some [] => Work.fail "invalid output address radix ''; it must be one character from [doxn]" 1
  let types := chosen.filterMap fun (letter, text) ↦
    if letter = 't' then some text else (typeOf letter).map String.toList
  let forms ← types.mapM fun type ↦
    match formsOf type (type.length + 1) type with
    | .ok forms => pure forms
    | .error words => Work.fail words 1
  let forms := if forms.flatten.isEmpty then [⟨.octal, 2, false⟩] else forms.flatten
  let wanted ← (last? chosen 'w').mapM fun text ↦
    if text.isEmpty then pure 32 else amount 'w' text
  if wanted = some 0 then
    let _ ← Routine.send (← Routine.self).id Signal.abort
  let rowSize ← rowSizeFor forms wanted
  let bigEndian ←
    match last? chosen 'E' with
    | some word => meaningOf "--endian" [("little", false), ("big", true)] word
    | none => pure false
  let isModern := chosen.any fun option ↦ "AjNStvw".toList.contains option.1
  let (paths, place?) := if isModern then (operands, none) else splitPlace operands
  let skipped ←
    match place? with
    | some place => pure place
    | none => amount 'j' ((last? chosen 'j').getD ['0'])
  let limit? ← (last? chosen 'N').mapM (amount 'N')
  let least? := (chosen.filter fun option ↦ "ST".toList.contains option.1).getLast?
  let view : View := { forms, radix, rowSize, showsAll := has chosen 'v', bigEndian }
  if limit?.isNone ∧ least?.isNone then
    let mut place : Place := { index := skipped, skipped }
    let mut hasRead := false
    for path in if paths.isEmpty then [['-']] else paths do
      match ← Work.open_ path with
      | .error error => Work.complainOf path error
      | .ok stream =>
        let (after, error) ←
          Work.foldReads stream (fun _ ↦ false) (takeText view) endless place
        place := after
        hasRead := true
        if let some error := error then Work.complainOf path error
        Work.close stream
    if ¬ hasRead then return
    if 0 < place.skipped then Work.fail "cannot skip past end of combined input" 1
    putEnd view place
  else
    let files ← Work.readFirst (limit?.map (· + skipped)) paths
    if files.isEmpty then return
    let text := files.flatten
    if text.length < skipped then Work.fail "cannot skip past end of combined input" 1
    let text := text.drop skipped
    let text := limit?.elim text text.take
    match least?.map fun (_, text) ↦ if text.isEmpty then ['3'] else text with
    | some least => putTexts radix (← amount 'S' least) (text.length + 1) skipped text
    | none => putEnd view (← takeText view { index := skipped } text)

end Dump

end AlignmentTally.Command
