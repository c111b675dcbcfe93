import AlignmentTally.Toml.Basic
import AlignmentTally.Toml.Scalar

/-!
# Reading TOML

Each reader takes the unread text and gives a result with what remains, or `none`: nothing is
said about what is wrong with a text. A line ends in a line feed, which a carriage return may
precede; a carriage return is nowhere else allowed. Arrays and tables in braces may be nested to a
depth of 79, and a dotted key has at most 79 parts.
-/

namespace AlignmentTally.Toml

/-! ### Blanks, comments and line ends -/

/-- Whether a character is a blank within a line. -/
def isBlank (c : Char) : Bool := c = ' ' || c = '\t'

/-- The text after the blanks at its start. -/
def skipBlanks (text : List Char) : List Char := text.dropWhile isBlank

/-- Whether a character can stand in a comment or, quotes and backslashes apart, in a string: all
but the control characters other than the tab. -/
def isPlain (c : Char) : Bool := c = '\t' || (' ' ≤ c && c ≠ '\x7f')

/-- The text after a line end. -/
def afterNewline? : List Char → Option (List Char)
  | '\n' :: rest => some rest
  | '\r' :: '\n' :: rest => some rest
  | _ => none

/-- The text after a comment, if there is one. -/
def skipComment : List Char → List Char
  | '#' :: rest => rest.dropWhile isPlain
  | text => text

/-- The text after the end of a line: blanks, a comment, and a line end or the end of the text. -/
def endLine? (text : List Char) : Option (List Char) :=
  match skipComment (skipBlanks text) with
  | [] => some []
  | rest => afterNewline? rest

/-- The text after blanks, comments and line ends. A comment takes its line end with it. -/
def skipLines : Nat → List Char → List Char
  | 0, text => text
  | rounds + 1, text =>
    let unblanked := skipBlanks text
    match afterNewline? (skipComment unblanked) with
    | some rest => skipLines rounds rest
    | none => unblanked

/-- The text after all blanks, comments and line ends at its start. -/
def skipToToken (text : List Char) : List Char := skipLines text.length text

/-! ### Strings -/

/-- The value of a hexadecimal digit. -/
def hexDigit? (c : Char) : Option Nat :=
  if isHexDigit c then some (digitValue c) else none

/-- The character whose code point hexadecimal digits write. -/
def ofHex? (digits : List Char) : Option Char := do
  let values ← digits.mapM hexDigit?
  let code := values.foldl (fun n d ↦ 16 * n + d) 0
  if code.isValidChar then return .ofNat code else none

/-- The character that a backslash and one letter stand for. -/
def escaped? : Char → Option Char
  | 'b' => some '\x08'
  | 't' => some '\t'
  | 'n' => some '\n'
  | 'f' => some '\x0c'
  | 'r' => some '\r'
  | '"' => some '"'
  | '\\' => some '\\'
  | _ => none

/-- Puts a character in front of a string that has been read. -/
def push (c : Char) (result : Option (List Char × List Char)) :
    Option (List Char × List Char) :=
  result.map fun (chars, rest) ↦ (c :: chars, rest)

/-- Reads the rest of a string between double quotes on one line. -/
def readBasic : List Char → Option (List Char × List Char)
  | [] => none
  | '"' :: rest => some ([], rest)
  | '\\' :: 'u' :: a :: b :: c :: d :: rest => do
    push (← ofHex? [a, b, c, d]) (readBasic rest)
  | '\\' :: 'U' :: a :: b :: c :: d :: e :: f :: g :: h :: rest => do
    push (← ofHex? [a, b, c, d, e, f, g, h]) (readBasic rest)
  | '\\' :: c :: rest => do push (← escaped? c) (readBasic rest)
  | c :: rest => if isPlain c ∧ c ≠ '\\' then push c (readBasic rest) else none

/-- Reads the rest of a string between single quotes on one line. -/
def readLiteral : List Char → Option (List Char × List Char)
  | [] => none
  | '\'' :: rest => some ([], rest)
  | c :: rest => if isPlain c then push c (readLiteral rest) else none

/-- The quotes that belong to a string over several lines, directly before its closing ones, and
the text after these: up to two more quotes than the closing three. -/
def closeLong (quote : Char) (rest : List Char) : List Char × List Char :=
  match rest with
  | a :: b :: more =>
    if a = quote ∧ b = quote then ([quote, quote], more)
    else if a = quote then ([quote], b :: more)
    else ([], rest)
  | [a] => if a = quote then ([quote], []) else ([], rest)
  | [] => ([], [])

/-- Whether a backslash before a text ends its line: only blanks follow on it. -/
def endsLine (text : List Char) : Bool := (afterNewline? (skipBlanks text)).isSome

/-- Reads the rest of a string between three double quotes. After a backslash that ends its line,
all blanks and line ends are skipped (`skipping`). -/
def readLongBasic (skipping : Bool) : List Char → Option (List Char × List Char)
  | [] => none
  | '"' :: '"' :: '"' :: rest => some (closeLong '"' rest)
  | '\\' :: 'u' :: a :: b :: c :: d :: rest => do
    push (← ofHex? [a, b, c, d]) (readLongBasic false rest)
  | '\\' :: 'U' :: a :: b :: c :: d :: e :: f :: g :: h :: rest => do
    push (← ofHex? [a, b, c, d, e, f, g, h]) (readLongBasic false rest)
  | '\\' :: c :: rest =>
    if endsLine (c :: rest) then readLongBasic true (c :: rest)
    else do push (← escaped? c) (readLongBasic false rest)
  | '\r' :: '\n' :: rest =>
    if skipping then readLongBasic true rest else push '\n' (readLongBasic false rest)
  | c :: rest =>
    if c = '\n' ∨ isBlank c then
      if skipping then readLongBasic true rest else push c (readLongBasic false rest)
    else if isPlain c ∧ c ≠ '\\' then push c (readLongBasic false rest)
    else none

/-- Reads the rest of a string between three single quotes. -/
def readLongLiteral : List Char → Option (List Char × List Char)
  | [] => none
  | '\'' :: '\'' :: '\'' :: rest => some (closeLong '\'' rest)
  | '\r' :: '\n' :: rest => push '\n' (readLongLiteral rest)
  | c :: rest => if c = '\n' ∨ isPlain c then push c (readLongLiteral rest) else none

/-- The text of a long string after the line end that may follow its opening quotes. -/
def dropNewline (text : List Char) : List Char := (afterNewline? text).getD text

/-- Reads a string. -/
def readString : List Char → Option (List Char × List Char)
  | '"' :: '"' :: '"' :: rest => readLongBasic false (dropNewline rest)
  | '"' :: rest => readBasic rest
  | '\'' :: '\'' :: '\'' :: rest => readLongLiteral (dropNewline rest)
  | '\'' :: rest => readLiteral rest
  | _ => none

/-! ### Keys -/

/-- Whether a character can stand in a key without quotes. -/
def isKeyChar (c : Char) : Bool := c.isAlphanum || c = '-' || c = '_'

/-- Reads one part of a key. -/
def readKeyPart (text : List Char) : Option (String × List Char) :=
  match text with
  | '"' :: rest => (readBasic rest).map fun (chars, rest) ↦ (String.ofList chars, rest)
  | '\'' :: rest => (readLiteral rest).map fun (chars, rest) ↦ (String.ofList chars, rest)
  | text =>
    let key := text.takeWhile isKeyChar
    if key.isEmpty then none else some (String.ofList key, text.dropWhile isKeyChar)

/-- A dotted key has fewer parts than this. -/
def maxNesting : Nat := 80

/-- Reads the parts of a key, with blanks around each, up to a number of parts. -/
def readKeyParts : Nat → List Char → Option (List String × List Char)
  | 0, _ => none
  | parts + 1, text => do
    let (key, rest) ← readKeyPart (skipBlanks text)
    match skipBlanks rest with
    | '.' :: rest =>
      let (keys, rest) ← readKeyParts parts rest
      return (key :: keys, rest)
    | rest => return ([key], rest)

/-- Reads a key: the parts before its last dot, and the last one. -/
def readKey (text : List Char) : Option ((List String × String) × List Char) := do
  let (keys, rest) ← readKeyParts (maxNesting - 1) text
  return ((keys.dropLast, ← keys.getLast?), rest)

/-! ### Values -/

/-- Reads the rest of an array, whose items are separated by commas, with blanks, comments and
line ends around them and a comma allowed at the end. -/
def readItems (item : List Char → Option (Toml × List Char)) :
    Nat → List Char → Option (List Toml × List Char)
  | 0, _ => none
  | rounds + 1, text =>
    match skipToToken text with
    | ']' :: rest => some ([], rest)
    | text => do
      let (first, rest) ← item text
      match skipToToken rest with
      | ',' :: rest =>
        let (items, rest) ← readItems item rounds rest
        return (first :: items, rest)
      | ']' :: rest => return ([first], rest)
      | _ => none

/-- Reads a binding, up to its value and the blanks after it. -/
def readBinding (item : List Char → Option (Toml × List Char)) (text : List Char) :
    Option (Binding × List Char) := do
  let ((path, key), rest) ← readKey text
  let rest ← after? '=' rest
  let (value, rest) ← item (skipBlanks rest)
  return (⟨path, key, value⟩, skipBlanks rest)

/-- Reads the rest of a table in braces after its first binding: it stands on one line, and no
comma may stand at its end. -/
def readMoreBindings (item : List Char → Option (Toml × List Char)) :
    Nat → List Char → Option (List Binding × List Char)
  | 0, _ => none
  | rounds + 1, text => do
    let (binding, rest) ← readBinding item text
    match rest with
    | ',' :: rest =>
      let (bindings, rest) ← readMoreBindings item rounds rest
      return (binding :: bindings, rest)
    | '}' :: rest => return ([binding], rest)
    | _ => none

/-- Reads the rest of a table in braces. -/
def readBindings (item : List Char → Option (Toml × List Char)) (text : List Char) :
    Option (List Binding × List Char) :=
  match skipBlanks text with
  | '}' :: rest => some ([], rest)
  | text => readMoreBindings item text.length text

/-- Reads a value in which arrays and tables are nested at most `depth` deep. -/
def readValue : Nat → List Char → Option (Toml × List Char)
  | _, '"' :: text =>
    (readString ('"' :: text)).map fun (chars, rest) ↦ (.string (String.ofList chars), rest)
  | _, '\'' :: text =>
    (readString ('\'' :: text)).map fun (chars, rest) ↦ (.string (String.ofList chars), rest)
  | depth + 1, '[' :: text => do
    let (items, rest) ← readItems (readValue depth) (text.length + 1) text
    return (.array items, rest)
  | depth + 1, '{' :: text => do
    let (bindings, rest) ← readBindings (readValue depth) text
    return (← ofBindings bindings, rest)
  | _, text => readWord text

/-- Reads a value. -/
def readTopValue : List Char → Option (Toml × List Char) := readValue (maxNesting - 1)

/-! ### Documents -/

/-- A line of a document that is not blank. -/
inductive Line where
  | binding (binding : Binding)
  | header (isElement : Bool) (path : List String) (key : String)

/-- Reads a line that starts with a bracket, after it. -/
def readHeader (text : List Char) : Option (Line × List Char) :=
  match text with
  | '[' :: rest => do
    let ((path, key), rest) ← readKey rest
    match rest with
    | ']' :: ']' :: rest => return (.header true path key, rest)
    | _ => none
  | rest => do
    let ((path, key), rest) ← readKey rest
    match rest with
    | ']' :: rest => return (.header false path key, rest)
    | _ => none

/-- Reads the lines of a document; each round reads one line. -/
def readLines : Nat → List Char → Option (List Line)
  | 0, _ => none
  | rounds + 1, text =>
    match skipToToken text with
    | [] => some []
    | '#' :: rest => if (rest.dropWhile isPlain).isEmpty then some [] else none
    | '[' :: rest => do
      let (line, rest) ← readHeader rest
      return line :: (← readLines rounds (← endLine? rest))
    | rest => do
      let (binding, rest) ← readBinding readTopValue rest
      return .binding binding :: (← readLines rounds (← endLine? rest))

/-- Lines as bindings and sections. -/
def Source.ofLines (lines : List Line) : Source :=
  lines.foldr add ⟨[], []⟩
where
  /-- Puts a line in front of a document: a header takes the bindings before the next one. -/
  add : Line → Source → Source
    | .binding binding, source => { source with bindings := binding :: source.bindings }
    | .header isElement path key, source =>
      ⟨[], ⟨isElement, path, key, source.bindings⟩ :: source.sections⟩

/-- A text without the mark that may stand at its start. -/
def dropMark : List Char → List Char
  | '\ufeff' :: rest => rest
  | text => text

/-- The document that a text writes. -/
def read? (text : String) : Option Toml := do
  let chars := dropMark text.toList
  (Source.ofLines (← readLines (chars.length + 1) chars)).toToml

end AlignmentTally.Toml
