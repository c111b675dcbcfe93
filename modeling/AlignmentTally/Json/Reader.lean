import AlignmentTally.Json.Basic
import AlignmentTally.Json.Error

/-!
# Reading JSON

Each reader takes the unread text and gives a result with what remains, or a fault. A fault
stands either directly before the unread text (`faultAt`) or after the next byte of it
(`faultAfterNext`), whichever names the offending byte.

## Depth and rounds

Containers may be nested to a depth of 127 (`maxDepth`), and the reader of a value is a recursion on
the depth that is left. Items and members are read in rounds, of which there are as many as the text
has characters; each round takes up some of the text, so the bound is never met.

## Numbers

Numbers with a fraction or an exponent, and integers beyond 64 bits, become binary64 numbers by one
multiplication or division by a power of ten, from at most as many leading digits as fit 64 bits;
such a number may differ from the nearest one in its last place.
-/

namespace AlignmentTally.Json

/-- A fault directly before the unread text. -/
def faultAt {α : Type} (cause : Cause) (unread : List Char) : Except Fault (α × List Char) :=
  .error ⟨cause, byteCount unread⟩

/-- A fault after the next byte of the unread text. -/
def faultAfterNext {α : Type} (cause : Cause) (unread : List Char) :
    Except Fault (α × List Char) :=
  .error ⟨cause, byteCount unread - 1⟩

/-- Blanks between tokens: space, tab, line feed and carriage return. -/
def isBlank (c : Char) : Bool := c = ' ' || c = '\t' || c = '\n' || c = '\r'

/-- The text after the blanks at its start. -/
def skipBlanks (text : List Char) : List Char := text.dropWhile isBlank

/-! ### Words -/

/-- Reads the rest of a word whose first letter decided for it. -/
def readWord {α : Type} (value : α) : List Char → List Char → Except Fault (α × List Char)
  | [], rest => .ok (value, rest)
  | _ :: _, [] => faultAt .eofInValue []
  | w :: word, c :: rest =>
    if c = w then readWord value word rest else faultAfterNext .expectedIdent (c :: rest)

/-! ### Strings -/

/-- The value of a hexadecimal digit. -/
def hexDigit? (c : Char) : Option Nat :=
  if '0' ≤ c ∧ c ≤ '9' then some (c.toNat - '0'.toNat)
  else if 'a' ≤ c ∧ c ≤ 'f' then some (c.toNat - 'a'.toNat + 10)
  else if 'A' ≤ c ∧ c ≤ 'F' then some (c.toNat - 'A'.toNat + 10)
  else none

/-- The value of four hexadecimal digits. -/
def hexUnit? (a b c d : Char) : Option Nat := do
  return 4096 * (← hexDigit? a) + 256 * (← hexDigit? b) + 16 * (← hexDigit? c) + (← hexDigit? d)

/-- The character that a backslash and one letter stand for. -/
def escaped? : Char → Option Char
  | '"' => some '"'
  | '\\' => some '\\'
  | '/' => some '/'
  | 'b' => some '\x08'
  | 'f' => some '\x0c'
  | 'n' => some '\n'
  | 'r' => some '\r'
  | 't' => some '\t'
  | _ => none

/-- Whether a code unit is the first half of a surrogate pair. -/
def isHighSurrogate (unit : Nat) : Bool := 0xd800 ≤ unit && unit ≤ 0xdbff

/-- Whether a code unit is the second half of a surrogate pair. -/
def isLowSurrogate (unit : Nat) : Bool := 0xdc00 ≤ unit && unit ≤ 0xdfff

/-- The character of a surrogate pair. -/
def ofSurrogates (high low : Nat) : Char :=
  .ofNat (0x10000 + (high - 0xd800) * 0x400 + (low - 0xdc00))

/-- The fault of a `\u` whose four digits are not there: the text ends within four bytes, or
those bytes are not hexadecimal digits. -/
def faultInUnit {α : Type} (unread : List Char) : Except Fault (α × List Char) :=
  if byteCount unread < 4 then .error ⟨.eofInString, 0⟩
  else .error ⟨.invalidEscape, byteCount unread - 4⟩

/-- The fault after the first half of a surrogate pair when no second half follows. -/
def faultInPair {α : Type} : List Char → Except Fault (α × List Char)
  | [] => faultAt .eofInString []
  | ['\\'] => faultAt .eofInString []
  | '\\' :: 'u' :: rest => faultInUnit rest
  | '\\' :: rest => faultAfterNext .unfinishedSurrogatePair rest
  | rest => faultAfterNext .unfinishedSurrogatePair rest

/-- Reads the rest of a string, after its opening quote. -/
def readString : List Char → Except Fault (List Char × List Char)
  | [] => faultAt .eofInString []
  | '"' :: rest => .ok ([], rest)
  | '\\' :: 'u' :: a :: b :: c :: d :: rest =>
    match hexUnit? a b c d with
    | none => faultInUnit (a :: b :: c :: d :: rest)
    | some unit =>
      if isLowSurrogate unit then faultAt .loneLeadingSurrogate rest
      else if isHighSurrogate unit then
        match rest with
        | '\\' :: 'u' :: e :: f :: g :: h :: rest =>
          match hexUnit? e f g h with
          | none => faultInUnit (e :: f :: g :: h :: rest)
          | some low =>
            if isLowSurrogate low then do
              let (chars, rest) ← readString rest
              return (ofSurrogates unit low :: chars, rest)
            else faultAt .loneLeadingSurrogate rest
        | rest => faultInPair rest
      else do
        let (chars, rest) ← readString rest
        return (.ofNat unit :: chars, rest)
  | '\\' :: 'u' :: rest => faultInUnit rest
  | ['\\'] => faultAt .eofInString []
  | '\\' :: c :: rest =>
    match escaped? c with
    | none => faultAfterNext .invalidEscape (c :: rest)
    | some char => do
      let (chars, rest) ← readString rest
      return (char :: chars, rest)
  | c :: rest =>
    if c < ' ' then faultAt .controlCharacter rest
    else do
      let (chars, rest) ← readString rest
      return (c :: chars, rest)

/-! ### Numbers -/

/-- The value of a decimal digit. -/
def digitValue (c : Char) : Nat := c.toNat - '0'.toNat

/-- The natural number that decimal digits write. -/
def ofDigits (digits : List Char) : Nat :=
  digits.foldl (fun n c ↦ 10 * n + digitValue c) 0

/-- The text cut after its leading decimal digits. -/
def spanDigits (text : List Char) : List Char × List Char := text.span Char.isDigit

/-- The greatest significand: 64 bits. -/
def maxSignificand : Nat := 1 <<< 64 - 1

/-- Appends digits to a significand while it fits 64 bits, and counts the digits that are left
over, from the first one that does not fit. -/
def appendDigits (significand : Nat) : List Char → Nat × Nat
  | [] => (significand, 0)
  | c :: digits =>
    let next := 10 * significand + digitValue c
    if next ≤ maxSignificand then appendDigits next digits else (significand, digits.length + 1)

/-- Powers of ten that are finite in binary64 have exponents up to this one. -/
def maxPowerOfTen : Nat := 308

/-- A power of ten as a binary64 magnitude. -/
def powerOfTen? (exponent : Nat) : Option Binary64 := Binary64.ofNat? (tenTo exponent)

/-- Divides a magnitude by `10 ^ places`, in steps of at most `10 ^ 308`. Zero stays zero. -/
def scaleDown (x : Binary64) (places : Nat) : Option Binary64 :=
  if x.significand = 0 then some x
  else if places ≤ maxPowerOfTen then do x.div? (← powerOfTen? places)
  else do
    let step ← x.div? (← powerOfTen? maxPowerOfTen)
    scaleDown step (places - maxPowerOfTen)
termination_by places
decreasing_by simp [maxPowerOfTen] at *; omega

/-- The magnitude `significand · 10 ^ exponent`, by one rounding of the significand and one of
its product or quotient with a power of ten; `none` when it is too large. -/
def scale? (significand : Nat) (exponent : Int) : Option Binary64 := do
  let x ← Binary64.ofNat? significand
  if exponent < 0 then scaleDown x exponent.natAbs
  else if exponent ≤ maxPowerOfTen then x.mul? (← powerOfTen? exponent.toNat)
  else if x.significand = 0 then some x
  else none

/-- The number with a sign, a significand and a power of ten. -/
def finishFloat (negative : Bool) (significand : Nat) (exponent : Int) (rest : List Char) :
    Except Fault (Json × List Char) :=
  match scale? significand exponent with
  | some magnitude => .ok (.float negative magnitude, rest)
  | none => faultAt .numberOutOfRange rest

/-- Exponents are written with at most this value. -/
def maxExponent : Nat := 1 <<< 31 - 1

/-- A power of ten held within 32 bits. -/
def clampExponent (exponent : Int) : Int :=
  max (-(maxExponent : Int) - 1) (min maxExponent exponent)

/-- Appends digits to an exponent while it stays within bounds; otherwise the text from after the
first digit that does not fit. -/
def appendExponent (exponent : Nat) : List Char → Nat ⊕ List Char
  | [] => .inl exponent
  | c :: digits =>
    let next := 10 * exponent + digitValue c
    if next ≤ maxExponent then appendExponent next digits else .inr digits

/-- Reads the exponent of a number, after its `e`. -/
def readExponent (negative : Bool) (significand : Nat) (exponent : Int) (text : List Char) :
    Except Fault (Json × List Char) :=
  let (negativeExponent, text) := match text with
    | '+' :: rest => (false, rest)
    | '-' :: rest => (true, rest)
    | rest => (false, rest)
  match text with
  | [] => faultAt .eofInValue []
  | c :: more =>
    if c.isDigit then
      let (digits, rest) := spanDigits (c :: more)
      match appendExponent 0 digits with
      | .inl written =>
        let power := if negativeExponent then exponent - written else exponent + written
        finishFloat negative significand (clampExponent power) rest
      | .inr left =>
        if significand ≠ 0 ∧ ¬ negativeExponent then faultAt .numberOutOfRange (left ++ rest)
        else .ok (.float negative .zero, rest)
    else faultAfterNext .invalidNumber (c :: more)

/-- Reads what may follow the digits of a number that is not an integer: an exponent. -/
def readExponent? (negative : Bool) (significand : Nat) (exponent : Int) (text : List Char) :
    Except Fault (Json × List Char) :=
  match text with
  | 'e' :: rest => readExponent negative significand exponent rest
  | 'E' :: rest => readExponent negative significand exponent rest
  | rest => finishFloat negative significand exponent rest

/-- Reads the fraction of a number, after its point. -/
def readFraction (negative : Bool) (significand : Nat) (exponent : Int) (text : List Char) :
    Except Fault (Json × List Char) :=
  let (digits, rest) := spanDigits text
  if digits.isEmpty then
    faultAfterNext (if rest.isEmpty then .eofInValue else .invalidNumber) rest
  else
    let (significand, dropped) := appendDigits significand digits
    readExponent? negative significand (exponent - (digits.length - dropped)) rest

/-- An integer, or the binary64 number next to it: minus zero and integers below `-2 ^ 63` are
not integers. -/
def finishInteger (negative : Bool) (significand : Nat) (rest : List Char) :
    Except Fault (Json × List Char) :=
  if ¬ negative then .ok (.integer significand, rest)
  else if significand = 0 ∨ 1 <<< 63 < significand then finishFloat true significand 0 rest
  else .ok (.integer (-significand), rest)

/-- Reads what may follow the digits before the point of a number. -/
def readAfterWhole (negative : Bool) (significand dropped : Nat) (text : List Char) :
    Except Fault (Json × List Char) :=
  match text with
  | '.' :: rest => readFraction negative significand dropped rest
  | rest =>
    if dropped = 0 ∧ rest.head? ≠ some 'e' ∧ rest.head? ≠ some 'E' then
      finishInteger negative significand rest
    else readExponent? negative significand dropped rest

/-- Reads a number, after its sign. -/
def readNumber (negative : Bool) : List Char → Except Fault (Json × List Char)
  | [] => faultAt .eofInValue []
  | '0' :: rest =>
    if (rest.head?.map Char.isDigit).getD false then faultAfterNext .invalidNumber rest
    else readAfterWhole negative 0 0 rest
  | c :: rest =>
    if c.isDigit then
      let (digits, rest) := spanDigits (c :: rest)
      let (significand, dropped) := appendDigits 0 digits
      readAfterWhole negative significand dropped rest
    else faultAfterNext .invalidNumber (c :: rest)

/-! ### Containers -/

/-- Reads the rest of an array, after one of its items; each round reads one more item, so the
number of characters bounds the rounds. -/
def readMoreItems (item : List Char → Except Fault (Json × List Char)) :
    Nat → List Char → Except Fault (List Json × List Char)
  | 0, text => faultAfterNext .eofInArray text
  | rounds + 1, text =>
    match skipBlanks text with
    | [] => faultAfterNext .eofInArray []
    | ']' :: rest => .ok ([], rest)
    | ',' :: rest =>
      match skipBlanks rest with
      | [] => faultAfterNext .eofInValue []
      | ']' :: rest => faultAfterNext .trailingComma (']' :: rest)
      | rest => do
        let (first, rest) ← item rest
        let (items, rest) ← readMoreItems item rounds rest
        return (first :: items, rest)
    | rest => faultAfterNext .expectedCommaOrBracket rest

/-- Reads the rest of an array, after its opening bracket. -/
def readArray (item : List Char → Except Fault (Json × List Char)) (text : List Char) :
    Except Fault (List Json × List Char) :=
  match skipBlanks text with
  | [] => faultAfterNext .eofInArray []
  | ']' :: rest => .ok ([], rest)
  | text => do
    let (first, rest) ← item text
    let (items, rest) ← readMoreItems item rest.length rest
    return (first :: items, rest)

/-- Reads a member of an object, after the opening quote of its key. -/
def readMember (item : List Char → Except Fault (Json × List Char)) (text : List Char) :
    Except Fault ((String × Json) × List Char) := do
  let (key, rest) ← readString text
  match skipBlanks rest with
  | [] => faultAfterNext .eofInObject []
  | ':' :: rest =>
    let (value, rest) ← item rest
    return ((String.ofList key, value), rest)
  | rest => faultAfterNext .expectedColon rest

/-- Reads the rest of an object, after one of its members. -/
def readMoreMembers (item : List Char → Except Fault (Json × List Char)) :
    Nat → List Char → Except Fault (List (String × Json) × List Char)
  | 0, text => faultAfterNext .eofInObject text
  | rounds + 1, text =>
    match skipBlanks text with
    | [] => faultAfterNext .eofInObject []
    | '}' :: rest => .ok ([], rest)
    | ',' :: rest =>
      match skipBlanks rest with
      | [] => faultAfterNext .eofInValue []
      | '"' :: rest => do
        let (first, rest) ← readMember item rest
        let (members, rest) ← readMoreMembers item rounds rest
        return (first :: members, rest)
      | '}' :: rest => faultAfterNext .trailingComma ('}' :: rest)
      | rest => faultAfterNext .keyNotString rest
    | rest => faultAfterNext .expectedCommaOrBrace rest

/-- Reads the rest of an object, after its opening brace. -/
def readObject (item : List Char → Except Fault (Json × List Char)) (text : List Char) :
    Except Fault (List (String × Json) × List Char) :=
  match skipBlanks text with
  | [] => faultAfterNext .eofInObject []
  | '}' :: rest => .ok ([], rest)
  | '"' :: rest => do
    let (first, rest) ← readMember item rest
    let (members, rest) ← readMoreMembers item rest.length rest
    return (first :: members, rest)
  | rest => faultAfterNext .keyNotString rest

/-! ### Values -/

/-- Reads a value that is not a container. -/
def readScalar : List Char → Except Fault (Json × List Char)
  | [] => faultAfterNext .eofInValue []
  | 'n' :: rest => readWord .null "ull".toList rest
  | 't' :: rest => readWord (.bool true) "rue".toList rest
  | 'f' :: rest => readWord (.bool false) "alse".toList rest
  | '"' :: rest => do
    let (chars, rest) ← readString rest
    return (.string (String.ofList chars), rest)
  | '-' :: rest => readNumber true rest
  | c :: rest =>
    if c.isDigit then readNumber false (c :: rest) else faultAfterNext .expectedValue (c :: rest)

/-- Reads a value after blanks, in which containers are nested at most `depth` deep. -/
def readValue : Nat → List Char → Except Fault (Json × List Char)
  | 0, text =>
    match skipBlanks text with
    | '[' :: rest => faultAfterNext .tooDeep ('[' :: rest)
    | '{' :: rest => faultAfterNext .tooDeep ('{' :: rest)
    | text => readScalar text
  | depth + 1, text =>
    match skipBlanks text with
    | '[' :: rest => do
      let (items, rest) ← readArray (readValue depth) rest
      return (.array items, rest)
    | '{' :: rest => do
      let (members, rest) ← readObject (readValue depth) rest
      return (ofMembers members, rest)
    | text => readScalar text

/-- Containers may be nested this deep. -/
def maxDepth : Nat := 127

/-- Reads a text that is one value, with blanks around it. -/
def readDocument (text : List Char) : Except Fault Json := do
  let (value, rest) ← readValue maxDepth text
  match skipBlanks rest with
  | [] => return value
  | rest => .error ⟨.trailingCharacters, byteCount rest - 1⟩

/-- The value that a text writes, or what is wrong with the text and where. -/
def read (text : String) : Except Error Json :=
  (readDocument text.toList).mapError fun fault ↦ fault.locate text.toList

end AlignmentTally.Json
