/-!
# Faults in a JSON text

What is wrong with a text and where. A reader knows at a fault how much of the text is still
unread; from that and the whole text `Position.ofOffset` computes line and column. Lines are
counted by line feeds and start at 1; the column is the number of bytes since the last line feed,
so it is 0 directly after one.
-/

namespace AlignmentTally.Json

/-- What is wrong with a text that is not JSON. -/
inductive Cause where
  | eofInValue
  | eofInArray
  | eofInObject
  | eofInString
  | expectedValue
  | expectedIdent
  | expectedColon
  | expectedCommaOrBracket
  | expectedCommaOrBrace
  | keyNotString
  | trailingComma
  | trailingCharacters
  | invalidNumber
  | numberOutOfRange
  | invalidEscape
  | loneLeadingSurrogate
  | unfinishedSurrogatePair
  | controlCharacter
  | tooDeep
  deriving DecidableEq, Repr

/-- The words for a cause. -/
def Cause.message : Cause → String
  | eofInValue => "EOF while parsing a value"
  | eofInArray => "EOF while parsing a list"
  | eofInObject => "EOF while parsing an object"
  | eofInString => "EOF while parsing a string"
  | expectedValue => "expected value"
  | expectedIdent => "expected ident"
  | expectedColon => "expected `:`"
  | expectedCommaOrBracket => "expected `,` or `]`"
  | expectedCommaOrBrace => "expected `,` or `\x7d`"
  | keyNotString => "key must be a string"
  | trailingComma => "trailing comma"
  | trailingCharacters => "trailing characters"
  | invalidNumber => "invalid number"
  | numberOutOfRange => "number out of range"
  | invalidEscape => "invalid escape"
  | loneLeadingSurrogate => "lone leading surrogate in hex escape"
  | unfinishedSurrogatePair => "unexpected end of hex escape"
  | controlCharacter => "control character (\\u0000-\\u001F) found while parsing a string"
  | tooDeep => "recursion limit exceeded"

/-- The number of bytes that a text takes in UTF-8. -/
def byteCount (text : List Char) : Nat :=
  text.foldr (fun c bytes ↦ c.utf8Size + bytes) 0

/-- A fault while reading: the cause and how many bytes of the text were still unread. -/
structure Fault where
  /-- What is wrong. -/
  cause : Cause
  /-- The number of bytes after the fault. -/
  unread : Nat
  deriving DecidableEq, Repr

/-- A place in a text. -/
structure Position where
  /-- The line, counted from 1. -/
  line : Nat
  /-- The number of bytes between the start of the line and the place. -/
  column : Nat
  deriving DecidableEq, Repr

/-- The place `offset` bytes into a text. -/
def Position.ofOffset (text : List Char) (offset : Nat) : Position :=
  go 1 0 text offset
where
  /-- Walks on from a line and column. -/
  go (line column : Nat) : List Char → Nat → Position
    | [], offset => ⟨line, column + offset⟩
    | c :: rest, offset =>
      if offset < c.utf8Size then ⟨line, column + offset⟩
      else if c = '\n' then go (line + 1) 0 rest (offset - 1)
      else go line (column + c.utf8Size) rest (offset - c.utf8Size)

/-- A fault and its place. -/
structure Error where
  /-- What is wrong. -/
  cause : Cause
  /-- Where. -/
  position : Position
  deriving DecidableEq, Repr

/-- The place of a fault in the text that was read. -/
def Fault.locate (fault : Fault) (text : List Char) : Error :=
  ⟨fault.cause, Position.ofOffset text (byteCount text - fault.unread)⟩

/-- The cause and place in words. -/
def Error.message (error : Error) : String :=
  s!"{error.cause.message} at line {error.position.line} column {error.position.column}"

end AlignmentTally.Json
