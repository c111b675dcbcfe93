import AlignmentTally.Json.Basic
import AlignmentTally.Number.Shortest

/-!
# Writing JSON

Two forms of the same value: compact, without any blanks, and laid out, with each item or member
on a line of its own, indented by two spaces per level. Both write strings and numbers alike. In a
string only the quote, the backslash and the characters below the space are escaped.
-/

namespace AlignmentTally.Json

/-! ### Strings and numbers -/

/-- A hexadecimal digit in lower case. -/
def hexDigit (n : Nat) : Char := n.digitChar

/-- A character as it stands in a string. -/
def escape (c : Char) : List Char :=
  if c = '"' then ['\\', '"']
  else if c = '\\' then ['\\', '\\']
  else if c = '\x08' then ['\\', 'b']
  else if c = '\x0c' then ['\\', 'f']
  else if c = '\n' then ['\\', 'n']
  else if c = '\r' then ['\\', 'r']
  else if c = '\t' then ['\\', 't']
  else if c < ' ' then ['\\', 'u', '0', '0', hexDigit (c.toNat / 16), hexDigit (c.toNat % 16)]
  else [c]

/-- A string between quotes. -/
def quote (s : String) : List Char := '"' :: s.toList.flatMap escape ++ ['"']

/-- An integer in decimal. -/
def writeInteger (n : Int) : List Char :=
  if n < 0 then '-' :: Nat.toDigits 10 n.natAbs else Nat.toDigits 10 n.natAbs

/-- Powers of ten from `-5` to `15` are written positionally. -/
def floatLayout : DecimalLayout := ⟨-5, 15⟩

/-- A binary64 number as the shortest decimal that reads back. -/
def writeFloat (negative : Bool) (magnitude : Binary64) : List Char :=
  let digits :=
    if magnitude.significand = 0 then "0.0".toList else floatLayout.write magnitude.shortest
  if negative then '-' :: digits else digits

/-- A value that is not a container. -/
def writeScalar : Json → List Char
  | null => "null".toList
  | bool true => "true".toList
  | bool false => "false".toList
  | integer n => writeInteger n
  | float negative magnitude => writeFloat negative magnitude
  | string s => quote s
  | _ => []

/-! ### Compact form -/

mutual

/-- A value without any blanks. -/
def compactChars : Json → List Char
  | array items => '[' :: compactItems items ++ [']']
  | object members => '{' :: compactMembers members ++ ['}']
  | scalar => writeScalar scalar

/-- The items of an array, separated by commas. -/
def compactItems : List Json → List Char
  | [] => []
  | [item] => compactChars item
  | item :: rest => compactChars item ++ ',' :: compactItems rest

/-- The members of an object, separated by commas. -/
def compactMembers : List (String × Json) → List Char
  | [] => []
  | [(key, value)] => quote key ++ ':' :: compactChars value
  | (key, value) :: rest => quote key ++ ':' :: compactChars value ++ ',' :: compactMembers rest

end

/-- A value without any blanks. -/
def compact (value : Json) : String := String.ofList value.compactChars

/-! ### Laid out -/

/-- A line feed and the indentation of a level. -/
def newLine (level : Nat) : List Char := '\n' :: List.replicate (2 * level) ' '

mutual

/-- A value laid out, whose own lines start at `level`. -/
def prettyChars (level : Nat) : Json → List Char
  | array [] => ['[', ']']
  | array items => '[' :: prettyItems (level + 1) items ++ newLine level ++ [']']
  | object [] => ['{', '}']
  | object members => '{' :: prettyMembers (level + 1) members ++ newLine level ++ ['}']
  | scalar => writeScalar scalar

/-- The items of an array, each on its own line. -/
def prettyItems (level : Nat) : List Json → List Char
  | [] => []
  | [item] => newLine level ++ prettyChars level item
  | item :: rest => newLine level ++ prettyChars level item ++ ',' :: prettyItems level rest

/-- The members of an object, each on its own line. -/
def prettyMembers (level : Nat) : List (String × Json) → List Char
  | [] => []
  | [(key, value)] => newLine level ++ quote key ++ ": ".toList ++ prettyChars level value
  | (key, value) :: rest =>
    newLine level ++ quote key ++ ": ".toList ++ prettyChars level value ++
      ',' :: prettyMembers level rest

end

/-- A value laid out over several lines. -/
def pretty (value : Json) : String := String.ofList (value.prettyChars 0)

end AlignmentTally.Json
