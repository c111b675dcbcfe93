import AlignmentTally.Machine.Text
import AlignmentTally.Number.Scanned

/-!
# Escapes

Characters that are written as a backslash with letters or digits after it: those that do not
print, and octets by number.
-/

namespace AlignmentTally.Machine

namespace Escape

/-- The character that a letter after a backslash stands for. -/
def letter? (c : Char) : Option Char :=
  match c with
  | '\\' => some '\\'
  | 'a' => some '\x07'
  | 'b' => some '\x08'
  | 'e' => some '\x1b'
  | 'f' => some '\x0c'
  | 'n' => some '\n'
  | 'r' => some '\r'
  | 't' => some '\t'
  | 'v' => some '\x0b'
  | _ => none

/-- Whether a character is an octal digit. -/
def isOctal (c : Char) : Bool := '0' ≤ c && c ≤ '7'

/-- Whether a character is a hexadecimal digit. -/
def isHexadecimal (c : Char) : Bool := c.isDigit || 'a' ≤ c.toLower && c.toLower ≤ 'f'

/-- The octet that at most some digits of a base at the start of a text stand for, and the rest. -/
def octet (base most : Nat) (isDigit : Char → Bool) (text : Text) : Char × Text :=
  let digits := (text.take most).takeWhile isDigit
  (.ofNat (Scanned.digits base digits % 256), text.drop digits.length)

/-- Which escapes there are besides the common ones. -/
structure Style where
  /-- Whether there are hexadecimal numbers. -/
  hexadecimal : Bool
  /-- The quotes and other characters that are escaped to stand for themselves. -/
  quotes : Text
  /-- Whether there are numbers of characters. -/
  characters : Bool

/-- Only the common escapes. -/
def Style.common : Style := ⟨false, [], false⟩

/-- All escapes. -/
def Style.all : Style := ⟨true, "\"'?".toList, true⟩

/-- What an escape stands for, after its backslash, and the rest. -/
def read (style : Style) (text : Text) : Text × Text :=
  match text with
  | [] => (['\\'], [])
  | c :: rest =>
    if isOctal c then
      let (value, rest) := octet 8 3 isOctal text
      ([value], rest)
    else
      match letter? c with
      | some value => ([value], rest)
      | none =>
        if style.quotes.contains c then ([c], rest)
        else if style.characters ∧ c = 'E' then (['\x1b'], rest)
        else if style.hexadecimal ∧ c = 'x' ∧ rest.head?.any isHexadecimal then
          let (value, rest) := octet 16 2 isHexadecimal rest
          ([value], rest)
        else if style.characters ∧ (c = 'u' ∨ c = 'U') ∧ rest.head?.any isHexadecimal then
          let digits := (rest.take (if c = 'u' then 4 else 8)).takeWhile isHexadecimal
          let value := Char.ofNat (Scanned.digits 16 digits)
          (Text.ofString (String.singleton value), rest.drop digits.length)
        else (['\\'], text)

/-- A text with its escapes replaced, everything in reverse, and whether one of them ends all. -/
def expandFrom (style : Style) : Nat → Text → Text → Text × Bool
  | 0, _, done => (done, false)
  | rounds + 1, text, done =>
    match text with
    | [] => (done, false)
    | '\\' :: 'c' :: _ => (done, true)
    | '\\' :: '0' :: rest =>
      -- the zero stands in front of the digits here
      if rest.head?.any isOctal then
        let (value, rest) := octet 8 3 isOctal rest
        expandFrom style rounds rest (value :: done)
      else expandFrom style rounds rest ('\x00' :: done)
    | '\\' :: rest =>
      let (value, rest) := read style rest
      expandFrom style rounds rest (value.reverse ++ done)
    | c :: rest => expandFrom style rounds rest (c :: done)

/-- A text with its escapes replaced, and whether one of them ends all. -/
def expand (style : Style) (text : Text) : Text × Bool :=
  if ¬ text.contains '\\' then (text, false)
  else
    let (done, ends) := expandFrom style (text.length + 1) text []
    (done.reverse, ends)

end Escape

end AlignmentTally.Machine
