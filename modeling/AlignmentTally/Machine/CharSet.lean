import AlignmentTally.Machine.Text

/-!
# Sets of characters

The characters between two others, and the classes that are known by name.
-/

namespace AlignmentTally.Machine

/-- A set of characters. -/
inductive CharSet where
  /-- The characters between two, both of them included. -/
  | range (low high : Char)
  /-- The characters of a class, known by name. -/
  | named (name : Text)
  deriving DecidableEq, Repr, Inhabited

namespace CharSet

/-- Whether a character is a printing one that is neither a letter nor a digit nor a blank. -/
def isPunctuation (c : Char) : Bool := '!' ≤ c && c ≤ '~' && !c.isAlphanum

/-- Whether a character is in the class with a name. -/
def isOfClass (name : String) (c : Char) : Bool :=
  match name with
  | "alpha" => c.isAlpha
  | "digit" => c.isDigit
  | "alnum" => c.isAlphanum
  | "upper" => c.isUpper
  | "lower" => c.isLower
  | "space" => " \t\n\r\x0b\x0c".toList.contains c
  | "blank" => c = ' ' || c = '\t'
  | "punct" => isPunctuation c
  | "cntrl" => c < ' ' || c = '\x7f'
  | "print" => ' ' ≤ c && c ≤ '~'
  | "graph" => '!' ≤ c && c ≤ '~'
  | "xdigit" => c.isDigit || 'a' ≤ c.toLower && c.toLower ≤ 'f'
  | _ => false

/-- Whether a character is in a set. -/
def contains (set : CharSet) (c : Char) : Bool :=
  match set with
  | range low high => low ≤ c && c ≤ high
  | named name => isOfClass (String.ofList name) c

end CharSet

end AlignmentTally.Machine
