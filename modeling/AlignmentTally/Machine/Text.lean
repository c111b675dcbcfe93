import AlignmentTally.Utf8

/-!
# Texts of octets

What programs read and write are octets. A text has one character for each of them, so that every
sequence of octets is a text, and patterns on texts are patterns on octets.
-/

namespace AlignmentTally.Machine

/-- More rounds than anything goes through that comes to an end. -/
def endless : Nat := 1000000000000000

/-- A text, one character for each octet. -/
abbrev Text := List Char

/-- A text that is written out stands for its characters. -/
scoped instance : Coe String Text := ⟨String.toList⟩

/-- Texts are hashed by the code points of their characters. -/
instance : Hashable Text := @instHashableList Char instHashableChar

namespace Text

/-- The text of octets. -/
def ofOctets (octets : List UInt8) : Text := octets.map fun b ↦ .ofNat b.toNat

/-- The octets of a text. -/
def toOctets (text : Text) : List UInt8 := text.map fun c ↦ .ofNat c.toNat

/-- The text of an array of octets. -/
def ofBytes (bytes : ByteArray) : Text := ofOctets bytes.toList

/-- The octets of a text, as an array. -/
def toBytes (text : Text) : ByteArray := text.foldl (fun bytes c ↦ bytes.push (.ofNat c.toNat)) .empty

/-- The octets of a string, as a text. -/
def ofString (s : String) : Text := ofOctets (Utf8.encode s)

/-- The string that a text writes; octets that are not UTF-8 stand for their own code points. -/
def toString (text : Text) : String :=
  match Utf8.decode (toOctets text) with
  | .ok s => s
  | .error _ => String.ofList text

/-- The decimal digits of a number. -/
def ofNat (n : Nat) : Text := Nat.toDigits 10 n

/-- The text of an integer. -/
def ofInt (n : Int) : Text := if n < 0 then '-' :: ofNat n.natAbs else ofNat n.natAbs

/-- The number that digits of a base write. -/
def natOfDigits (base : Nat) (digits : Text) : Nat :=
  digits.foldl (fun n d ↦ base * n + digit d) 0
where
  /-- The value of a digit, letters going on after nine. -/
  digit (c : Char) : Nat :=
    if c.isDigit then c.toNat - '0'.toNat
    else if c.isLower then c.toNat - 'a'.toNat + 10
    else c.toNat - 'A'.toNat + 10

/-- The number that a text of decimal digits writes. -/
def toNat? (text : Text) : Option Nat :=
  if text.isEmpty ∨ ¬ text.all Char.isDigit then none else some (natOfDigits 10 text)

/-- The integer that a text of decimal digits writes, with a sign or without. -/
def toInt? : Text → Option Int
  | '-' :: digits => (toNat? digits).map fun n ↦ -(n : Int)
  | '+' :: digits => (toNat? digits).map fun n ↦ (n : Int)
  | digits => (toNat? digits).map fun n ↦ (n : Int)

/-- Whether a text is before another one, octet by octet. -/
def before : Text → Text → Bool
  | [], [] => false
  | [], _ :: _ => true
  | _ :: _, [] => false
  | a :: as, b :: bs => a.toNat < b.toNat || (a = b && before as bs)

/-- Whether a text begins with another one. -/
def beginsWith (text start : Text) : Bool := text.take start.length = start

/-- The pieces between occurrences of a character. There is one more than there are
occurrences. -/
def splitOn (separator : Char) (text : Text) : List Text :=
  let (pieces, last) := text.foldl
    (fun (pieces, piece) c ↦
      if c = separator then (piece.reverse :: pieces, []) else (pieces, c :: piece))
    (([] : List Text), ([] : Text))
  (last.reverse :: pieces).reverse

/-- The pieces of a text that end in a character, each without it. The last one may lack it. -/
def pieces (ending : Char) (text : Text) : List Text :=
  let pieces := splitOn ending text
  if pieces.getLast? = some [] then pieces.dropLast else pieces

/-- The lines of a text, each without its line end. -/
def lines (text : Text) : List Text := pieces '\n' text

/-- The pieces of a text that end in a character, each with it. The last one may lack it. -/
def wholes (ending : Char) (text : Text) : List Text :=
  let (pieces, last) := text.foldl
    (fun (pieces, piece) c ↦
      if c = ending then ((c :: piece).reverse :: pieces, []) else (pieces, c :: piece))
    (([] : List Text), ([] : Text))
  (if last.isEmpty then pieces else last.reverse :: pieces).reverse

/-- The longest pieces without characters that have a property. -/
def words (separates : Char → Bool) (text : Text) : List Text :=
  let (words, last) := text.foldl
    (fun (words, word) c ↦
      if separates c then (word.reverse :: words, []) else (words, c :: word))
    (([] : List Text), ([] : Text))
  ((last.reverse :: words).filter (!·.isEmpty)).reverse

/-- Pieces with a text between any two of them. -/
def join (separator : Text) (pieces : List Text) : Text := separator.intercalate pieces

/-- A text with all occurrences of another one replaced, in at most some rounds. -/
def replaceAll (old new : Text) : Nat → Text → Text
  | 0, text => text
  | rounds + 1, text =>
    if old.isEmpty then text
    else if beginsWith text old then new ++ replaceAll old new rounds (text.drop old.length)
    else
      match text with
      | c :: rest => c :: replaceAll old new rounds rest
      | [] => []

/-- A text without the characters at its start that have a property. -/
def trimStart (p : Char → Bool) (text : Text) : Text := text.dropWhile p

/-- A text without the characters at its end that have a property. -/
def trimEnd (p : Char → Bool) (text : Text) : Text := (text.reverse.dropWhile p).reverse

/-- A text at the right of a field that is filled with a character. -/
def padLeft (fill : Char) (width : Nat) (text : Text) : Text :=
  List.replicate (width - text.length) fill ++ text

/-- A text at the left of a field of blanks. -/
def padRight (width : Nat) (text : Text) : Text :=
  text ++ List.replicate (width - text.length) ' '

end Text

end AlignmentTally.Machine
