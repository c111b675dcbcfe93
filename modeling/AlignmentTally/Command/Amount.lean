import AlignmentTally.Machine.Text

/-!
# Amounts

Numbers that are given to commands. Blanks and a plus sign may stand before a number, and a letter
after it multiplies it: by a power of 1024, or of 1000 with a `B` after the letter. A letter alone
stands for one of its units.
-/

namespace AlignmentTally.Command

open Machine

namespace Amount

/-- The greatest number that commands count with. -/
def greatest : Nat := 18446744073709551615

/-- The digits at the start of a text, after blanks and a plus sign, and what follows. -/
def digits (text : Text) : Text × Text :=
  let text := text.dropWhile (" \t\n\x0b\x0c\r".toList.contains ·)
  let text := if text.head? = some '+' then text.drop 1 else text
  let digits := text.takeWhile Char.isDigit
  (digits, text.drop digits.length)

/-- The number at the start of a text, and what follows. -/
def start? (text : Text) : Option (Nat × Text) :=
  let (digits, rest) := digits text
  if digits.isEmpty then none else some (Text.natOfDigits 10 digits, rest)

/-- The number that a text writes. -/
def plain? (text : Text) : Option Nat :=
  match start? text with
  | some (n, []) => some n
  | _ => none

/-- The power of a thousand that a letter stands for. -/
def power? (letter : Char) : Option Nat :=
  [('k', 1), ('K', 1), ('m', 2), ('M', 2), ('g', 3), ('G', 3), ('t', 4), ('T', 4), ('P', 5),
    ('E', 6), ('Z', 7), ('Y', 8), ('R', 9), ('Q', 10)].lookup letter

/-- What the unit that a text begins with is worth, if it may be used, and what follows it. -/
def unit? (units : String) (text : Text) : Option (Nat × Text) :=
  match text with
  | [] => none
  | letter :: rest =>
    if ¬ units.toList.contains letter then none
    else
      match letter with
      | 'c' => some (1, rest)
      | 'w' => some (2, rest)
      | 'b' => some (512, rest)
      | letter =>
        (power? letter).map fun power ↦
          match rest with
          | 'i' :: 'B' :: rest => (Nat.pow 1024 power, rest)
          | 'B' :: rest => (Nat.pow 1000 power, rest)
          | rest => (Nat.pow 1024 power, rest)

/-- The units that most commands know. -/
def usualUnits : String := "bkKmMGTPEZYRQ"

/-- The size that a text writes with one of some units. -/
def sizeIn? (units : String) (text : Text) : Option Nat :=
  let (digits, rest) := digits text
  let n := if digits.isEmpty then 1 else Text.natOfDigits 10 digits
  match rest with
  | [] => if digits.isEmpty then none else some n
  | rest =>
    match unit? units rest with
    | some (worth, []) => some (n * worth)
    | _ => none

/-- The size that a text writes with one of the usual units. -/
def size? (text : Text) : Option Nat := sizeIn? usualUnits text

end Amount

end AlignmentTally.Command
