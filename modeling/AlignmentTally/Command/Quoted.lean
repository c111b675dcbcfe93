import AlignmentTally.Machine.Text

/-!
# Names in complaints

A name in a complaint is written so that a shell would read it as that name: as it is if it has no
characters that mean anything to a shell, and otherwise between quotes. What is no printable
character is spelled out. Other words stand between quotes with escapes.
-/

namespace AlignmentTally.Command

open Machine

namespace Quoted

/-- Whether a character can be printed. -/
def isPrintable (c : Char) : Bool := ' ' ≤ c && c ≤ '~'

/-- The letter that stands for a control character after a backslash. -/
def letter? (c : Char) : Option Char :=
  [('\x07', 'a'), ('\x08', 'b'), ('\x0c', 'f'), ('\n', 'n'), ('\r', 'r'), ('\t', 't'),
    ('\x0b', 'v')].lookup c

/-- A character as three octal digits after a backslash. -/
def octal (c : Char) : Text :=
  let n := c.toNat
  '\\' :: [n / 64, n / 8 % 8, n % 8].map Nat.digitChar

/-- How a character that cannot be printed is spelled out. -/
def spelling (c : Char) : Text :=
  match letter? c with
  | some letter => ['\\', letter]
  | none => octal c

/-- Whether a character means something to a shell wherever it stands. -/
def isSpecial (c : Char) : Bool := " !\"$&'()*;<=>?[\\^\x60|\n\r\t".toList.contains c

/-- Whether a text has to stand between quotes. `spells` says that what cannot be printed is spelled
out, for which quotes are needed. -/
def needsQuotes (spells : Bool) (text : Text) : Bool :=
  match text with
  | [] => true
  | first :: rest =>
    first = '#' || first = '~' || (rest.isEmpty && (first = '\x7b' || first = '\x7d')) ||
      text.any fun c ↦ isSpecial c || spells && !isPrintable c

/-- Whether a text may stand between double quotes as it is: its characters mean nothing there. -/
def fitsDouble (text : Text) : Bool :=
  let isPlain (c : Char) : Bool := c.isAlphanum || " '%+,-./:]_@".toList.contains c
  match text with
  | [] => true
  | first :: rest =>
    let isBrace := rest.isEmpty && (first = '\x7b' || first = '\x7d')
    (isPlain first || first = '#' || first = '~' || isBrace) && rest.all isPlain

/-- A text between single quotes. What cannot be printed is spelled out between quotes that allow
for that; `spells` says that such quotes are open. -/
def single (spells : Bool) : Text → Text
  | [] => []
  | c :: rest =>
    if c = '\'' then "'\\''".toList ++ single false rest
    else if isPrintable c then
      (if spells then ['\'', '\''] else []) ++ c :: single false rest
    else (if spells then [] else "'$'".toList) ++ spelling c ++ single true rest

/-- A text between quotes. -/
def between (text : Text) : Text :=
  if text.contains '\'' then
    -- the quotes for the last character count as open at the start
    if fitsDouble text then '"' :: text ++ ['"']
    else '\'' :: single (text.getLast?.any (!isPrintable ·)) text ++ ['\'']
  else '\'' :: single false text ++ ['\'']

/-- A text between single quotes, in which nothing is spelled out. -/
def plainly (text : Text) : Text :=
  if text.contains '\'' ∧ fitsDouble text then '"' :: text ++ ['"']
  else '\'' :: (text.flatMap fun c ↦ if c = '\'' then "'\\''".toList else [c]) ++ ['\'']

/-- A text with a backslash in front of backslashes and of some other characters. What cannot be
printed is spelled out. -/
def escaped (special text : Text) : Text :=
  text.flatMap fun c ↦
    if c = '\\' ∨ special.contains c then ['\\', c]
    else if isPrintable c then [c]
    else spelling c

/-- A word between quotes, with escapes. -/
def word (text : Text) : Text := '\'' :: escaped ['\''] text ++ ['\'']

/-! ### Styles -/

/-- How a text is quoted. -/
inductive Style where
  /-- Not at all. -/
  | literal
  /-- For a shell, between quotes if it needs them. -/
  | shell
  /-- For a shell, between quotes. -/
  | shellAlways
  /-- For a shell, with spellings, between quotes if it needs them. -/
  | shellEscape
  /-- For a shell, with spellings, between quotes. -/
  | shellEscapeAlways
  /-- Between double quotes, with escapes. -/
  | double
  /-- Between double quotes, with escapes, if it needs them. -/
  | doubleMaybe
  /-- With escapes, without quotes. -/
  | escape
  /-- Between single quotes, with escapes. -/
  | locale
  /-- Between double quotes, with escapes, whatever the language. -/
  | clocale
  deriving DecidableEq, Repr

/-- The words for styles. -/
def Style.words : List (String × Style) :=
  [("literal", .literal), ("shell", .shell), ("shell-always", .shellAlways),
    ("shell-escape", .shellEscape), ("shell-escape-always", .shellEscapeAlways),
    ("c", .double), ("c-maybe", .doubleMaybe), ("escape", .escape), ("locale", .locale),
    ("clocale", .clocale)]

/-- A text in a style. Some characters are special besides the usual ones. -/
def inStyle (special : Text) (style : Style) (text : Text) : Text :=
  let double (special : Text) : Text := '"' :: escaped ('"' :: special) text ++ ['"']
  let hasSpecial := text.any special.contains
  match style with
  | .literal => text
  | .shell => if needsQuotes false text || hasSpecial then plainly text else text
  | .shellAlways => plainly text
  | .shellEscape => if needsQuotes true text || hasSpecial then between text else text
  | .shellEscapeAlways => between text
  | .double | .clocale => double special
  | .doubleMaybe =>
    if hasSpecial || text.any fun c ↦ c = '"' || !isPrintable c then double [] else text
  | .escape => escaped special text
  | .locale => '\'' :: escaped ('\'' :: special) text ++ ['\'']

/-- A name between quotes if it needs them, where a colon has a meaning too. -/
def name (text : Text) : Text := inStyle [':'] .shellEscape text

end Quoted

end AlignmentTally.Command
