import AlignmentTally.Shell.Output

/-!
# Declarations

How parameters are shown: as the commands that declare them, with letters for their properties and
texts in quotes.
-/

namespace AlignmentTally.Shell

open Machine

namespace Declaration

/-- A text between double quotes, or between single quotes after a dollar if it holds characters that
cannot be shown. -/
def quote (text : Text) : Text :=
  if text.any fun c ↦ c.toNat < 32 || c.toNat = 127 then Output.quoteEscaped text
  else
    '"' :: (text.flatMap fun c ↦ if "\"\\$\x60".toList.contains c then ['\\', c] else [c]) ++ ['"']

/-- A text between single quotes, or after a dollar if it holds characters that cannot be shown. -/
def quoteAlways (text : Text) : Text :=
  if text.any fun c ↦ c.toNat < 32 || c.toNat = 127 then Output.quoteEscaped text
  else '\'' :: (text.flatMap fun c ↦ if c = '\'' then "'\\''".toList else [c]) ++ ['\'']

/-- A key as it is shown. -/
def quoteKey (key : Text) : Text :=
  if ¬ key.isEmpty ∧ key.all fun c ↦ isNameChar c || "-./:+,%@".toList.contains c then key
  else quote key

/-- The letters of the properties of a parameter. -/
def letters (entry : Variable) : Text :=
  let kind : Text :=
    match entry.value with
    | .items _ => ['a']
    | .table _ => ['A']
    | _ => []
  kind ++ (if entry.isInteger then ['i'] else []) ++
    (if entry.isReference then ['n'] else []) ++
    (if entry.readOnly then ['r'] else []) ++ (if entry.exported then ['x'] else []) ++
    (if entry.upper = some false then ['l'] else []) ++
    (if entry.upper = some true then ['u'] else [])

/-- What a parameter stands for, as it is shown after its name. -/
def shownValue (value : Value) : Text :=
  let item (key text : Text) : Text := '[' :: key ++ "]=".toList ++ quote text
  match value with
  | .none => []
  | .text text => '=' :: quote text
  | .items items =>
    "=(" ++ Text.join [' '] (items.map fun (n, text) ↦ item (Text.ofNat n) text) ++ ")"
  | .table entries =>
    "=(" ++ (entries.map fun (key, text) ↦ item (quoteKey key) text ++ [' ']).flatten ++ ")"

/-- The start of the command that declares a parameter, up to its name. -/
def front (name : Text) (entry : Variable) : Text :=
  let letters := letters entry
  "declare -" ++ (if letters.isEmpty then ['-'] else letters) ++ ' ' :: name

/-- The command that declares a parameter. -/
def shown (name : Text) (entry : Variable) : Text :=
  front name entry ++ shownValue entry.value ++ ['\n']

/-- The command that gives a parameter a text, with its properties if it has any. -/
def assignment (name : Text) (entry : Variable) (text? : Option Text) : Text :=
  let value : Text := text?.elim [] fun text ↦ '=' :: quoteAlways text
  if ¬ (letters entry).isEmpty then front name entry ++ value
  else if text?.isSome then name ++ value
  else []

/-- The keys and texts of a value, in one text. -/
def entries (value : Value) : Text :=
  match value with
  | .table entries =>
    entries.flatMap fun (key, text) ↦ quoteKey key ++ ' ' :: quote text ++ [' ']
  | value => Text.join [' '] (value.entries.map fun (key, text) ↦ key ++ ' ' :: quote text)

end Declaration

end AlignmentTally.Shell
