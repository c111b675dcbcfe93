import AlignmentTally.Command.Rules.Syntax
import AlignmentTally.Machine.Escape
import AlignmentTally.Number.Layout
import AlignmentTally.Regex.Reader

/-!
# Tokens of rules

A program of rules is read token by token. Blanks, comments and line ends behind a backslash only
separate tokens; other line ends end statements.
-/

namespace AlignmentTally.Command.Rules

open Machine

/-- A token. -/
inductive Token where
  /-- A number. -/
  | number (x : Float)
  /-- A text in quotes. -/
  | quoted (text : Text)
  /-- A name or a word of the language, and whether a parenthesis follows at once. -/
  | word (name : Text) (opens : Bool)
  /-- A sign. -/
  | sign (sign : String)
  /-- The end of a line. -/
  | newline
  /-- The end of the program. -/
  | finish
  deriving Inhabited

namespace Token

/-- The signs, the longer ones first. -/
def signs : List String :=
  ["+=", "-=", "*=", "/=", "%=", "^=", "==", "<=", ">=", "!=", "++", "--", "&&", "||", ">>", "!~",
    "\x7b", "\x7d", "(", ")", "[", "]", ";", ",", "+", "-", "*", "/", "%", "^", "!", ">", "<", "|",
    "?", ":", "~", "$", "="]

/-- How a token is shown in a complaint. -/
def shown : Token → Text
  | number x => (({} : Layout).real 'g' (.ofFloat x))
  | quoted text => '"' :: text ++ ['"']
  | word name _ => name
  | .sign text => text.toList
  | newline => "unexpected newline".toList
  | finish => "end of file".toList

/-- Whether a character may begin a name. -/
def beginsName (c : Char) : Bool := c.isAlpha || c = '_'

/-- Whether a character may be part of a name. -/
def isNameChar (c : Char) : Bool := c.isAlphanum || c = '_'

/-- What a backslash in a text stands for, after it, and what follows. -/
def escape (text : Text) : Text × Text :=
  match text with
  | 'e' :: rest => (['\\', 'e'], rest)
  | text => Escape.read ⟨true, ['"'], false⟩ text

/-- A text with its escapes replaced. -/
def unescape : Nat → Text → Text
  | 0, text => text
  | rounds + 1, text =>
    match text with
    | '\\' :: rest =>
      let (value, rest) := escape rest
      value ++ unescape rounds rest
    | c :: rest => c :: unescape rounds rest
    | [] => []

/-- The text up to a quote, as it is written, and what follows the quote. -/
def untilQuote : Nat → Text → Text → Option (Text × Text)
  | 0, _, _ => none
  | rounds + 1, text, taken =>
    match text with
    | [] => none
    | '"' :: rest => some (taken.reverse, rest)
    | '\n' :: _ => none
    | '\\' :: '\n' :: rest => untilQuote rounds rest taken
    | '\\' :: c :: rest => untilQuote rounds rest (c :: '\\' :: taken)
    | c :: rest => untilQuote rounds rest (c :: taken)

/-- A text without the blanks and comments at its start. -/
def skipBlanks : Nat → Text → Text
  | 0, text => text
  | rounds + 1, text =>
    match text with
    | '\\' :: '\n' :: rest => skipBlanks rounds rest
    | '\\' :: '\r' :: '\n' :: rest => skipBlanks rounds rest
    | '#' :: rest => skipBlanks rounds (rest.dropWhile (· ≠ '\n'))
    | c :: rest => if c = ' ' ∨ c = '\t' ∨ c = '\r' then skipBlanks rounds rest else text
    | [] => []

/-- The number at the start of a text, in decimal, and what follows it. -/
def readNumber (text : Text) : Option (Float × Text) := do
  let (digits, places, rest) ← Scanned.readDigits? 10 text
  let (power, rest) := Scanned.readExponent 'e' rest
  let (num, den) := Scanned.scale 10 digits (power - places)
  return ((Scanned.finite false num den).toFloat, rest)

/-- The token at the start of a text, and what follows it; a complaint if there is none. -/
def read (text : Text) : Except Text (Token × Text) :=
  let text := skipBlanks text.length text
  match text with
  | [] => .ok (finish, [])
  | '\n' :: rest => .ok (newline, rest)
  | '"' :: rest =>
    match untilQuote text.length rest [] with
    | some (inside, rest) => .ok (quoted (unescape inside.length inside), rest)
    | none =>
      .error ("runaway string constant \"" ++ (rest.takeWhile (· ≠ '\n')).take 10 ++
        " ...".toList)
  | c :: rest =>
    let isNumber := c.isDigit || c = '.' && rest.head?.any Char.isDigit
    match if isNumber then readNumber text else none with
    | some (x, rest) => .ok (number x, rest)
    | none =>
      if beginsName c then
        let name := text.takeWhile isNameChar
        let rest := text.drop name.length
        .ok (word name (rest.head? = some '('), rest)
      else
        match signs.find? fun sign ↦ Text.beginsWith text sign.toList with
        | some found => .ok (sign found, text.drop found.length)
        | none => .error ("unexpected character '" ++ [c, '\''])

/-- The length of brackets up to their end. -/
def bracketLength (isFirst : Bool) : Text → Nat
  | [] => 0
  | '\\' :: _ :: rest => 2 + bracketLength false rest
  | '[' :: ':' :: rest => 2 + bracketLength false rest
  | ']' :: rest => if isFirst then 1 + bracketLength false rest else 1
  | '\n' :: _ => 0
  | _ :: rest => 1 + bracketLength false rest

/-- The expression up to a slash, and what follows the slash. -/
def untilSlash : Nat → Text → Text → Option (Text × Text)
  | 0, _, _ => none
  | rounds + 1, text, taken =>
    match text with
    | [] => none
    | '\n' :: _ => none
    | '/' :: rest => some (taken.reverse, rest)
    | '\\' :: '/' :: rest => untilSlash rounds rest ('/' :: taken)
    | '\\' :: c :: rest => untilSlash rounds rest (c :: '\\' :: taken)
    | '[' :: rest =>
      let inside := match rest with
        | '^' :: inside => 1 + bracketLength true inside
        | inside => bracketLength true inside
      if (rest.take inside).getLast? = some ']' then
        untilSlash rounds (rest.drop inside) ((rest.take inside).reverse ++ '[' :: taken)
      else untilSlash rounds rest ('[' :: taken)
    | c :: rest => untilSlash rounds rest (c :: taken)

end Token

/-- An expression with the escapes for single characters replaced. -/
def plainEscapes : Nat → Text → Text
  | 0, text => text
  | rounds + 1, text =>
    match text with
    | '\\' :: c :: rest =>
      let isSpecial := "^$.[]|()*+?\x7b\x7d\\".toList.contains c
      if isSpecial ∨ c = 'e' then '\\' :: c :: plainEscapes rounds rest
      else
        match Escape.read ⟨true, ['"'], false⟩ (c :: rest) with
        | (['\\'], _) => '\\' :: c :: plainEscapes rounds rest
        | (value, rest) =>
          (value.flatMap fun c ↦
            if "^$.[]|()*+?\x7b\x7d\\".toList.contains c then ['\\', c] else [c]) ++
            plainEscapes rounds rest
    | c :: rest => c :: plainEscapes rounds rest
    | [] => []

/-- The regular expression that a text writes. -/
def readRegex (text : Text) : Except Text Regex :=
  let style : Regex.Style :=
    { extended := true, escapesInBrackets := true, hasCounts := false, hasWords := false }
  match Regex.read style (plainEscapes text.length text) with
  | .ok (regex, _) => .ok regex
  | .error fault => .error ("regular expression compile failed (" ++ fault.words.toList ++
      ")\n".toList ++ text)

end AlignmentTally.Command.Rules
