import AlignmentTally.Machine.Text

/-!
# Scripts

A test binary may be a script in the command language of the system. A script is kept as a tree
of commands over words; the parts of a word say what they expand to and whether the result may be
cut into several words.
-/

namespace AlignmentTally.Shell

open Machine

/-- The dialects of the command language. -/
inductive Dialect where
  /-- The common language. -/
  | plain
  /-- The language with brace expansion, conditional expressions and more operators. -/
  | extended
  deriving DecidableEq, Repr, Inhabited

/-- What becomes of letters. -/
inductive Recasing where
  /-- They become great ones. -/
  | upper
  /-- They become small ones. -/
  | lower
  /-- They change their case. -/
  | swapped
  deriving DecidableEq, Repr, Inhabited

/-- How a parameter is shown. -/
inductive Shown where
  /-- Its value as a script may write it. -/
  | quoted
  /-- Its value with the escapes in it replaced. -/
  | unescaped
  /-- Its value as a prompt. -/
  | prompt
  /-- The command that gives it its value and its properties. -/
  | assignment
  /-- The letters of its properties. -/
  | letters
  /-- Its keys and texts, as a script may write them, in one text. -/
  | entries
  /-- Its keys and texts, one after another. -/
  | pairs
  /-- In a way that there is not. -/
  | unknown
  deriving DecidableEq, Repr, Inhabited

/-- What stands for a parameter in a word. -/
inductive ParameterUse where
  /-- Its value. -/
  | value
  /-- The length of its value. -/
  | length
  /-- Its value, or a word if it has none, or an empty one. -/
  | default (orEmpty : Bool)
  /-- The same, and the word becomes its value. -/
  | assign (orEmpty : Bool)
  /-- A word, if it has a value. -/
  | alternative (orEmpty : Bool)
  /-- Its value, or a complaint if it has none. -/
  | require (orEmpty : Bool)
  /-- Its value without the shortest or longest start that fits a pattern. -/
  | trimStart (longest : Bool)
  /-- Its value without the shortest or longest end that fits a pattern. -/
  | trimEnd (longest : Bool)
  /-- Its value with the first or every part replaced that fits a pattern. -/
  | replace (all : Bool)
  /-- A part of its value, by place and length. -/
  | slice
  /-- Its value with the case of letters changed that fit a pattern: its first letter or all. -/
  | recase (recasing : Recasing) (all : Bool)
  /-- What stands for the parameter that its value names. -/
  | indirect (use : ParameterUse)
  /-- The keys of its items. -/
  | keys
  /-- The names of the parameters that begin with a text. -/
  | names
  /-- It is shown. -/
  | shown (form : Shown)
  /-- Nothing that has a meaning. -/
  | malformed
  deriving DecidableEq, Repr, Inhabited

/-- What follows a command that was chosen by a pattern. -/
inductive Continuation where
  /-- Nothing. -/
  | stop
  /-- The next command, whatever its patterns. -/
  | runNext
  /-- The next command with a pattern that the word fits. -/
  | testNext
  deriving DecidableEq, Repr, Inhabited

/-- Which stream is led elsewhere. -/
inductive Channel where
  /-- The one with this number. -/
  | number (stream : Nat)
  /-- A new one, whose number is the value of the parameter afterwards; or the one with that number,
  if it is closed. -/
  | named (name : Text)
  deriving DecidableEq, Repr, Inhabited

mutual

/-- A part of a word. Each says whether it is quoted, so that it stays in one field. -/
inductive Part where
  /-- A text that stands for itself. -/
  | literal (quoted : Bool) (text : Text)
  /-- What stands for a parameter, or for an item of it, with the words that say more. -/
  | parameter (quoted : Bool) (name : Text) (index : Option (List Part)) (use : ParameterUse)
      (words : List (List Part))
  /-- The output of a command. -/
  | substitution (quoted : Bool) (body : Command)
  /-- The value of an arithmetic expression. -/
  | arithmetic (quoted : Bool) (expression : List Part)
  /-- The path of a pipe from a command, or to one. -/
  | processPath (toCommand : Bool) (body : Command)
  /-- An assignment of several items that is an argument. -/
  | compound (assignment : Assignment)

/-- A value for a parameter, or more at the end of the value it has. -/
inductive Assignment where
  /-- A text. -/
  | text (name : Text) (atEnd : Bool) (value : List Part)
  /-- A text for an item. -/
  | item (name : Text) (index : List Part) (atEnd : Bool) (value : List Part)
  /-- Several items, some of them with their places, and how they are written. -/
  | items (name : Text) (atEnd : Bool) (values : List (Option (List Part) × List Part))
      (written : Text)

/-- Where a stream of a command leads. -/
inductive Redirect where
  /-- A stream leads to a file: which is read (`<`), written from its start (`>`, or `>|` in any
  case), at its end (`>>`) or both read and written (`<>`); and how the path is written. -/
  | file (channel : Channel) (operator : String) (path : List Part) (written : Text)
  /-- A stream leads where another one leads, or nowhere; and how that one is written. -/
  | copy (channel : Channel) (target : List Part) (written : Text)
  /-- A stream leads to a text of the script. -/
  | text (channel : Channel) (text : List Part)

/-- A condition on words. -/
inductive Test where
  /-- What an operator says about one word. -/
  | one (operator : String) (word : List Part)
  /-- What an operator says about two words. -/
  | two (operator : String) (first second : List Part)
  /-- A condition that does not hold. -/
  | not (test : Test)
  /-- Two conditions that both hold. -/
  | both (first second : Test)
  /-- Two conditions of which one holds. -/
  | either (first second : Test)

/-- A command. -/
inductive Command where
  /-- No command. -/
  | skip
  /-- Assignments, a name with arguments, and redirections, on a line of the script; and how all of
  them are written. -/
  | simple (line : Nat) (assignments : List Assignment) (words : List (List Part))
      (redirects : List Redirect) (written : Text)
  /-- A command with redirections, and how these are written. Without any, a command in braces. -/
  | redirected (line : Nat) (body : Command) (redirects : List Redirect) (written : Text)
  /-- A command whose effect on parameters ends with it, with redirections. -/
  | subshell (line : Nat) (body : Command) (redirects : List Redirect) (written : Text)
  /-- A command that runs beside the script, with how it is written. -/
  | background (line : Nat) (written : Text) (body : Command)
  /-- Commands side by side, the output of each being the input of the next. -/
  | pipeline (parts : List Command)
  /-- One command after another. -/
  | sequence (first second : Command)
  /-- The second command if the first succeeds. -/
  | andThen (first second : Command)
  /-- The second command if the first fails. -/
  | orElse (first second : Command)
  /-- A command with success and failure exchanged. -/
  | negated (body : Command)
  /-- A choice. -/
  | branch (condition yes no : Command)
  /-- A repetition as long as the condition succeeds, or fails. -/
  | loop (onFailure : Bool) (condition body : Command)
  /-- A repetition for each of some words, by default the arguments; and how they are written. -/
  | each (line : Nat) (name : Text) (words : Option (List (List Part))) (written : Text)
      (body : Command)
  /-- The first of some commands with a pattern that a word fits, and perhaps others after it; and
  how the word and the patterns are written. -/
  | select (line : Nat) (word : List Part) (written : Text)
      (choices : List (List (List Part) × Text × Command × Continuation))
  /-- A repetition for each word that is chosen out of some, by default out of the arguments;
  and how they are written. -/
  | menu (line : Nat) (name : Text) (words : Option (List (List Part))) (written : Text)
      (body : Command)
  /-- A command whose time is shown, perhaps in the briefer form. -/
  | timed (brief : Bool) (body : Command)
  /-- The meaning of a name, which begins on a line of the script. -/
  | define (line : Nat) (name : Text) (body : Command)
  /-- A condition on words. -/
  | condition (line : Nat) (test : Test) (written : Text)
  /-- An arithmetic expression, which fails if its value is zero. -/
  | calculate (line : Nat) (expression : List Part) (written : Text)
  /-- A repetition with expressions before it, for its rounds, and after each round; and how these
  are written. -/
  | count (line : Nat) (first test next : List Part) (written : List Text) (body : Command)
  /-- A command that runs beside the script, with pipes to it and from it under a name. -/
  | coprocess (line : Nat) (name : Text) (body : Command)

end

instance : Inhabited Part := ⟨.literal false []⟩

instance : Inhabited Assignment := ⟨.text [] false []⟩

instance : Inhabited Redirect := ⟨.text (.number 0) []⟩

instance : Inhabited Command := ⟨.skip⟩

instance : Inhabited Test := ⟨.one "" []⟩

/-- A word as it is written. -/
abbrev Word := List Part

/-- The text of a word that is a single literal without quotes. -/
def plain? : Word → Option Text
  | [.literal false text] => some text
  | _ => none

/-- Whether a character can begin the name of a parameter. -/
def beginsName (c : Char) : Bool := c.isAlpha || c = '_'

/-- Whether a character can stand in the name of a parameter. -/
def isNameChar (c : Char) : Bool := c.isAlphanum || c = '_'

/-- Whether a text is the name of a parameter. -/
def isName : Text → Bool
  | [] => false
  | c :: rest => beginsName c && rest.all isNameChar

/-- The parameters that are named by one character. -/
def isSpecial (c : Char) : Bool := "@*#?$!-".toList.contains c || c.isDigit

end AlignmentTally.Shell
