import AlignmentTally.Shell.Syntax

/-!
# The text of a script

A script is read from a text that is used up, one complete command at a time. The lines that are
the input of a command come after the line of that command; so a command with such lines is read
twice: once to find them, once with them known.
-/

namespace AlignmentTally.Shell

open Machine

/-- What is wrong with a script. -/
structure Fault where
  /-- The line on which the fault shows. -/
  line : Nat
  /-- The fault in words. -/
  message : Text
  /-- What was read instead of what the language asks for, if that is the fault. -/
  unexpected : Option Text := none
  /-- Whether the script ended where something was still open. -/
  atEnd : Bool := false
  /-- Whether the message says what is wrong, and not only what was read. -/
  explained : Bool := false
  /-- What would have closed it, where that is one character. -/
  unclosed : Option Char := none
  deriving Inhabited

/-- What a script is made of, above single characters. -/
inductive Token where
  /-- The end of the script. -/
  | ending
  /-- The end of a line. -/
  | newline
  /-- An operator. -/
  | operator (text : String)
  /-- The operator of a redirection, and the stream in front of it. -/
  | redirect (channel : Option Channel) (operator : String)
  /-- A word, and whether anything in it is quoted. -/
  | word (word : Word) (quoted : Bool)
  /-- A word that the language reserves. -/
  | reserved (word : String)
  deriving Inhabited

/-- Lines that are to come as the input of a command. -/
structure Awaited where
  /-- The number of the input. -/
  number : Nat
  /-- The line that ends them. -/
  last : Text
  /-- Whether tabs at the start of a line are left out. -/
  trims : Bool
  /-- Whether nothing in them is expanded. -/
  quoted : Bool
  /-- The line on which they are asked for. -/
  line : Nat

/-- A script that is being read. -/
structure Source where
  /-- What is left of the text. -/
  rest : Text
  /-- The whole text. -/
  script : Text := rest
  /-- The number of the first line of the text. -/
  firstLine : Nat := 1
  /-- The number of the line. -/
  line : Nat := 1
  /-- The dialect of the script. -/
  dialect : Dialect := .plain
  /-- Whether patterns have groups. -/
  groups : Bool := false
  /-- Whether lines are shown when they are read, if the shell is asked for that. -/
  echoes : Bool := false
  /-- The names that stand for other texts. -/
  aliases : List (Text × Text) := []
  /-- The names that were replaced by their texts, with what is left after each. -/
  replaced : List (Text × Nat) := []
  /-- How the word is written that was read last. -/
  latest : Text := []
  /-- A token that was read too early. -/
  kept : Option Token := none
  /-- The inputs that are to come with the next lines. -/
  awaited : List Awaited := []
  /-- The inputs that were read, by number. -/
  found : List (Nat × Word) := []
  /-- The inputs that are known from an earlier reading, by number. -/
  known : List (Nat × Word) := []
  /-- The number of inputs that commands have asked for. -/
  asked : Nat := 0
  /-- The line on which the input was asked for that is being read. -/
  inputLine : Nat := 1
  /-- The inputs that ended with the script: the last line of each, the line on which it was asked
  for, and the line that would end it. -/
  unended : List (Nat × Nat × Text) := []
  deriving Inhabited

/-- A reader of a part of a script. -/
abbrev Reading := EStateM Fault Source

namespace Reading

/-- Finds fault on the line that is being read. -/
def fail {α : Type} (message : Text) : Reading α := do
  throw { line := (← get).line, message }

/-- Finds fault with a script that ends where something is open. -/
def failAtEnd {α : Type} (message : Text) : Reading α := do
  throw { line := (← get).line, message, atEnd := true }

/-- Reads what a character closes. Where the script ends before it, the fault is on the line on which
this began, in the dialect that says what is missing. -/
def enclosed {α : Type} (closing : Char) (read : Reading α) : Reading α := do
  let source ← get
  try read
  catch fault =>
    if fault.atEnd ∧ fault.unclosed.isNone ∧ source.dialect = .extended then
      throw { fault with line := source.line, unclosed := some closing }
    else throw fault

/-- Notes that an input has ended with the script before the line that ends it. -/
def noteUnended (last : Text) : Reading Unit :=
  modify fun source ↦
    { source with unended := (source.line - 1, source.inputLine, last) :: source.unended }

/-- What is left of the text. -/
def rest : Reading Text := return (← get).rest

/-- Reads something, and gives the text that it is written as besides. -/
def written {α : Type} (read : Reading α) : Reading (α × Text) := do
  let before ← rest
  let result ← read
  let text := before.take (before.length - (← rest).length)
  let isBlank (c : Char) : Bool := c = ' ' || c = '\t' || c = '\n' || c = ';'
  return (result, Text.trimEnd isBlank (Text.trimStart isBlank text))

/-- Goes on after some text on the same line. -/
def goTo (rest : Text) : Reading Unit := modify fun source ↦ { source with rest }

/-- Goes on at the start of a line. -/
def goToLine (rest : Text) : Reading Unit :=
  modify fun source ↦ { source with rest, line := source.line + 1 }

/-- Goes on after some text that may hold line ends. -/
def goPast (text rest : Text) : Reading Unit :=
  modify fun source ↦ { source with rest, line := source.line + text.count '\n' }

/-- Skips line ends that a backslash takes away. -/
def skipJoins : Nat → Reading Unit
  | 0 => return ()
  | rounds + 1 => do
    match ← rest with
    | '\\' :: '\n' :: rest => goToLine rest; skipJoins rounds
    | _ => return ()

/-- What is left of the text, without line ends that a backslash takes away. -/
def ahead : Reading Text := do
  skipJoins endless
  rest

/-- Whether the script is in the extended dialect. -/
def isExtended : Reading Bool := return (← get).dialect = .extended

end Reading

end AlignmentTally.Shell
