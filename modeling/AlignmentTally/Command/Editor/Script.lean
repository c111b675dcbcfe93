import AlignmentTally.Command.Work
import AlignmentTally.Regex.Reader

/-!
# Scripts of the stream editor

A script is a row of commands. Each is carried out for the lines that its addresses select: one
line, every so many lines, the last one, those that an expression fits, or all from one line to
another.
-/

namespace AlignmentTally.Command.Editor

open Machine

/-- An expression and how it is compared with lines. -/
structure Pattern where
  /-- The expression. -/
  regex : Regex
  /-- What is taken into account. -/
  manner : Regex.Manner
  /-- The number of its groups. -/
  groups : Nat
  deriving Inhabited

/-- What selects a line. An expression that is left out is the one that was used last. -/
inductive Address where
  /-- The line with a number. -/
  | line (n : Nat)
  /-- Every line so many lines after a first one. -/
  | every (first step : Nat)
  /-- The last line. -/
  | last
  /-- The lines that an expression fits. -/
  | fitting (pattern : Option Pattern)
  deriving Inhabited

/-- What selects the last line of a range. -/
inductive RangeEnd where
  /-- A line that is selected by itself. -/
  | address (address : Address)
  /-- So many lines later. -/
  | after (count : Nat)
  /-- The next line whose number is a multiple. -/
  | multiple (n : Nat)
  deriving Inhabited

/-- The lines for which a command is carried out. -/
structure Selection where
  /-- The first line, or the only one. -/
  first : Option Address := none
  /-- Whether a range begins before the first line. -/
  fromStart : Bool := false
  /-- The last line of a range. -/
  last : Option RangeEnd := none
  /-- Whether it is carried out for all the other lines. -/
  isNegated : Bool := false
  deriving Inhabited

/-- How the letters that follow are written. -/
inductive Recasing where
  /-- As they are. -/
  | keep
  /-- In capital letters. -/
  | upper
  /-- In small letters. -/
  | lower
  deriving DecidableEq, Repr, Inhabited

/-- A piece of what replaces a text. -/
inductive Piece where
  /-- A text. -/
  | text (text : Text)
  /-- The text of a group. -/
  | group (number : Nat)
  /-- From here on letters are written in a way. -/
  | recase (recasing : Recasing)
  /-- The next letter is written in a way. -/
  | recaseNext (recasing : Recasing)
  deriving Inhabited

/-- A replacement. -/
structure Substitution where
  /-- What is replaced. -/
  pattern : Option Pattern
  /-- What replaces it. -/
  pieces : List Piece
  /-- The first of the fits that is replaced. -/
  number : Nat := 1
  /-- Whether all later fits are replaced, too. -/
  isGlobal : Bool := false
  /-- Whether the line is written if something was replaced. -/
  prints : Bool := false
  /-- The file to which the line is written if something was replaced. -/
  output : Option Text := none
  deriving Inhabited

/-- When a branch is taken. -/
inductive When where
  | always
  /-- If something was replaced. -/
  | replaced
  /-- If nothing was replaced. -/
  | unreplaced
  deriving DecidableEq, Repr, Inhabited

/-- What a command does. -/
inductive Action where
  /-- Nothing. -/
  | nothing
  /-- Begins a block that ends before a command. -/
  | block (finish : Nat)
  /-- Writes a text after the line. -/
  | append (text : Text)
  /-- Writes a text before the line. -/
  | insert (text : Text)
  /-- Writes a text in place of the line. -/
  | change (text : Text)
  /-- Goes on at a label, or at the end. -/
  | branch (when_ : When) (label : Text)
  /-- Ends without writing the line. -/
  | delete
  /-- Takes the first of several lines away and begins again. -/
  | deleteFirst
  /-- Takes the kept text, in place of the line or after it. -/
  | recall (appends : Bool)
  /-- Keeps the line, in place of the kept text or after it. -/
  | keep (appends : Bool)
  /-- Exchanges the line and the kept text. -/
  | exchange
  /-- Writes the line with all characters spelled out. -/
  | spell (width : Option Nat)
  /-- Goes on with the next line. -/
  | next
  /-- Adds the next line. -/
  | nextToo
  /-- Writes the line. -/
  | print
  /-- Writes the first of several lines. -/
  | printFirst
  /-- Ends the whole run, after writing the line or not. -/
  | quit (prints : Bool) (status : Nat)
  /-- Writes a file after the line. -/
  | readFile (path : Text)
  /-- Writes one line of a file after the line. -/
  | readLine (path : Text)
  /-- Writes the line to a file, or the first of several lines. -/
  | write (path : Text) (firstOnly : Bool)
  /-- Replaces texts. -/
  | substitute (substitution : Substitution)
  /-- Replaces characters. -/
  | transliterate (pairs : List (Char × Char))
  /-- Empties the line. -/
  | clear
  /-- Writes the number of the line. -/
  | putNumber
  /-- Writes the name of the file. -/
  | putName
  deriving Inhabited

/-- A command of a script. -/
structure Step where
  /-- The lines for which it is carried out. -/
  selection : Selection
  /-- What it does. -/
  action : Action
  deriving Inhabited

/-- A script. -/
structure Script where
  /-- The commands. -/
  steps : Array Step := #[]
  /-- The labels, each with the place of the command that follows. -/
  labels : List (Text × Nat) := []
  deriving Inhabited

end AlignmentTally.Command.Editor
