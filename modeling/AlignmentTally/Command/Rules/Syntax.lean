import AlignmentTally.Machine.Text
import AlignmentTally.Regex.Basic

/-!
# Rules for records

A program of rules says what is done for each record of the input. A rule has a pattern, which
chooses records, and an action; the actions at the beginning and at the end need no record.
-/

namespace AlignmentTally.Command.Rules

open Machine

/-- An operator on two values. -/
inductive Operator where
  | add
  | subtract
  | multiply
  | divide
  | remainder
  | power
  | concat
  | less
  | atMost
  | equal
  | unequal
  | greater
  | atLeast
  deriving DecidableEq, Repr, Inhabited

/-- An operator on one value. -/
inductive Prefix where
  | minus
  | plus
  | not
  deriving DecidableEq, Repr, Inhabited

/-- From where a line is read. -/
inductive LineSource where
  /-- From the input. -/
  | input
  /-- From a file. -/
  | file
  /-- From the output of a command. -/
  | command
  deriving DecidableEq, Repr, Inhabited

/-- An expression. -/
inductive Expr where
  /-- A number. -/
  | number (x : Float)
  /-- A text. -/
  | text (text : Text)
  /-- A regular expression, which fits the record or not. -/
  | regex (regex : Regex)
  /-- The value of a name. -/
  | name (name : Text)
  /-- A field of the record. -/
  | field (number : Expr)
  /-- An element of an array. -/
  | element (array : Text) (keys : List Expr)
  /-- Sets a value, perhaps after an operation on the old one. -/
  | assign (operator : Option Operator) (target value : Expr)
  /-- Sets a value one higher or lower; the result is the value before or after that. -/
  | step (isBefore isUp : Bool) (target : Expr)
  /-- An operator on one value. -/
  | one (operator : Prefix) (value : Expr)
  /-- An operator on two values. -/
  | two (operator : Operator) (first second : Expr)
  /-- Whether both values are true. -/
  | both (first second : Expr)
  /-- Whether one of two values is true. -/
  | either (first second : Expr)
  /-- Whether an expression fits a text. -/
  | fits (wanted : Bool) (text pattern : Expr)
  /-- Whether an array has an element. -/
  | isIn (keys : List Expr) (array : Text)
  /-- One of two values. -/
  | choice (condition first second : Expr)
  /-- What a function of the program gives. -/
  | call (name : Text) (arguments : List Expr)
  /-- What a function of the language gives. -/
  | builtin (name : String) (arguments : List Expr)
  /-- Reads a line and puts it somewhere. -/
  | readLine (source : LineSource) (path : Option Expr) (target : Option Expr)
  /-- Values in parentheses. -/
  | list (values : List Expr)
  deriving Inhabited

/-- Where output goes. -/
inductive OutputKind where
  /-- To a file. -/
  | file
  /-- To the end of a file. -/
  | append
  /-- To the input of a command. -/
  | command
  deriving DecidableEq, Repr, Inhabited

/-- A statement. -/
inductive Statement where
  /-- An expression whose value is not used. -/
  | expr (expr : Expr)
  /-- Writes values, by a format or as a line. -/
  | print (isFormatted : Bool) (values : List Expr) (target : Option (OutputKind × Expr))
  /-- Statements one after another. -/
  | block (statements : List Statement)
  | if_ (condition : Expr) (first : Statement) (second : Option Statement)
  | while_ (condition : Expr) (body : Statement)
  | repeat_ (body : Statement) (condition : Expr)
  | for_ (start : Option Statement) (condition : Option Expr) (step : Option Statement)
    (body : Statement)
  /-- For each key of an array. -/
  | forIn (name array : Text) (body : Statement)
  | break_
  | continue_
  /-- Goes on with the next record. -/
  | next
  /-- Goes on with the next file. -/
  | nextFile
  | exit (status : Option Expr)
  | return_ (value : Option Expr)
  /-- Removes an element of an array, or all of them. -/
  | delete (array : Text) (keys : Option (List Expr))
  deriving Inhabited

/-- When an action is taken. -/
inductive Pattern where
  /-- Before the first record. -/
  | beginning
  /-- After the last record. -/
  | ending
  /-- For every record. -/
  | always
  /-- For the records for which a value is true. -/
  | where_ (condition : Expr)
  /-- For the records from one to another. -/
  | range (first last : Expr)
  deriving Inhabited

/-- A rule. The action that is left out writes the record. -/
structure Rule where
  /-- When the action is taken. -/
  pattern : Pattern
  /-- The action. -/
  action : Statement
  deriving Inhabited

/-- A function. -/
structure Function where
  /-- The names of what it is given, and of what it uses by itself. -/
  parameters : List Text
  /-- What it does. -/
  body : Statement
  deriving Inhabited

/-- A program. -/
structure Program where
  /-- The rules. -/
  rules : List Rule := []
  /-- The functions, each under its name. -/
  functions : List (Text × Function) := []
  deriving Inhabited

end AlignmentTally.Command.Rules
