import AlignmentTally.Command.Filing.Property
import AlignmentTally.Regex.Basic

/-!
# Trials of files

What is tried on the files of a tree: tests, actions, and what is made of them with operators. An
expression is a list of words, each of them a trial, an operator or a bracket; `Trial.ofWords?` puts
it together.
-/

namespace AlignmentTally.Command.Filing.Finding

open Machine

/-- How a number is compared. -/
inductive Comparison where
  /-- It is less. -/
  | less
  /-- It is the same. -/
  | same
  /-- It is more. -/
  | more
  deriving DecidableEq, Repr

/-- A number in comparison with another one. -/
def Comparison.holds (comparison : Comparison) (n wanted : Nat) : Bool :=
  match comparison with
  | .less => n < wanted
  | .same => n = wanted
  | .more => wanted < n

/-- Which time of a file counts. -/
inductive Stamp where
  /-- When it was read. -/
  | accessed
  /-- When something about it was changed. -/
  | status
  /-- When it was changed. -/
  | changed
  deriving DecidableEq, Repr

/-- A time of a file. That something about it was changed is not kept; it is no earlier than the file
was made. -/
def Stamp.of (stamp : Stamp) (file : DiskFile) : Nat :=
  match stamp with
  | .accessed => file.accessed
  | .status => max file.changed firstTime
  | .changed => file.changed

/-- Which number of a file counts. -/
inductive Count where
  /-- The number of names. -/
  | names
  /-- The number of the owner. -/
  | owner
  /-- The number of the group. -/
  | group
  /-- The number of the file. -/
  | number
  deriving DecidableEq, Repr

/-- Where something is written. -/
inductive Sink where
  /-- To the output. -/
  | output
  /-- To a stream. -/
  | stream (number : Nat)
  deriving DecidableEq, Repr

/-- A part of a format. -/
inductive Part where
  /-- A text. -/
  | text (text : Text)
  /-- What a letter stands for. -/
  | field (layout : Layout) (letter : Char)
  /-- A time, of which a letter says what is written. -/
  | time (layout : Layout) (stamp : Stamp) (letter : Char)
  /-- Nothing follows. -/
  | stop

/-- How the command of a trial is run. -/
structure Running where
  /-- Whether it is run in the directory of the file. -/
  inDirectory : Bool := false
  /-- Whether it is asked for each time. -/
  asks : Bool := false

/-- What is tried on a file. -/
inductive Trial where
  /-- It always holds, or never. -/
  | always (holds : Bool)
  /-- The name fits a pattern, or the whole path. -/
  | fits (wholePath foldsCase : Bool) (pattern : Text)
  /-- The target of a link fits a pattern. -/
  | leads (foldsCase : Bool) (pattern : Text)
  /-- The whole path fits an expression. -/
  | regex (foldsCase : Bool) (regex : Regex)
  /-- The file is of one of some kinds. -/
  | kind (letters : Text)
  /-- The file is of one of some kinds if links are followed, or not followed if they are
  otherwise. -/
  | otherKind (letters : Text)
  /-- The file holds nothing. -/
  | empty
  /-- The size in units, rounded up. -/
  | size (comparison : Comparison) (n unit : Nat)
  /-- A number of the file. -/
  | count (count : Count) (comparison : Comparison) (n : Nat)
  /-- A time of the file is later than another time. -/
  | later (stamp : Stamp) (time : Int)
  /-- A time of the file is later or earlier than another time, or in a span that begins there. -/
  | age (stamp : Stamp) (comparison : Comparison) (time : Int) (span : Nat)
  /-- How many days after the last change of something about the file it was read. -/
  | used (comparison : Comparison) (days : Nat)
  /-- The mode has exactly some bits, or all of some, or any of some: those for a directory and those
  for other files. -/
  | mode (sign : Char) (directoryBits bits : Nat)
  /-- What the path leads to can be read and written, or executed. -/
  | allows (execution : Bool)
  /-- The owner has no name, or the group. -/
  | nameless (isGroup : Bool)
  /-- The path is written, with an octet behind it. -/
  | print (sink : Sink) (ending : Char)
  /-- A description is written. -/
  | describe (sink : Sink) (format : List Part)
  /-- A line with all that is known is written. -/
  | list (sink : Sink)
  /-- The file is removed. -/
  | remove
  /-- A command is run for the file and succeeds. -/
  | run (running : Running) (command : List Text)
  /-- A command is run at the end for all files, or for several at a time; the number tells it
  apart from others. -/
  | collect (running : Running) (place : Nat) (command : List Text)
  /-- What the directory holds is left out. -/
  | prune
  /-- The search ends. -/
  | quit
  /-- A trial fails. -/
  | not (trial : Trial)
  /-- Two trials succeed. -/
  | both (first second : Trial)
  /-- One of two trials succeeds. -/
  | either (first second : Trial)
  /-- Two trials are made, and the second succeeds. -/
  | then_ (first second : Trial)
  deriving Inhabited

/-! ### Expressions -/

/-- How tightly an operator binds. -/
inductive Binding where
  /-- Like a comma. -/
  | loose
  /-- Like `-o`. -/
  | either
  /-- Like `-a`. -/
  | both
  deriving DecidableEq, Repr

/-- A word of an expression. -/
inductive Word where
  /-- A trial. -/
  | trial (trial : Trial)
  /-- What makes a trial fail, in its spelling. -/
  | not (spelling : Text)
  /-- What joins two trials, in its spelling. -/
  | join (binding : Binding) (spelling : Text)
  /-- The start of brackets. -/
  | open_
  /-- The end of brackets. -/
  | close

/-- What stands before a place in an expression. -/
inductive Before where
  /-- Nothing. -/
  | nothing
  /-- The start of brackets. -/
  | open_
  /-- An operator. -/
  | operator (spelling : Text)

namespace Trial

/-- What is wrong if no trial follows. -/
def missing (before : Before) : Text :=
  match before with
  | .nothing => "invalid expression"
  | .open_ =>
    "invalid expression; expected to find a ')' but didn't see one. ".toList ++
      "Perhaps you need an extra predicate after '('".toList
  | .operator spelling => "expected an expression after '".toList ++ spelling ++ "'".toList

mutual

/-- Puts together trials with commas between them, at most some levels deep. -/
def ofAll (before : Before) : Nat → List Word → Except Text (Trial × List Word)
  | 0, _ => .error "expression is too deep"
  | depth + 1, words => do
    let (first, words) ← ofEither before depth words
    match words with
    | .join .loose spelling :: words =>
      let (second, words) ← ofAll (.operator spelling) depth words
      return (.then_ first second, words)
    | words => return (first, words)

/-- Puts together a disjunction. -/
def ofEither (before : Before) : Nat → List Word → Except Text (Trial × List Word)
  | 0, _ => .error "expression is too deep"
  | depth + 1, words => do
    let (first, words) ← ofBoth before depth words
    match words with
    | .join .either spelling :: words =>
      let (second, words) ← ofEither (.operator spelling) depth words
      return (.either first second, words)
    | words => return (first, words)

/-- Puts together a conjunction. -/
def ofBoth (before : Before) : Nat → List Word → Except Text (Trial × List Word)
  | 0, _ => .error "expression is too deep"
  | depth + 1, words => do
    let (first, words) ← ofNegated before depth words
    match words with
    | .join .both spelling :: words =>
      let (second, words) ← ofBoth (.operator spelling) depth words
      return (.both first second, words)
    | [] | .join _ _ :: _ | .close :: _ => return (first, words)
    | words =>
      let (second, words) ← ofBoth (.operator "-a") depth words
      return (.both first second, words)

/-- Puts together a negation, a trial in brackets, or a single trial. -/
def ofNegated (before : Before) : Nat → List Word → Except Text (Trial × List Word)
  | 0, _ => .error "expression is too deep"
  | depth + 1, words => do
    match words with
    | [] => throw (missing before)
    | .trial trial :: words => return (trial, words)
    | .not spelling :: words =>
      let (trial, words) ← ofNegated (.operator spelling) depth words
      return (.not trial, words)
    | .join _ spelling :: _ =>
      throw ("invalid expression; you have used a binary operator '".toList ++ spelling ++
        "' with nothing before it.".toList)
    | .close :: _ =>
      match before with
      | .nothing =>
        throw "invalid expression: expected expression before closing parentheses ')'.".toList
      | .open_ => throw "invalid expression; empty parentheses are not allowed.".toList
      | .operator spelling =>
        throw ("expected an expression between '".toList ++ spelling ++ "' and ')'".toList)
    | .open_ :: words =>
      let (trial, words) ← ofAll .open_ depth words
      match words with
      | .close :: words => return (trial, words)
      | _ =>
        throw ("invalid expression; I was expecting to find a ')' somewhere but did not see ".toList ++
          "one.".toList)

end

/-- The trial that words are, or what is wrong with them. -/
def ofWords? (words : List Word) : Except Text Trial := do
  if words.isEmpty then return .always true
  let (trial, rest) ← ofAll .nothing (8 * words.length + 8) words
  if rest.isEmpty then return trial else throw "you have too many ')'".toList

end Trial

end AlignmentTally.Command.Filing.Finding
