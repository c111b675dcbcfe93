import AlignmentTally.Command.Amount
import AlignmentTally.Command.Work

/-!
# Options of commands

Options are letters after a dash, several of them together if need be, or words after two dashes. A
word may be cut short as long as it stays the only one. An option may ask for a text, which follows
it in the same argument or in the next one.
-/

namespace AlignmentTally.Command

open Machine

/-- Whether an option has a text. -/
inductive Takes where
  /-- It has none. -/
  | nothing
  /-- It has one. -/
  | text
  /-- It may have one, in the same argument. -/
  | perhaps
  deriving DecidableEq, Repr

/-- The options of a command. -/
structure Choices where
  /-- The letters; a colon after one says that it has a text, two colons that it may have one. -/
  letters : String
  /-- The words with the letters that they stand for; an equals sign says that a word has a text,
  and a question mark that it may have one. -/
  words : List (String × Char) := []
  /-- Whether options may stand after other arguments. -/
  anywhere : Bool := true
  /-- The letter under which an argument that is no option is told among the options. -/
  operand : Option Char := none
  /-- The exit status of a wrong use. -/
  status : Nat := 1
  /-- What a wrong use is answered with after the complaint, if it is no usual advice. -/
  usage : Text := []

/-- An option with its text. -/
abbrev Chosen := Char × Text

namespace Choices

/-- Complains about the use of a command and ends. -/
def misuse {α : Type} (choices : Choices) (words : Text) : Work α := do
  Work.warn words
  if choices.usage.isEmpty then Work.advise choices.status
  else
    Work.say choices.usage
    Work.leave choices.status

/-- Whether the option with a letter has a text, if there is such an option. -/
def ofLetter? (letters : Text) (letter : Char) : Option Takes :=
  match letters with
  | [] => none
  | c :: rest =>
    if c = letter ∧ c ≠ ':' then
      some (match rest with
        | ':' :: ':' :: _ => .perhaps
        | ':' :: _ => .text
        | _ => .nothing)
    else ofLetter? rest letter

/-- A word without the sign that tells of a text, and whether it has one. -/
def ofWord (word : String) : Text × Takes :=
  match word.toList.reverse with
  | '=' :: name => (name.reverse, .text)
  | '?' :: name => (name.reverse, .perhaps)
  | _ => (word.toList, .nothing)

/-- The words that begin with a text, or the one that is the same. -/
def matching (choices : Choices) (text : Text) : List (Text × Takes × Char) :=
  let all := choices.words.map fun (word, letter) ↦
    let (name, takes) := ofWord word
    (name, takes, letter)
  match all.find? (·.1 = text) with
  | some word => [word]
  | none => all.filter fun (name, _) ↦ Text.beginsWith name text

/-- Options and other arguments as far as they were taken, the last ones first. -/
structure Taken where
  /-- The options. -/
  chosen : List Chosen := []
  /-- The other arguments. -/
  others : List Text := []

/-- Takes the option that a word after two dashes is. -/
def takeWord (choices : Choices) (text : Text) (rest : List Text) : Work (Chosen × List Text) := do
  let name := text.takeWhile (· ≠ '=')
  let value? : Option Text := if name.length < text.length then some (text.drop (name.length + 1))
    else none
  let misuse (words : Text) : Work (Chosen × List Text) := choices.misuse words
  let dashed (name : Text) : Text := "'--" ++ name ++ "'"
  let found := choices.matching name
  let isOne := (found.map fun (_, takes, letter) ↦ (takes, letter)).eraseDups.length = 1
  match found with
  | [] => misuse ("unrecognized option '--" ++ text ++ "'")
  | (full, takes, letter) :: _ =>
    if ¬ isOne then
      misuse ("option " ++ dashed text ++ " is ambiguous; possibilities:" ++
        (found.flatMap fun (name, _) ↦ ' ' :: dashed name))
    else
      match takes, value?, rest with
      | .nothing, none, _ => return ((letter, []), rest)
      | .nothing, some _, _ => misuse ("option " ++ dashed full ++ " doesn't allow an argument")
      | .perhaps, value?, _ => return ((letter, value?.getD []), rest)
      | .text, some value, _ => return ((letter, value), rest)
      | .text, none, value :: rest => return ((letter, value), rest)
      | .text, none, [] => misuse ("option " ++ dashed full ++ " requires an argument")

/-- Takes the options that the letters after a dash are. -/
def takeLetters (choices : Choices) : Text → List Text → List Chosen →
    Work (List Chosen × List Text)
  | [], rest, chosen => return (chosen, rest)
  | letter :: letters, rest, chosen => do
    match ofLetter? choices.letters.toList letter with
    | none => choices.misuse ("invalid option -- '" ++ letter :: ['\''])
    | some .nothing => takeLetters choices letters rest ((letter, []) :: chosen)
    | some .perhaps => return ((letter, letters) :: chosen, rest)
    | some .text =>
      match letters, rest with
      | [], [] => choices.misuse ("option requires an argument -- '" ++ letter :: ['\''])
      | [], value :: rest => return ((letter, value) :: chosen, rest)
      | letters, rest => return ((letter, letters) :: chosen, rest)

/-- Takes options and other arguments, in at most some rounds. -/
def takeFrom (choices : Choices) : Nat → List Text → Taken → Work Taken
  | 0, _, taken => return taken
  | rounds + 1, arguments, taken => do
    match arguments with
    | [] => return taken
    | ['-', '-'] :: rest => return { taken with others := rest.reverse ++ taken.others }
    | ('-' :: '-' :: word) :: rest =>
      let (option, rest) ← takeWord choices word rest
      takeFrom choices rounds rest { taken with chosen := option :: taken.chosen }
    | ('-' :: c :: letters) :: rest =>
      let (chosen, rest) ← takeLetters choices (c :: letters) rest taken.chosen
      takeFrom choices rounds rest { taken with chosen }
    | argument :: rest =>
      if let some letter := choices.operand then
        takeFrom choices rounds rest { taken with chosen := (letter, argument) :: taken.chosen }
      else if choices.anywhere then
        takeFrom choices rounds rest { taken with others := argument :: taken.others }
      else return { taken with others := (argument :: rest).reverse ++ taken.others }

/-- The options among arguments, in order, and the other arguments. -/
def take (choices : Choices) (arguments : List Text) : Work (List Chosen × List Text) := do
  let taken ← takeFrom choices (arguments.length + 1) arguments {}
  return (taken.chosen.reverse, taken.others.reverse)

end Choices

/-- Whether an option was chosen. -/
def has (chosen : List Chosen) (letter : Char) : Bool := chosen.any (·.1 = letter)

/-- The text of an option that was chosen last. -/
def last? (chosen : List Chosen) (letter : Char) : Option Text :=
  (chosen.filter (·.1 = letter)).getLast?.map Prod.snd

/-- The option that was chosen last of some. -/
def lastOf? (chosen : List Chosen) (letters : String) : Option Char :=
  (chosen.filter fun option ↦ letters.toList.contains option.1).getLast?.map Prod.fst

/-! ### What options ask for -/

/-- The number that an option asks for, perhaps with one of some units, between two limits. A
complaint, which begins with some words, ends the command. -/
def numberWithin (words : Text) (units : String) (least most : Nat) (text : Text) : Work Nat := do
  let refuse (reason : String) : Work Nat :=
    Work.fail (words ++ ": ".toList ++ Quoted.word text ++ reason.toList) 1
  match Amount.sizeIn? units text with
  | none => refuse ""
  | some n =>
    if Amount.greatest < n then refuse ": Value too large for defined data type"
    else if n < least ∨ most < n then
      refuse (if 1073741823 < n then ": Value too large for defined data type"
        else ": Numerical result out of range")
    else return n

/-- The words of a list, those of one meaning together. -/
def wordLines {α : Type} [DecidableEq α] : List (String × α) → List (List String)
  | [] => []
  | (word, meaning) :: rest =>
    match rest, wordLines rest with
    | (_, next) :: _, line :: lines =>
      if meaning = next then (word :: line) :: lines else [word] :: line :: lines
    | _, lines => [word] :: lines

/-- Complains about the word that an option asks for, and ends. -/
def refuseWord {α β : Type} [DecidableEq α] (kind option : String) (words : List (String × α))
    (text : Text) : Work β := do
  Work.warn (kind.toList ++ " argument ".toList ++ Quoted.word text ++ " for ".toList ++
    Quoted.word option)
  Work.say ("Valid arguments are:\n".toList ++ (wordLines words).flatMap fun line ↦
    "  - ".toList ++ Text.join ", " (line.map fun word ↦ Quoted.word word.toList) ++ ['\n'])
  Work.advise 1

/-- The meaning of the word that an option asks for, which may not be cut short. -/
def fullMeaningOf {α : Type} [DecidableEq α] (option : String) (words : List (String × α))
    (text : Text) : Work α :=
  match words.lookup (String.ofList text) with
  | some meaning => return meaning
  | none => refuseWord "invalid" option words text

/-- The meaning of the word that an option asks for. It may be cut short as long as its meaning
stays the only one. -/
def meaningOf {α : Type} [DecidableEq α] (option : String) (words : List (String × α))
    (text : Text) : Work α := do
  let begins := words.filter fun (word, _) ↦ Text.beginsWith word.toList text
  let meanings := (begins.map Prod.snd).eraseDups
  match words.lookup (String.ofList text), meanings with
  | some meaning, _ => return meaning
  | none, [meaning] => return meaning
  | none, [] => refuseWord "invalid" option words text
  | none, _ => refuseWord "ambiguous" option words text

end AlignmentTally.Command
