import AlignmentTally.Command.Options

/-!
# Arranging arguments

The command that puts the options among some arguments in front of the others, one by one, each with
its text behind it, so that a shell can go through them. Which options there are is given as letters
and as words: a colon says that an option has a text, two colons that it may have one in the same
argument. Texts are quoted for the shell.
-/

namespace AlignmentTally.Command

open Machine

namespace Arranging

/-- Where arguments that are no options go. -/
inductive Placing where
  /-- Behind all options. -/
  | last
  /-- They end the options. -/
  | stop
  /-- They stay where they are. -/
  | stay
  deriving DecidableEq, Repr

/-- The options that there are. -/
structure Known where
  /-- The letters, with colons behind them. -/
  letters : Text := []
  /-- The words. -/
  words : List (Text × Takes) := []
  /-- Whether words may follow one dash. -/
  oneDash : Bool := false
  /-- Where other arguments go. -/
  placing : Placing := .last

/-- What comes out. -/
inductive Piece where
  /-- A letter, and its text if it has one. -/
  | letter (c : Char) (text : Option Text)
  /-- A word, and its text if it has one. -/
  | word (name : Text) (text : Option Text)
  /-- An argument that is no option. -/
  | other (text : Text)
  /-- A complaint. -/
  | fault (words : Text)

namespace Known

/-- The words that a text may stand for. -/
def candidates (known : Known) (name : Text) : List (Text × Takes) :=
  match known.words.find? (·.1 = name) with
  | some word => [word]
  | none => known.words.filter fun word ↦ Text.beginsWith word.1 name

/-- Takes a word after some dashes, if it may be one, and what is left of the arguments. -/
def takeWord (known : Known) (dashes text : Text) (rest : List Text) :
    Option (Piece × List Text) :=
  let name := text.takeWhile (· ≠ '=')
  let value? := if name.length < text.length then some (text.drop (name.length + 1)) else none
  let shown (name : Text) : Text := "'" ++ dashes ++ name ++ "'"
  let fault (words : Text) : Option (Piece × List Text) := some (.fault words, rest)
  match known.candidates name with
  | [] =>
    if dashes.length = 2 ∨ !(text.head?.any fun c ↦ c ≠ ':' && known.letters.contains c) then
      fault ("unrecognized option " ++ shown text)
    else none
  | [(full, takes)] =>
    match takes, value?, rest with
    | .nothing, none, _ => some (.word full none, rest)
    | .nothing, some _, _ => fault ("option " ++ shown full ++ " doesn't allow an argument")
    | .perhaps, value?, _ => some (.word full (some (value?.getD [])), rest)
    | .text, some value, _ => some (.word full (some value), rest)
    | .text, none, value :: rest => some (.word full (some value), rest)
    | .text, none, [] => fault ("option " ++ shown full ++ " requires an argument")
  | several =>
    fault ("option " ++ shown text ++ " is ambiguous; possibilities:" ++
      several.flatMap fun (name, _) ↦ ' ' :: shown name)

/-- Takes the letters after a dash, and what is left of the arguments. -/
def takeLetters (known : Known) : Text → List Text → List Piece × List Text
  | [], rest => ([], rest)
  | c :: letters, rest =>
    let goOn (piece : Piece) : List Piece × List Text :=
      let (pieces, rest) := takeLetters known letters rest
      (piece :: pieces, rest)
    match if c = ';' then none else Choices.ofLetter? known.letters c with
    | none => goOn (.fault ("invalid option -- '" ++ [c] ++ "'"))
    | some .nothing => goOn (.letter c none)
    | some .perhaps => ([.letter c (some letters)], rest)
    | some .text =>
      match letters, rest with
      | [], [] => ([.fault ("option requires an argument -- '" ++ [c] ++ "'")], [])
      | [], value :: rest => ([.letter c (some value)], rest)
      | letters, rest => ([.letter c (some letters)], rest)

/-- The pieces that come of arguments, and those arguments that come behind them, in at most some
rounds. -/
def arrange (known : Known) : Nat → List Text → List Piece × List Text
  | 0, arguments => ([], arguments)
  | _, [] => ([], [])
  | rounds + 1, argument :: rest =>
    let goOn (pieces : List Piece) (rest : List Text) : List Piece × List Text :=
      let (more, others) := known.arrange rounds rest
      (pieces ++ more, others)
    let letters (text : Text) : List Piece × List Text :=
      let (pieces, rest) := known.takeLetters text rest
      goOn pieces rest
    match argument with
    | ['-', '-'] => ([], rest)
    | '-' :: '-' :: text =>
      match known.takeWord ['-', '-'] text rest with
      | some (piece, rest) => goOn [piece] rest
      | none => letters ('-' :: text)
    | '-' :: c :: text =>
      if known.oneDash ∧ (¬ text.isEmpty ∨ ¬ known.letters.contains c) then
        match known.takeWord ['-'] (c :: text) rest with
        | some (piece, rest) => goOn [piece] rest
        | none => letters (c :: text)
      else letters (c :: text)
    | argument =>
      match known.placing with
      | .stop => ([], argument :: rest)
      | .stay => goOn [.other argument] rest
      | .last =>
        let (pieces, others) := known.arrange rounds rest
        (pieces, argument :: others)

end Known

/-! ### Quoting -/

/-- How texts are quoted. -/
inductive Quoting where
  /-- Not at all. -/
  | none
  /-- As most shells read it. -/
  | usual
  /-- As shells read it that change exclamation marks. -/
  | exclaiming
  deriving DecidableEq, Repr

/-- A text as it is written behind a blank. -/
def Quoting.write (quoting : Quoting) (text : Text) : Text :=
  let spelled (c : Char) : Text :=
    if quoting = .exclaiming ∧ c = '\\' then "\\\\"
    else if quoting = .exclaiming ∧ c = '\n' then "\\n"
    else if c = '\'' then "'\\''"
    else if quoting = .exclaiming ∧ (c = '!' ∨ " \t\x0b\x0c\r".toList.contains c) then
      ['\'', '\\', c, '\'']
    else [c]
  match quoting with
  | .none => ' ' :: text
  | _ => " '" ++ text.flatMap spelled ++ "'"

/-- The piece as it is written. -/
def Piece.write (quoting : Quoting) : Piece → Text
  | .letter c text => [' ', '-', c] ++ text.elim [] quoting.write
  | .word name text => " --" ++ name ++ text.elim [] quoting.write
  | .other text => quoting.write text
  | .fault _ => []

/-- The words between commas and blanks, with the colons behind them. -/
def wordsOf (text : Text) : List (Text × Takes) :=
  (Text.words (", \t\n".toList.contains ·) text).map fun word ↦
    match word.reverse with
    | ':' :: ':' :: name => (name.reverse, .perhaps)
    | ':' :: name => (name.reverse, .text)
    | _ => (word, .nothing)

/-- The options that letters give, with signs in front of them that say where others go, and whether
complaints are left out. -/
def Known.withLetters (known : Known) (text : Text) : Known × Bool :=
  match text with
  | '+' :: rest => ({ known with letters := rest, placing := .stop }, rest.head? = some ':')
  | '-' :: rest => ({ known with letters := rest, placing := .stay }, rest.head? = some ':')
  | text => ({ known with letters := text }, text.head? = some ':')

/-- Writes what comes of arguments, under a name. -/
def putAll (known : Known) (quoting : Quoting) (isSilent showsNothing : Bool) (name : Text)
    (arguments : List Text) : Work Unit := do
  let (pieces, others) := known.arrange (arguments.length + 1) arguments
  for piece in pieces do
    if let .fault words := piece then
      if ¬ isSilent then Work.say (name ++ ": " ++ words ++ "\n")
      Work.setStatus 1
  if ¬ showsNothing then
    Work.putLine (pieces.flatMap (·.write quoting) ++ " --" ++ others.flatMap quoting.write)

end Arranging

open Arranging in
/-- Arranges arguments. -/
def getopt (arguments : List Text) : Work Unit := do
  let values := (← get).values
  let name := (← get).name
  let isSet (name : String) : Bool := (values.lookup name.toList).isSome
  let placing : Placing := if isSet "POSIXLY_CORRECT" then .stop else .last
  let refuse {α : Type} (words : Text) : Work α := do
    Work.warn words
    Work.advise 2
  match arguments with
  | [] =>
    if isSet "GETOPT_COMPATIBLE" then Work.put " --\n"
    else refuse "missing optstring argument"
  | first :: rest =>
    if first.head? ≠ some '-' ∨ isSet "GETOPT_COMPATIBLE" then
      let letters := first.dropWhile fun c ↦ c = '-' || c = '+'
      let (known, isSilent) := ({ placing } : Known).withLetters letters
      putAll known .none isSilent false name rest
    else
      let (chosen, others) ← Choices.take
        { letters := "ao:l:n:qQs:TuhV"
          words := [("options=", 'o'), ("longoptions=", 'l'), ("quiet", 'q'),
            ("quiet-output", 'Q'), ("shell=", 's'), ("test", 'T'), ("unquoted", 'u'),
            ("help", 'h'), ("alternative", 'a'), ("name=", 'n'), ("version", 'V')]
          anywhere := false, status := 2 } arguments
      let mut quoting : Quoting := .usual
      let mut words : List (Text × Takes) := []
      for (letter, text) in chosen do
        match letter with
        | 'l' =>
          let more := wordsOf text
          if more.any (·.1.isEmpty) then refuse "empty long option after -l or --long argument"
          words := words ++ more
        | 's' =>
          if ["sh", "bash"].contains (String.ofList text) then quoting := .usual
          else if ["csh", "tcsh"].contains (String.ofList text) then quoting := .exclaiming
          else refuse "unknown shell after -s or --shell argument"
        | 'T' => Work.leave 4
        | _ => pure ()
      if has chosen 'u' then quoting := .none
      let (letters, others) ←
        match last? chosen 'o', others with
        | some letters, others => pure (letters, others)
        | none, letters :: others => pure (letters, others)
        | none, [] => refuse "missing optstring argument"
      let (known, isSilent) :=
        ({ words, placing, oneDash := has chosen 'a' } : Known).withLetters letters
      putAll known quoting (isSilent || has chosen 'q') (has chosen 'Q')
        ((last? chosen 'n').getD name) others

end AlignmentTally.Command
