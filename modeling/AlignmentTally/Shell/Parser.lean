import AlignmentTally.Shell.Lexicon

/-!
# Reading commands

The grammar of commands over tokens. A word is reserved only where a command may begin. Commands
are read inside of words and words inside of commands; each time one is read inside of another, a
number goes down, so that reading ends: `Parser.inner`.
-/

namespace AlignmentTally.Shell

open Machine

namespace Parser

open Reading Lexicon

/-- Whether a token ends a list of commands. -/
def endsList : Token → Bool
  | .ending => true
  | .operator text => [";;", ";&", ";;&", ")"].contains text
  | .reserved word =>
    ["then", "else", "elif", "fi", "do", "done", "esac", "\x7d"].contains word
  | _ => false

/-- Reads a reserved word that has to come next. -/
def expect (inner : Inner) (word : String) : Reading Unit := do
  match ← token inner ⟨true, true, true⟩ with
  | .reserved found =>
    if found ≠ word then refuse (.reserved found) (some ("\"" ++ word.toList ++ "\""))
  | token => refuse token (some ("\"" ++ word.toList ++ "\""))

/-- Reads an operator that has to come next. -/
def expectOperator (inner : Inner) (text : String) : Reading Unit := do
  match ← token inner {} with
  | .operator found =>
    if found ≠ text then refuse (.operator found) (some ("\"" ++ text.toList ++ "\""))
  | token => refuse token (some ("\"" ++ text.toList ++ "\""))

/-! ### Redirections -/

/-- How a redirection is written, with the stream in front of it where that is not the usual one. -/
def writtenRedirect (channel : Option Channel) (operator : String) (target : Text) : Text :=
  let front : Text :=
    match channel with
    | some (.named name) => '\x7b' :: name ++ ['\x7d']
    | some (.number n) =>
      let isUsual : Bool :=
        (n = 0 && ["<", "<<", "<<-", "<<<"].contains operator) ||
          (n = 1 && [">", ">>", ">|"].contains operator)
      if isUsual then [] else Text.ofNat n
    | none => if operator = ">&" then ['1'] else if operator = "<&" then ['0'] else []
  let gap : Text := if [">&", "<&", "<<", "<<-"].contains operator then [] else [' ']
  front ++ operator.toList ++ gap ++ target

/-- Reads the target of a redirection. The result is also how it is written. -/
def readRedirect (inner : Inner) (channel : Option Channel) (operator : String) :
    Reading (List Redirect × Text) := do
  let written (redirects : List Redirect) : Reading (List Redirect × Text) := do
    return (redirects, writtenRedirect channel operator (← get).latest)
  let input := channel.getD (.number 0)
  let output := channel.getD (.number 1)
  if operator = "<<" ∨ operator = "<<-" then
    match ← readRaw inner .lastLine endless with
    | .word word quoted =>
      let number := (← get).asked
      let last := spelling (.word word quoted)
      let awaited : Awaited := ⟨number, last, operator = "<<-", quoted, (← get).line⟩
      modify fun source ↦
        { source with asked := number + 1, awaited := source.awaited ++ [awaited] }
      written [.text input (((← get).known.lookup number).getD [])]
    | token => refuse token none
  else
    match ← token inner {} with
    | .word word _ =>
      let text := (← get).latest
      let errors : Redirect := .copy (.number 2) [.literal false ['1']] ['1']
      match operator with
      | ">&" => written [.copy output word text]
      | "<&" => written [.copy input word text]
      | "&>" => written [.file output ">" word text, errors]
      | "&>>" => written [.file output ">>" word text, errors]
      | "<<<" => written [.text input (word ++ [.literal true ['\n']])]
      | "<" | "<>" => written [.file input operator word text]
      | operator => written [.file output operator word text]
    | token => refuse token none

/-- Reads redirections as far as there are any. -/
def readRedirects (inner : Inner) : Nat → List Redirect → List Text →
    Reading (List Redirect × Text)
  | 0, redirects, texts => return (redirects, Text.join [' '] texts)
  | rounds + 1, redirects, texts => do
    match ← token inner ⟨false, true, true⟩ with
    | .redirect channel operator =>
      let (more, text) ← readRedirect inner channel operator
      readRedirects inner rounds (redirects ++ more) (texts ++ [text])
    | token =>
      keep token
      return (redirects, Text.join [' '] texts)

/-! ### Simple commands -/

/-- The index in square brackets at the start of a word, and what follows it. -/
def splitIndex : Word → Option (Word × Word)
  | .literal false ('[' :: text) :: parts => go 0 [] (.literal false text :: parts)
  | _ => none
where
  /-- Goes on to the closing bracket, within a number of open brackets. -/
  go (depth : Nat) (done : List Part) : Word → Option (Word × Word)
    | [] => none
    | .literal false text :: parts =>
      match cut depth [] text with
      | .inl depth => go depth (.literal false text :: done) parts
      | .inr (inside, rest) =>
        let rest := if rest.isEmpty then parts else .literal false rest :: parts
        some ((Part.literal false inside :: done).reverse, rest)
    | part :: parts => go depth (part :: done) parts
  /-- The text before the closing bracket and after it, or the number of open brackets. -/
  cut (depth : Nat) (done : Text) : Text → Nat ⊕ (Text × Text)
    | [] => .inl depth
    | '[' :: text => cut (depth + 1) ('[' :: done) text
    | ']' :: text => if depth = 0 then .inr (done.reverse, text) else cut (depth - 1) (']' :: done) text
    | c :: text => cut depth (c :: done) text

/-- A word in front of which a text is left out. -/
def withoutStart (text : Text) : Word → Word
  | .literal quoted whole :: parts =>
    let rest := whole.drop text.length
    if rest.isEmpty then parts else .literal quoted rest :: parts
  | word => word

/-- The value after an equals sign at the start of a word, perhaps after a plus sign. -/
def assigned? : Word → Option (Bool × Word)
  | .literal false ('=' :: text) :: parts =>
    some (false, withoutStart ['='] (.literal false ('=' :: text) :: parts))
  | .literal false ('+' :: '=' :: text) :: parts =>
    some (true, withoutStart ['+', '='] (.literal false ('+' :: '=' :: text) :: parts))
  | _ => none

/-- The assignment that a word is. -/
def assignment? (extended : Bool) : Word → Option Assignment
  | .literal false text :: parts =>
    let name := text.takeWhile isNameChar
    let after := withoutStart name (.literal false text :: parts)
    if ¬ isName name then none
    else
      match assigned? after with
      | some (atEnd, value) => if extended ∨ ¬ atEnd then some (.text name atEnd value) else none
      | none =>
        match if extended then splitIndex after else none with
        | some (index, after) => (assigned? after).map fun (atEnd, value) ↦
          .item name index atEnd value
        | none => none
  | _ => none

/-- Reads items up to a closing bracket. The result is also how each is written. -/
def readItems (inner : Inner) : Nat → List ((Option Word × Word) × Text) →
    Reading (List ((Option Word × Word) × Text))
  | 0, items => return items.reverse
  | rounds + 1, items => do
    match ← token inner ⟨true, false, false⟩ with
    | .word word _ =>
      let text := (← get).latest
      let item :=
        match splitIndex word with
        | none => (none, word)
        | some (index, after) =>
          match assigned? after with
          | some (false, value) => (some index, value)
          | _ => (none, word)
      readItems inner rounds ((item, text) :: items)
    | .operator ")" => return items.reverse
    | .ending => failAtEnd "Syntax error"
    | token => refuse token none

/-- The commands whose arguments may be assignments of several items. -/
def declaringNames : List String :=
  ["declare", "typeset", "local", "readonly", "export", "alias"]

/-- The name of a parameter, and whether a word says that several items are to be its value, perhaps
after those that it has. -/
def itemsNamed? (extended : Bool) (word : Word) (rest : Text) : Option (Text × Bool) :=
  match if extended then assignment? true word else none, rest with
  | some (.text name atEnd []), '(' :: _ => some (name, atEnd)
  | _, _ => none

/-- A simple command as far as it was read, everything in reverse. -/
structure Draft where
  /-- The assignments in front. -/
  assignments : List Assignment := []
  /-- The words. -/
  words : List Word := []
  /-- The redirections. -/
  redirects : List Redirect := []
  /-- How the assignments and words are written. -/
  texts : List Text := []
  /-- How the redirections are written. -/
  leads : List Text := []

/-- A draft with one more assignment. -/
def Draft.assign (draft : Draft) (assignment : Assignment) (text : Text) : Draft :=
  { draft with assignments := assignment :: draft.assignments, texts := text :: draft.texts }

/-- A draft with one more word. -/
def Draft.push (draft : Draft) (word : Word) (text : Text) : Draft :=
  { draft with words := word :: draft.words, texts := text :: draft.texts }

/-- The command that a draft is. -/
def Draft.command (draft : Draft) (line : Nat) : Command :=
  .simple line draft.assignments.reverse draft.words.reverse draft.redirects.reverse
    (Text.join [' '] (draft.texts.reverse ++ draft.leads.reverse))

/-- Whether the name of a function may be given to a command. -/
def mayDefine (extended : Bool) (name : Text) : Bool :=
  let special :=
    [".", ":", "break", "continue", "eval", "exec", "exit", "export", "readonly", "return", "set",
      "shift", "times", "trap", "unset"]
  if extended then !name.isEmpty && !name.any fun c ↦ "$`'\"\\".toList.contains c
  else isName name && !special.contains (String.ofList name)

/-- Reads an assignment of several items from their opening bracket on. -/
def readCompound (inner : Inner) (name : Text) (atEnd : Bool) : Reading Assignment := do
  goTo ((← rest).drop 1)
  let items ← enclosed ')' (readItems inner endless [])
  let text : Text := "(" ++ Text.join [' '] (items.map Prod.snd) ++ ")"
  return .items name atEnd (items.map Prod.fst) text

/-- How an assignment of several items is written. -/
def writtenItems : Assignment → Text
  | .items name atEnd _ written => name ++ (if atEnd then "+=" else "=").toList ++ written
  | _ => []

/-- Whether a draft is that of a command whose arguments may be assignments of several items. -/
def Draft.declares (draft : Draft) : Bool :=
  match draft.words.getLast?.bind plain? with
  | some name => declaringNames.contains (String.ofList name)
  | none => false

/-- Reads the rest of a simple command, or the definition of a name. The command is on the line of
its first word, in the extended dialect on that of its second one. -/
def readSimple (inner : Inner) (line : Nat) : Nat → Draft → Reading Command
  | 0, _ => fail "Syntax error"
  | rounds + 1, draft => do
    let extended ← isExtended
    let token ← token inner ⟨false, false, draft.words.isEmpty⟩
    let isNewline : Bool :=
      match token with
      | .newline => true
      | _ => false
    let isSecond := draft.words.length + draft.redirects.length = 1
    let here := (← get).line
    let line := if extended ∧ isSecond ∧ ¬ isNewline then here else line
    let text := (← get).latest
    match token with
    | .word word _ =>
      match itemsNamed? extended word (← rest) with
      | some (name, atEnd) =>
        if draft.words.isEmpty then
          let items ← readCompound inner name atEnd
          readSimple inner line rounds (draft.assign items (writtenItems items))
        else if draft.declares then
          let items ← readCompound inner name atEnd
          readSimple inner line rounds (draft.push [.compound items] (writtenItems items))
        else readSimple inner line rounds (draft.push word text)
      | none =>
        match if draft.words.isEmpty then assignment? extended word else none with
        | some assignment => readSimple inner line rounds (draft.assign assignment text)
        | none => readSimple inner line rounds (draft.push word text)
    | .redirect channel operator =>
      let (more, text) ← readRedirect inner channel operator
      readSimple inner line rounds
        { draft with redirects := more.reverse ++ draft.redirects, leads := text :: draft.leads }
    | .operator "(" =>
      match draft with
      | { assignments := [], words := [word], redirects := [], .. } =>
        expectOperator inner ")"
        let name := spelling (.word word false)
        if word.any isQuotedPart ∨ ¬ mayDefine extended name then
          fail "Syntax error: Bad function name"
        let next ← Lexicon.token inner ⟨true, true, true⟩
        keep next
        let line := (← get).line
        return .define line name (← inner.command)
      | _ =>
        if extended then refuse token none
        keep (.operator "(")
        return draft.command line
    | token =>
      keep token
      return draft.command line

/-! ### Compound commands -/

/-- Reads the rest of a choice, after `if` or `elif`. -/
def readBranch (inner : Inner) : Nat → Reading Command
  | 0 => fail "Syntax error"
  | rounds + 1 => do
    let condition ← inner.someCommands
    expect inner "then"
    let yes ← inner.someCommands
    match ← token inner ⟨true, true, true⟩ with
    | .reserved "elif" => return .branch condition yes (← readBranch inner rounds)
    | .reserved "else" =>
      let no ← inner.someCommands
      expect inner "fi"
      return .branch condition yes no
    | .reserved "fi" => return .branch condition yes .skip
    | token => refuse token (some "\"fi\"")

/-- Reads words up to the end of a line or a semicolon. -/
def readWords (inner : Inner) : Nat → List Word → Reading (List Word)
  | 0, words => return words.reverse
  | rounds + 1, words => do
    match ← token inner {} with
    | .word word _ => readWords inner rounds (word :: words)
    | .newline =>
      readInputs inner endless
      return words.reverse
    | .operator ";" => return words.reverse
    | token => refuse token none

/-- The parts of an expression around its semicolons. -/
def splitExpression (expression : Word) : List Word :=
  let (pieces, last) := expression.foldl
    (fun (pieces, last) part ↦
      match part with
      | .literal quoted text =>
        match Text.splitOn ';' text with
        | first :: more =>
          more.foldl
            (fun (pieces, last) text ↦ (last.reverse :: pieces, [Part.literal quoted text]))
            (pieces, Part.literal quoted first :: last)
        | [] => (pieces, last)
      | part => (pieces, part :: last))
    (([] : List Word), ([] : Word))
  (last.reverse :: pieces).reverse

/-- Reads the body of a repetition over words: between `do` and `done`, or in the extended dialect
between braces. -/
def readEachBody (inner : Inner) : Reading Command := do
  let first ← token inner ⟨true, true, true⟩
  match first, ← isExtended with
  | .reserved "\x7b", true =>
    let body ← inner.someCommands
    expect inner "\x7d"
    return body
  | first, _ =>
    keep first
    expect inner "do"
    let body ← inner.someCommands
    expect inner "done"
    return body

/-- Reads the rest of a repetition over words, after `for`, or after `select` where the words are
to choose from. -/
def readEach (inner : Inner) (line : Nat) (isMenu : Bool) : Reading Command := do
  let body := readEachBody inner
  let build (name : Text) (words : Option (List Word)) (text : Text) (body : Command) : Command :=
    if isMenu then .menu line name words text body else .each line name words text body
  let first ← token inner {}
  match first, ← rest with
  | .operator "(", '(' :: after =>
    goTo after
    let (expression, text) ← written (enclosed ')' (inner.parts .expression))
    let parts := splitExpression expression
    let texts := (Text.splitOn ';' (text.take (text.length - 2))).map fun text ↦
      Text.trimStart (· = ' ') text
    match ← token inner {} with
    | .operator ";" => pure ()
    | token => keep token
    return .count line (parts.getD 0 []) (parts.getD 1 []) (parts.getD 2 []) texts (← body)
  | .word word _, _ =>
    let extended ← isExtended
    match (if extended then some (spelling (.word word false)) else plain? word).filter fun name ↦
        extended || isName name with
    | none => fail "Syntax error: Bad for loop variable"
    | some name =>
      match ← token inner ⟨true, true, true⟩ with
      | .reserved "in" =>
        let (words, text) ← written (readWords inner endless [])
        return build name (some words) text (← body)
      | .operator ";" => return build name none "\"$@\"" (← body)
      | token =>
        keep token
        return build name none "\"$@\"" (← body)
  | _, _ => fail "Syntax error: Bad for loop variable"

/-- Reads patterns separated by bars, up to a closing bracket, after the first one. The result is
also how they are written. -/
def readPatterns (inner : Inner) : Nat → List Word → List Text → Reading (List Word × Text)
  | 0, patterns, texts => return (patterns.reverse, Text.join " | " texts.reverse)
  | rounds + 1, patterns, texts => do
    match ← token inner {} with
    | .operator "|" =>
      match ← token inner {} with
      | .word word _ => readPatterns inner rounds (word :: patterns) ((← get).latest :: texts)
      | token => refuse token none
    | .operator ")" => return (patterns.reverse, Text.join " | " texts.reverse)
    | token => refuse token (some "\")\"")

/-- What an operator after a chosen command says about what follows it. -/
def continuation? : Token → Option Continuation
  | .operator ";;" => some .stop
  | .operator ";&" => some .runNext
  | .operator ";;&" => some .testNext
  | _ => none

/-- Reads the choices of a command by pattern, up to its end. -/
def readChoices (inner : Inner) : Nat → List (List Word × Text × Command × Continuation) →
    Reading (List (List Word × Text × Command × Continuation))
  | 0, choices => return choices.reverse
  | rounds + 1, choices => do
    let sought : Sought := ⟨true, true, false⟩
    let first ← token inner sought
    let first ←
      match first with
      | .operator "(" => token inner {}
      | first => pure first
    let text := (← get).latest
    let choice (word : Word) : Reading (List (List Word × Text × Command × Continuation)) := do
      let (patterns, text) ← readPatterns inner endless [word] [text]
      let body ← inner.commands
      let last ← token inner sought
      match last, continuation? last with
      | .reserved "esac", _ => return ((patterns, text, body, .stop) :: choices).reverse
      | _, some next => readChoices inner rounds ((patterns, text, body, next) :: choices)
      | token, none => refuse token (some "\";;\"")
    match first with
    | .reserved "esac" => return choices.reverse
    | .word word _ => choice word
    | .reserved word => choice [.literal false word]
    | token => refuse token (some "\")\"")

/-! ### Conditions -/

/-- The operators in front of a word in a condition. -/
def testOperators : List String :=
  ["-a", "-b", "-c", "-d", "-e", "-f", "-g", "-h", "-k", "-n", "-o", "-p", "-r", "-s", "-t", "-u",
    "-v", "-w", "-x", "-z", "-G", "-L", "-N", "-O", "-R", "-S"]

/-- The operators between two words in a condition. -/
def comparingOperators : List String :=
  ["=", "==", "!=", "=~", "-eq", "-ne", "-ge", "-gt", "-le", "-lt", "-nt", "-ot", "-ef"]

/-- The operator that a word is, out of some. -/
def operator? (operators : List String) (word : Word) : Option String :=
  ((plain? word).map String.ofList).filter operators.contains

/-- Finds fault with a condition, before the token that it does not go on with. -/
def refuseTest {α : Type} (token : Token) (words : Text) : Reading α := do
  throw { line := (← get).line, message := words, unexpected := some (spelling token), explained := true }

/-- Whether a token ends a condition. -/
def endsTest : Token → Bool
  | .operator text => text = "&&" || text = "||" || text = ")"
  | .word word _ => plain? word = some "]]".toList
  | _ => false

/-- Reads the word after an operator of a condition, which may be a pattern for parts of texts or for
whole texts. The result is also how it is written. -/
def readTestWord (inner : Inner) (isRegex hasPattern : Bool) : Reading (Word × Text) := do
  if isRegex then
    goTo ((← ahead).dropWhile fun c ↦ c = ' ' || c = '\t')
    return ← written (readParts inner .regex endless {} 0)
  let before := (← get).groups
  modify fun source ↦ { source with groups := before || hasPattern }
  let word ← token inner {}
  modify fun source ↦ { source with groups := before }
  match word with
  | .word word quoted =>
    if endsTest (.word word quoted) then
      refuseTest (.word word quoted) "unexpected argument to conditional operator"
    else return (word, (← get).latest)
  | token => refuseTest token "unexpected argument to conditional operator"

mutual

/-- Reads conditions of which one has to hold. The result is also how they are written. -/
def readTest (inner : Inner) : Nat → Reading (Test × Text)
  | 0 => fail "Syntax error"
  | rounds + 1 => do
    let (first, text) ← readTests inner rounds
    match ← token inner ⟨true, false, false⟩ with
    | .operator "||" =>
      let (second, other) ← readTest inner rounds
      return (.either first second, text ++ " || ".toList ++ other)
    | token =>
      keep token
      return (first, text)

/-- Reads conditions that have to hold together. -/
def readTests (inner : Inner) : Nat → Reading (Test × Text)
  | 0 => fail "Syntax error"
  | rounds + 1 => do
    let (first, text) ← readSingleTest inner rounds
    match ← token inner ⟨true, false, false⟩ with
    | .operator "&&" =>
      let (second, other) ← readTests inner rounds
      return (.both first second, text ++ " && ".toList ++ other)
    | token =>
      keep token
      return (first, text)

/-- Reads a condition on one word or two, one in brackets, or one that is not to hold. -/
def readSingleTest (inner : Inner) : Nat → Reading (Test × Text)
  | 0 => fail "Syntax error"
  | rounds + 1 => do
    let first ← token inner ⟨true, false, false⟩
    match first with
    | .operator "(" =>
      let (test, text) ← readTest inner rounds
      match ← token inner ⟨true, false, false⟩ with
      | .operator ")" => return (test, "( ".toList ++ text ++ " )".toList)
      | token => refuseTest token "expected \x60)'"
    | .word word _ =>
      let text := (← get).latest
      if plain? word = some ['!'] then
        let (test, other) ← readSingleTest inner rounds
        return (.not test, "! ".toList ++ other)
      if endsTest first then refuseTest first []
      match operator? testOperators word with
      | some operator =>
        let (word, other) ← readTestWord inner false false
        return (.one operator word, operator.toList ++ ' ' :: other)
      | none =>
        let second ← token inner ⟨true, false, false⟩
        let lone : Test × Text := (.one "-n" word, "-n ".toList ++ text)
        let compare (operator : String) : Reading (Test × Text) := do
          let hasPattern : Bool := operator = "=" || operator = "==" || operator = "!="
          let (second, other) ← readTestWord inner (operator = "=~") hasPattern
          return (.two operator word second, text ++ ' ' :: operator.toList ++ ' ' :: other)
        match second with
        | .redirect none "<" => compare "<"
        | .redirect none ">" => compare ">"
        | .word other _ =>
          if endsTest second then
            keep second
            return lone
          match operator? comparingOperators other with
          | some operator => compare operator
          | none => refuseTest second "conditional binary operator expected"
        | second =>
          if endsTest second then
            keep second
            return lone
          refuseTest second "conditional binary operator expected"
    | token => refuseTest token []

end

/-- Reads a condition up to the closing brackets. The result is also how it is written. -/
def readCondition (inner : Inner) : Reading (Test × Text) := do
  let (test, text) ← readTest inner endless
  match ← token inner ⟨true, false, false⟩ with
  | .word word quoted =>
    if plain? word = some "]]".toList then return (test, text)
    else refuseTest (.word word quoted) "syntax error in conditional expression"
  | token => refuseTest token "syntax error in conditional expression"

/-! ### Commands -/

/-- Whether a token begins a command that is not a simple one. -/
def beginsCompound : Token → Bool
  | .operator "(" => true
  | .reserved word =>
    ["if", "while", "until", "for", "case", "select", "[[", "\x7b"].contains word
  | _ => false

/-- Reads a command that runs beside the script, perhaps with a name for its pipes. -/
def readCoprocess (inner : Inner) (line : Nat) : Reading Command := do
  let first ← token inner ⟨false, true, true⟩
  let usual : Text := "COPROC"
  if beginsCompound first then
    keep first
    return .coprocess line usual (← inner.command)
  match first with
  | .word word _ =>
    let before ← get
    let second ← token inner ⟨false, true, false⟩
    if beginsCompound second then
      keep second
      return .coprocess line (spelling (.word word false)) (← inner.command)
    set before
    keep first
  | _ => keep first
  return .coprocess line usual (← readSimple inner (← get).line endless {})

/-- Reads one command without the redirections after it; whether it may have such. -/
def readBody (inner : Inner) (line : Nat) : Reading (Command × Bool) := do
  match ← token inner ⟨false, true, true⟩ with
  | .reserved "if" => return (← readBranch inner endless, true)
  | .reserved "while" =>
    let condition ← inner.someCommands
    expect inner "do"
    let body ← inner.someCommands
    expect inner "done"
    return (.loop false condition body, true)
  | .reserved "until" =>
    let condition ← inner.someCommands
    expect inner "do"
    let body ← inner.someCommands
    expect inner "done"
    return (.loop true condition body, true)
  | .reserved "for" => return (← readEach inner line false, true)
  | .reserved "select" => return (← readEach inner line true, true)
  | .reserved "case" =>
    let (token, text) ← written (token inner {})
    match token with
    | .word word _ =>
      expect inner "in"
      return (.select line word text (← readChoices inner endless []), true)
    | token => refuse token (some "word")
  | .operator "(" =>
    match ← isExtended, ← rest with
    | true, '(' :: after =>
      goTo after
      let expression ← enclosed ')' (inner.parts .expression)
      let text := (after.take (after.length - (← rest).length)).dropLast.dropLast
      return (.calculate line expression text, true)
    | _, _ =>
      let body ← inner.someCommands
      expectOperator inner ")"
      return (.subshell line body [] [], true)
  | .reserved "\x7b" =>
    let body ← inner.someCommands
    expect inner "\x7d"
    let extended ← isExtended
    return (if extended then .redirected line body [] [] else body, true)
  | .reserved "coproc" => return (← readCoprocess inner line, false)
  | .reserved "[[" =>
    let (test, text) ← readCondition inner
    return (.condition line test text, true)
  | .reserved "function" =>
    match ← token inner {} with
    | .word word _ =>
      match ← token inner ⟨true, true, true⟩ with
      | .operator "(" => expectOperator inner ")"
      | token => keep token
      let next ← token inner ⟨true, true, true⟩
      keep next
      let line := (← get).line
      return (.define line (spelling (.word word false)) (← inner.command), false)
    | token => refuse token none
  | .word word quoted =>
    keep (.word word quoted)
    return (← readSimple inner (← get).line endless {}, false)
  | .redirect channel operator =>
    keep (.redirect channel operator)
    return (← readSimple inner (← get).line endless {}, false)
  | token => refuse token none

/-- Reads one command with its redirections. -/
def readCommand (inner : Inner) : Reading Command := do
  let first ← token inner ⟨false, true, true⟩
  keep first
  let line := (← get).line
  let (body, mayRedirect) ← readBody inner line
  if ¬ mayRedirect then return body
  match ← readRedirects inner endless [] [] with
  | ([], _) => return body
  | (redirects, text) =>
    match body with
    | .subshell line body _ _ => return .subshell line body redirects text
    | body => return .redirected line body redirects text

/-! ### Lists -/

/-- Reads the rest of a pipeline, the parts so far being in reverse. -/
def readPipes (inner : Inner) : Nat → List Command → Reading Command
  | 0, _ => fail "Syntax error"
  | rounds + 1, parts => do
    let pipe (merges : Bool) : Reading Command := do
      let next ← token inner (.command true)
      keep next
      let line := (← get).line
      let parts :=
        match parts with
        | part :: more =>
          if merges then .redirected line part [.copy (.number 2) [.literal false ['1']] ['1']] "2>&1" :: more
          else part :: more
        | [] => []
      readPipes inner rounds ((← readCommand inner) :: parts)
    match ← token inner {} with
    | .operator "|" => pipe false
    | .operator "|&" => pipe true
    | token =>
      keep token
      match parts with
      | [part] => return part
      | parts => return .pipeline parts.reverse

/-- Reads a pipeline. -/
def readPipeline (inner : Inner) : Reading Command := do
  match ← token inner (.command false) with
  | .reserved "!" =>
    let next ← token inner (.command false)
    keep next
    return .negated (← readPipes inner endless [← readCommand inner])
  | .reserved "time" =>
    let next ← token inner (.command false)
    let brief := (match next with
      | .word word _ => plain? word
      | _ => none) = some ['-', 'p']
    if ¬ brief then keep next
    return .timed brief (← readTimed inner)
  | token =>
    keep token
    readPipes inner endless [← readCommand inner]
where
  /-- Reads the command whose time is shown, if there is one. -/
  readTimed (inner : Inner) : Reading Command := do
    let next ← token inner (.command false)
    keep next
    match next with
    | .newline | .ending | .operator ";" => return .skip
    | .reserved "!" =>
      let _ ← token inner (.command false)
      return .negated (← readPipes inner endless [← readCommand inner])
    | _ => readPipes inner endless [← readCommand inner]

/-- Reads the rest of a chain of pipelines, which binds to the left. -/
def readChain (inner : Inner) : Nat → Command → Reading Command
  | 0, _ => fail "Syntax error"
  | rounds + 1, first => do
    let second : Reading Command := do
      let next ← token inner (.command true)
      keep next
      readPipeline inner
    match ← token inner {} with
    | .operator "&&" => readChain inner rounds (.andThen first (← second))
    | .operator "||" => readChain inner rounds (.orElse first (← second))
    | token =>
      keep token
      return first

/-- A command after others, if there are any. -/
def after (commands : Option Command) (next : Command) : Command :=
  match commands with
  | none => next
  | some commands => .sequence commands next

/-- Reads commands up to what ends them, or up to the end of the line. -/
def readList (inner : Inner) (oneLine optional : Bool) :
    Nat → Option Command → Reading (Option Command)
  | 0, commands => return commands
  | rounds + 1, commands => do
    let before ← rest
    match ← token inner (.command !oneLine) with
    | .newline =>
      readInputs inner endless
      return some (commands.getD .skip)
    | .ending =>
      readInputs inner endless
      keep .ending
      return if oneLine then commands else some (commands.getD .skip)
    | token =>
      keep token
      let stops := oneLine && (← isExtended)
      if (optional ∨ commands.isSome) ∧ endsList token then
        if stops then refuse token none
        return some (commands.getD .skip)
      let line := (← get).line
      let command ← readChain inner endless (← readPipeline inner)
      let token ← Lexicon.token inner {}
      let left ← rest
      let command := match token with
        | .operator "&" =>
          let isBlank (c : Char) : Bool := c = ' ' || c = '\t' || c = '\n' || c = ';' || c = '&'
          let text := before.take (before.length - left.length)
          .background line (Text.trimEnd isBlank (Text.trimStart isBlank text)) command
        | _ => command
      let commands := after commands command
      match token with
      | .ending =>
        readInputs inner endless
        keep .ending
        return some commands
      | .newline =>
        keep .newline
        readList inner oneLine optional rounds commands
      | .operator "&" | .operator ";" => readList inner oneLine optional rounds commands
      | token =>
        if oneLine then refuse token none
        keep token
        return some commands

mutual

/-- The readers of what stands inside, at most some levels deep. -/
def innerParts : Nat → Surrounding → Reading Word
  | 0, _ => fail "Syntax error"
  | depth + 1, surrounding => readParts (inner depth) surrounding endless {} 0

/-- Reads commands inside of something, at most some levels deep. -/
def innerList : Nat → Bool → Reading Command
  | 0, _ => fail "Syntax error"
  | depth + 1, optional => do
    return (← readList (inner depth) false optional endless none).getD .skip

/-- Reads a command inside of something, at most some levels deep. -/
def innerCommand : Nat → Reading Command
  | 0 => fail "Syntax error"
  | depth + 1 => readCommand (inner depth)

/-- The readers of what stands inside, at most some levels deep. -/
def inner (depth : Nat) : Inner where
  commands := innerList depth true
  someCommands := innerList depth false
  command := innerCommand depth
  parts := innerParts depth

end

/-- Reads the commands on the next lines, as many lines as they need. -/
def readLine : Reading (Option Command) := readList (inner endless) true false endless none

/-- The commands on the next lines of a source, if there are any, and what is left of it. -/
def commands (source : Source) : Except Fault (Option Command × Source) :=
  let start := { source with found := [], known := [], asked := 0, awaited := [] }
  match readLine.run start with
  | .error fault _ => .error fault
  | .ok command left =>
    if left.asked = 0 then .ok (command, left)
    else
      match readLine.run { start with known := left.found } with
      | .error fault _ => .error fault
      | .ok command left => .ok (command, left)

/-- The word that a text is in which parameters, commands and expressions stand for others, and
everything else for itself. -/
def lineWord (dialect : Dialect) (text : Text) : Word :=
  -- no text has a line that is this one character
  match (innerParts endless (.lines ['\x00'] false)).run { rest := text, dialect } with
  | .ok word _ => word
  | .error .. => [.literal true text]

/-- Whether nothing is left of a source but its end. -/
def isAtEnd (source : Source) : Bool :=
  match source.kept with
  | some .ending => true
  | _ => source.kept.isNone && source.rest.isEmpty

end Parser

end AlignmentTally.Shell
