import AlignmentTally.Shell.Source

/-!
# Words and operators

How the text of a script is cut into words and operators. Quotes decide how a word is cut: between
single quotes every character stands for itself, between double quotes all but the dollar, the
backtick and the backslash do, and a backslash takes the special meaning of the next character
away. Commands inside words are read by the reader of commands, which is a parameter here.
-/

namespace AlignmentTally.Shell

open Machine

/-- Where the characters of a word stand. -/
inductive Surrounding where
  /-- In a word without quotes, which ends before a blank or an operator. -/
  | word
  /-- In the word that ends the lines of an input, where the dollar stands for itself. -/
  | lastLine
  /-- Between double quotes. -/
  | quotes
  /-- Between braces after a dollar, perhaps within double quotes. -/
  | braces (quoted : Bool)
  /-- Between slashes and braces, where a slash ends the word. -/
  | pattern (quoted : Bool)
  /-- In the lines of an input. -/
  | lines (last : Text) (trims : Bool)
  /-- In an arithmetic expression, between two brackets on each side. -/
  | expression
  /-- In an arithmetic expression between square brackets. -/
  | squares
  /-- In the index of an item, between square brackets. -/
  | index
  /-- In a pattern for parts of texts, where brackets and bars stand for themselves. -/
  | regex
  /-- In a group of a pattern, up to the bracket that closes it. -/
  | group
  deriving DecidableEq, Inhabited

namespace Surrounding

/-- Whether what stands there is quoted. -/
def isQuoted : Surrounding → Bool
  | quotes | lines .. | expression | squares => true
  | braces quoted | pattern quoted => quoted
  | word | lastLine | index | regex | group => false

/-- Whether a character may stand there for something other than itself. -/
def isActive (surrounding : Surrounding) (c : Char) : Bool :=
  c = '\\' || c = '\n' ||
    match surrounding with
    | word => "'\"$\x60;&|<>() \t".toList.contains c
    | lastLine => "'\";&|<>() \t".toList.contains c
    | quotes => "\"$\x60".toList.contains c
    | braces true => "\"$\x60\x7d".toList.contains c
    | braces false => "'\"$\x60\x7d".toList.contains c
    | pattern true => "\"$\x60\x7d/".toList.contains c
    | pattern false => "'\"$\x60\x7d/".toList.contains c
    | lines .. => "$\x60".toList.contains c
    | expression => "$\x60()\"".toList.contains c
    | squares => "$\x60[]\"".toList.contains c
    | index => "'\"$\x60[]".toList.contains c
    | regex => "'\"$\x60;&<>() \t".toList.contains c
    | group => "'\"$\x60()".toList.contains c

end Surrounding

/-- The readers of what may stand inside a word or a command. -/
structure Inner where
  /-- Reads commands up to what ends them. -/
  commands : Reading Command
  /-- Reads commands of which there has to be one, up to what ends them. -/
  someCommands : Reading Command
  /-- Reads one command. -/
  command : Reading Command
  /-- Reads the parts of a word. -/
  parts : Surrounding → Reading Word

/-- The parts of a word as far as they were read, the last one first. -/
structure Pieces where
  /-- The parts before the text. -/
  parts : List Part := []
  /-- The text that is read, the last character first. -/
  text : Text := []
  /-- Whether the text is quoted. -/
  quoted : Bool := false

namespace Pieces

/-- The pieces with the text closed. -/
def closed (pieces : Pieces) : List Part :=
  if pieces.text.isEmpty then pieces.parts
  else .literal pieces.quoted pieces.text.reverse :: pieces.parts

/-- The pieces with one more part. -/
def push (pieces : Pieces) (part : Part) : Pieces := ⟨part :: pieces.closed, [], false⟩

/-- The pieces with more text. -/
def pushText (pieces : Pieces) (quoted : Bool) (text : Text) : Pieces :=
  if pieces.text.isEmpty ∨ pieces.quoted = quoted then
    ⟨pieces.parts, text.reverseAux pieces.text, quoted⟩
  else ⟨pieces.closed, text.reverse, quoted⟩

/-- Whether an opening bracket would begin a group of a pattern. -/
def opensGroup (pieces : Pieces) : Bool :=
  !pieces.quoted && pieces.text.head?.any "?*+@!".toList.contains

/-- The word of the pieces. -/
def toWord (pieces : Pieces) : Word := pieces.closed.reverse

end Pieces

namespace Lexicon

open Reading

/-- The name of a token in a complaint. -/
def describe : Token → Text
  | .ending => "end of file"
  | .newline => "newline"
  | .operator text => "\"" ++ text.toList ++ "\""
  | .redirect .. => "redirection"
  | .word .. => "word"
  | .reserved word => "\"" ++ word.toList ++ "\""

/-- The characters of a token. -/
def spelling : Token → Text
  | .ending => "end of file"
  | .newline => "newline"
  | .operator text | .redirect _ text | .reserved text => text
  | .word word _ => word.flatMap fun part ↦
    match part with
    | .literal _ text => text
    | _ => []

/-- Finds fault with a token where another one may have to come. -/
def refuse {α : Type} (token : Token) (wanted : Option Text) : Reading α := do
  let wanted : Text := wanted.elim [] fun wanted ↦ " (expecting " ++ wanted ++ ")"
  let source ← get
  let isPast : Bool :=
    match token with
    | .newline => source.dialect = .extended
    | _ => false
  throw {
    line := if isPast then source.line - 1 else source.line
    message := "Syntax error: " ++ describe token ++ " unexpected" ++ wanted
    unexpected := some (spelling token) }

/-- The characters of a text up to a single quote, with those that a backslash stands before
replaced by what they stand for. -/
def readEscaped : Nat → Text → Text → Option (Text × Text)
  | 0, _, _ => none
  | rounds + 1, done, text =>
    match text with
    | [] => none
    | '\'' :: rest => some (done.reverse, rest)
    | '\\' :: 'x' :: rest =>
      let digits := (rest.take 2).takeWhile fun c ↦ c.isDigit || ('a' ≤ c.toLower && c.toLower ≤ 'f')
      let code := Char.ofNat (Text.natOfDigits 16 digits)
      readEscaped rounds (code :: done) (rest.drop digits.length)
    | '\\' :: c :: rest =>
      let octal := ((c :: rest).take 3).takeWhile fun d ↦ '0' ≤ d && d ≤ '7'
      if octal.isEmpty then
        let replaced : Text :=
          match c with
          | 'a' => ['\x07'] | 'b' => ['\x08'] | 'e' | 'E' => ['\x1b'] | 'f' => ['\x0c']
          | 'n' => ['\n'] | 'r' => ['\r'] | 't' => ['\t'] | 'v' => ['\x0b']
          | '\\' => ['\\'] | '\'' => ['\''] | '"' => ['"'] | '?' => ['?']
          | c => ['\\', c]
        readEscaped rounds (replaced.reverse ++ done) rest
      else
        let code := Char.ofNat (Text.natOfDigits 8 octal % 256)
        readEscaped rounds (code :: done) ((c :: rest).drop octal.length)
    | c :: rest => readEscaped rounds (c :: done) rest

/-! ### Parameters -/

/-- What a letter after an at sign says to be done with a parameter. -/
def shownAs : Char → ParameterUse
  | 'U' => .recase .upper true
  | 'u' => .recase .upper false
  | 'L' => .recase .lower true
  | 'Q' => .shown .quoted
  | 'E' => .shown .unescaped
  | 'P' => .shown .prompt
  | 'A' => .shown .assignment
  | 'a' => .shown .letters
  | 'K' => .shown .entries
  | 'k' => .shown .pairs
  | _ => .shown .unknown

/-- Reads what braces say to be done with a parameter, after its name, up to the closing brace. -/
def readUse (inner : Inner) (quoted : Bool) (build : ParameterUse → List Word → Part) :
    Reading Part := do
  let finish (use : ParameterUse) (surrounding : Surrounding) (rest : Text) : Reading Part := do
    goTo rest
    return build use [← inner.parts surrounding]
  let same := Surrounding.braces quoted
  match ← ahead with
  | '}' :: rest => goTo rest; return build .value []
  | ':' :: '}' :: rest =>
    if ← isExtended then finish .malformed same (':' :: '}' :: rest)
    else
      goTo rest
      failAtEnd "Syntax error: Missing '\x7d'"
  | ':' :: '-' :: rest => finish (.default true) same rest
  | '-' :: rest => finish (.default false) same rest
  | ':' :: '=' :: rest => finish (.assign true) same rest
  | '=' :: rest => finish (.assign false) same rest
  | ':' :: '+' :: rest => finish (.alternative true) same rest
  | '+' :: rest => finish (.alternative false) same rest
  | ':' :: '?' :: rest => finish (.require true) same rest
  | '?' :: rest => finish (.require false) same rest
  | '#' :: '#' :: rest => finish (.trimStart true) (.braces false) rest
  | '#' :: rest => finish (.trimStart false) (.braces false) rest
  | '%' :: '%' :: rest => finish (.trimEnd true) (.braces false) rest
  | '%' :: rest => finish (.trimEnd false) (.braces false) rest
  | text =>
    if ← isExtended then
      match text with
      | ':' :: rest => finish .slice same rest
      | '^' :: '^' :: rest => finish (.recase .upper true) (.braces false) rest
      | '^' :: rest => finish (.recase .upper false) (.braces false) rest
      | ',' :: ',' :: rest => finish (.recase .lower true) (.braces false) rest
      | ',' :: rest => finish (.recase .lower false) (.braces false) rest
      | '~' :: '~' :: rest => finish (.recase .swapped true) (.braces false) rest
      | '~' :: rest => finish (.recase .swapped false) (.braces false) rest
      | '@' :: '}' :: rest => goTo ('}' :: rest); return build (.shown .unknown) [← inner.parts same]
      | '@' :: c :: '}' :: rest => goTo ('}' :: rest); return build (shownAs c) [← inner.parts same]
      | '/' :: rest =>
        let (all, rest) :=
          match rest with
          | '/' :: rest => (true, rest)
          | rest => (false, rest)
        -- a slash right at the start belongs to the pattern
        let (start, rest) :=
          match rest with
          | '/' :: rest => ([Part.literal false ['/']], rest)
          | rest => ([], rest)
        goTo rest
        let pattern := start ++ (← inner.parts (.pattern false))
        -- a pattern ends before a slash or after the closing brace
        match ← Reading.rest with
        | '/' :: rest =>
          goTo rest
          return build (.replace all) [pattern, ← inner.parts same]
        | _ => return build (.replace all) [pattern, []]
      | text => finish .malformed same text
    else finish .malformed same text

/-- Reads an index, if the dialect has items. -/
def readItem (inner : Inner) : Reading (Option Word) := do
  if ← isExtended then
    match ← rest with
    | '[' :: rest =>
      goTo rest
      return some (← inner.parts .index)
    | _ => return none
  else return none

/-- The name of the parameter that names another one, after an exclamation mark. -/
def indirectName? (c : Char) (rest : Text) : Option Text :=
  if beginsName c then some ((c :: rest).takeWhile isNameChar)
  else if c.isDigit then some ((c :: rest).takeWhile Char.isDigit)
  else if "#@*?".toList.contains c ∧ (rest.head? = some '}' ∨ rest.head? = some ':') then some [c]
  else none

/-- Reads a parameter after a dollar and an opening brace. -/
def readBraced (inner : Inner) (quoted : Bool) : Reading Part := do
  let extended ← isExtended
  match ← ahead with
  | '#' :: c :: rest =>
    -- the length of a parameter, unless the sign is itself the parameter
    if isNameChar c then
      let name := (c :: rest).takeWhile isNameChar
      let name := if c.isDigit then name.takeWhile Char.isDigit else name
      goTo ((c :: rest).drop name.length)
      let index ← readItem inner
      match ← ahead with
      | '}' :: rest => goTo rest; return .parameter quoted name index .length []
      | _ => return .parameter quoted name none .malformed [← inner.parts (.braces quoted)]
    else
      match rest with
      | '}' :: rest =>
        if c = '}' then
          goTo ('}' :: rest)
          return .parameter quoted ['#'] none .value []
        else if isSpecial c then
          goTo rest
          return .parameter quoted [c] none .length []
        else
          goTo ('}' :: rest)
          return .parameter quoted ['#'] none .malformed [← inner.parts (.braces quoted)]
      | _ =>
        goTo (c :: rest)
        readUse inner quoted (.parameter quoted ['#'] none)
  | '!' :: c :: rest =>
    let name? := if extended then indirectName? c rest else none
    match name? with
    | some name =>
      goTo ((c :: rest).drop name.length)
      let index ← if beginsName c then readItem inner else pure none
      let isWhole : Bool :=
        match index with
        | some [.literal _ index] => index = ['@'] || index = ['*']
        | _ => false
      match ← Reading.rest with
      | '}' :: rest =>
        goTo rest
        return .parameter quoted name index (if isWhole then .keys else .indirect .value) []
      | '@' :: '}' :: rest =>
        goTo rest
        return .parameter quoted name (some [.literal true ['@']]) .names []
      | '*' :: '}' :: rest =>
        goTo rest
        return .parameter quoted name (some [.literal true ['*']]) .names []
      | _ =>
        readUse inner quoted fun use words ↦
          let use := match use with
            | .malformed => .malformed
            | use => .indirect use
          .parameter quoted name index use words
    | none =>
      goTo (c :: rest)
      readUse inner quoted (.parameter quoted ['!'] none)
  | c :: rest =>
    if beginsName c then
      let name := (c :: rest).takeWhile isNameChar
      goTo ((c :: rest).drop name.length)
      let index ← readItem inner
      readUse inner quoted (.parameter quoted name index)
    else if c.isDigit then
      let name := (c :: rest).takeWhile Char.isDigit
      goTo ((c :: rest).drop name.length)
      readUse inner quoted (.parameter quoted name none)
    else if isSpecial c then
      goTo rest
      readUse inner quoted (.parameter quoted [c] none)
    else return .parameter quoted [] none .malformed [← inner.parts (.braces quoted)]
  | [] => failAtEnd "Syntax error: Missing '\x7d'"

/-- Reads commands up to a closing bracket. -/
def readSubstitution (inner : Inner) (quoted : Bool) : Reading Part := do
  -- what was awaited before has to come after the command
  let awaited := (← get).awaited
  modify fun source ↦ { source with awaited := [] }
  let body ← inner.commands
  let token := ((← get).kept).getD .ending
  match token with
  | .operator ")" =>
    modify fun source ↦ { source with kept := none, awaited := awaited ++ source.awaited }
    return .substitution quoted body
  | .ending =>
    if ← isExtended then
      throw { line := (← get).line, message := [], atEnd := true, unclosed := some ')' }
    else refuse .ending (some "\")\"")
  | token => refuse token (some "\")\"")

/-- Reads what follows a dollar. A dollar before anything else stands for itself. -/
def readDollar (inner : Inner) (surrounding : Surrounding) (pieces : Pieces) : Reading Pieces := do
  let quoted := surrounding.isQuoted
  match ← ahead with
  | '(' :: rest =>
    goTo rest
    match ← ahead with
    | '(' :: rest =>
      goTo rest
      return pieces.push (.arithmetic quoted (← enclosed ')' (inner.parts .expression)))
    | _ => return pieces.push (← readSubstitution inner quoted)
  | '\x7b' :: rest =>
    goTo rest
    let part ← enclosed '\x7d' (readBraced inner quoted)
    -- what has no meaning is kept as it is written
    let after ← Reading.rest
    let written : Text := "$\x7b" ++ rest.take (rest.length - after.length)
    match part with
    | .parameter quoted _ index .malformed words =>
      return pieces.push (.parameter quoted written index .malformed words)
    | .parameter quoted name index (.shown .unknown) _ =>
      return pieces.push
        (.parameter quoted name index (.shown .unknown) [[.literal true written]])
    | part => return pieces.push part
  | '[' :: rest =>
    if ← isExtended then
      goTo rest
      return pieces.push (.arithmetic quoted (← enclosed ']' (inner.parts .squares)))
    else return pieces.pushText quoted ['$']
  | c :: rest =>
    if beginsName c then
      let name := (c :: rest).takeWhile isNameChar
      goTo ((c :: rest).drop name.length)
      return pieces.push (.parameter quoted name none .value [])
    else if isSpecial c then
      goTo rest
      return pieces.push (.parameter quoted [c] none .value [])
    else if c = '\'' ∧ (surrounding = .word ∨ surrounding = .braces false) ∧ (← isExtended) then
      match readEscaped endless [] rest with
      | some (text, rest) =>
        goTo rest
        return pieces.push (.literal true text)
      | none => enclosed '\'' (failAtEnd "Syntax error: Unterminated quoted string")
    else if c = '"' ∧ surrounding = .word ∧ (← isExtended) then return pieces
    else return pieces.pushText quoted ['$']
  | [] => return pieces.pushText quoted ['$']

/-- The text up to a backtick, with the backslashes left out that take a meaning away. -/
def untilBacktick (quoted : Bool) : Nat → Text → Text → Option (Text × Text)
  | 0, _, _ => none
  | rounds + 1, done, text =>
    match text with
    | [] => none
    | '`' :: rest => some (done.reverse, rest)
    | '\\' :: '\n' :: rest => untilBacktick quoted rounds done rest
    | '\\' :: c :: rest =>
      if c = '\\' ∨ c = '`' ∨ c = '$' ∨ quoted ∧ c = '"' then
        untilBacktick quoted rounds (c :: done) rest
      else untilBacktick quoted rounds (c :: '\\' :: done) rest
    | c :: rest => untilBacktick quoted rounds (c :: done) rest

/-- Reads commands between backticks. -/
def readBackticks (inner : Inner) (quoted : Bool) (text : Text) : Reading Part := do
  match untilBacktick quoted endless [] text with
  | none =>
    enclosed '\x60' do
      goPast text []
      failAtEnd "Syntax error: EOF in backquote substitution"
  | some (inside, after) =>
    let source ← get
    set { source with rest := inside, line := 1, awaited := [] }
    let body ← inner.commands
    let lines := (text.take (text.length - after.length)).count '\n'
    modify fun s ↦
      { s with rest := after, line := source.line + lines, kept := none, awaited := source.awaited }
    return .substitution quoted body

/-! ### Words -/

/-- Whether the text at the start of a line is the last line of an input, and what follows it. -/
def afterLast? (last : Text) (trims : Bool) (text : Text) : Option Text :=
  let text := if trims then text.dropWhile (· = '\t') else text
  let line := text.takeWhile (· ≠ '\n')
  if line = last ∧ ¬ (line.isEmpty ∧ text.isEmpty) then some (text.drop (line.length + 1)) else none

/-- Whether a part stands for all of several texts, of which there may be none. -/
def isAll : Part → Bool
  | .parameter _ _ (some [.literal _ ['@']]) use _ => keepsCount use
  | .parameter _ ['@'] none use _ => use ≠ .value && keepsCount use
  | _ => false
where
  /-- Whether there are as many texts afterwards, or fewer. -/
  keepsCount : ParameterUse → Bool
    | .value | .replace _ | .slice | .recase .. | .names | .keys | .shown _ => true
    | .trimStart _ | .trimEnd _ => true
    | _ => false

/-- Reads a part that begins with a double quote in a word. -/
def readQuotes (inner : Inner) (pieces : Pieces) (rest : Text) : Reading Pieces := do
  -- what stands for all arguments is no word at all when there are none
  match rest with
  | '$' :: '@' :: '"' :: rest =>
    goTo rest
    return pieces.push (.parameter true ['@'] none .value [])
  | '$' :: '\x7b' :: '@' :: '\x7d' :: '"' :: rest =>
    goTo rest
    return pieces.push (.parameter true ['@'] none .value [])
  | rest =>
    goTo rest
    let parts ← enclosed '"' (inner.parts .quotes)
    match if parts.all isAll then parts else [] with
    | [part] => return pieces.push part
    | _ =>
      let pieces := pieces.push (.literal true [])
      return { pieces with parts := parts.reverse ++ pieces.parts }

/-- Reads a character after a backslash. -/
def readBackslash (surrounding : Surrounding) (pieces : Pieces) (rest : Text) :
    Reading Pieces := do
  match rest with
  | [] =>
    goTo []
    return pieces.pushText true ['\\']
  | c :: rest =>
    goPast [c] rest
    let escapes :=
      match surrounding with
      | .word | .lastLine | .braces false | .pattern false | .index | .regex | .group => true
      | .quotes | .expression | .squares => "\\`$\"".toList.contains c
      | .braces true | .pattern true => "\\`$\"\x7d".toList.contains c
      | .lines .. => "\\`$".toList.contains c
    return pieces.pushText true (if escapes then [c] else ['\\', c])

/-- Whether a word in braces is ended by a character, within a number of open double quotes. -/
def endsBraces (surrounding : Surrounding) (c : Char) (open_ : Nat) : Bool :=
  match surrounding with
  | .braces _ => c = '\x7d' && open_ = 0
  | .pattern _ => (c = '\x7d' || c = '/') && open_ = 0
  | _ => false

/-- Reads the parts of a word. The number counts open brackets in an expression and open double
quotes between braces. -/
def readParts (inner : Inner) (surrounding : Surrounding) :
    Nat → Pieces → Nat → Reading Word
  | 0, _, _ => fail "Syntax error"
  | rounds + 1, pieces, depth => do
    let quoted := surrounding.isQuoted
    let text ← rest
    let plain := text.takeWhile (!surrounding.isActive ·)
    match text.drop plain.length with
    | [] =>
      goTo []
      let pieces := pieces.pushText quoted plain
      match surrounding with
      | .word | .lastLine | .regex => return pieces.toWord
      | .lines last _ =>
        noteUnended last
        return pieces.toWord
      | .quotes => failAtEnd "Syntax error: Unterminated quoted string"
      | .expression | .squares | .index | .group => failAtEnd "Syntax error: Missing '))'"
      | .braces quoted | .pattern quoted =>
        failAtEnd (if quoted then "Syntax error: Unterminated quoted string"
          else "Syntax error: Missing '\x7d'")
    | c :: rest =>
      let pieces := if plain.isEmpty then pieces else pieces.pushText quoted plain
      let again := readParts inner surrounding rounds
      if c = '\\' then
        match rest with
        | '\n' :: rest => goToLine rest; again pieces depth
        | rest => again (← readBackslash surrounding pieces rest) depth
      else if c = '$' then
        goTo rest
        again (← readDollar inner surrounding pieces) depth
      else if c = '`' then
        again (pieces.push (← readBackticks inner quoted rest)) depth
      else if endsBraces surrounding c depth then
        match surrounding, c with
        | .pattern _, '/' => goTo ('/' :: rest)
        | _, _ => goTo rest
        return pieces.toWord
      else
        match surrounding, c with
        | .word, '\'' | .lastLine, '\'' | .braces false, '\'' | .pattern false, '\''
        | .index, '\'' | .regex, '\'' | .group, '\'' =>
          let inside := rest.takeWhile (· ≠ '\'')
          match rest.drop inside.length with
          | [] =>
            enclosed '\'' do
              goPast inside []
              failAtEnd "Syntax error: Unterminated quoted string"
          | _ :: rest =>
            goPast inside rest
            again (pieces.push (.literal true inside)) depth
        | .word, '"' | .braces false, '"' | .pattern false, '"' | .index, '"' | .regex, '"'
        | .group, '"' =>
          again (← readQuotes inner pieces rest) depth
        | .lastLine, '"' =>
          goTo rest
          let parts ← enclosed '"' (inner.parts .quotes)
          let pieces := pieces.push (.literal true [])
          again { pieces with parts := parts.reverse ++ pieces.parts } depth
        | .quotes, '"' =>
          goTo rest
          return pieces.toWord
        | .braces true, '"' | .pattern true, '"' =>
          goTo rest
          again pieces (1 - depth)
        | .expression, '"' | .squares, '"' =>
          goTo rest
          again (if ← isExtended then pieces else pieces.pushText true ['"']) depth
        | .expression, '(' =>
          goTo rest
          again (pieces.pushText true ['(']) (depth + 1)
        | .expression, ')' =>
          goTo rest
          if depth ≠ 0 then again (pieces.pushText true [')']) (depth - 1)
          else
            match ← ahead with
            | ')' :: rest =>
              goTo rest
              return pieces.toWord
            | _ => again (pieces.pushText true [')']) depth
        | .squares, '[' | .index, '[' =>
          goTo rest
          again (pieces.pushText quoted ['[']) (depth + 1)
        | .squares, ']' | .index, ']' =>
          goTo rest
          if depth = 0 then return pieces.toWord
          else again (pieces.pushText quoted [']']) (depth - 1)
        | .group, '(' =>
          goTo rest
          again (pieces.pushText false ['(']) (depth + 1)
        | .group, ')' =>
          goTo rest
          if depth = 0 then return pieces.toWord
          else again (pieces.pushText false [')']) (depth - 1)
        | .word, '(' =>
          if (← get).groups ∧ pieces.opensGroup then
            goTo rest
            let parts ← enclosed ')' (inner.parts .group)
            let pieces := pieces.pushText false ['(']
            let pieces : Pieces := ⟨parts.reverse ++ pieces.closed, [], false⟩
            again (pieces.pushText false [')']) depth
          else
            goTo (c :: rest)
            return pieces.toWord
        | .regex, '(' =>
          goTo rest
          again (pieces.pushText false ['(']) (depth + 1)
        | .regex, ')' =>
          if depth = 0 then
            goTo (c :: rest)
            return pieces.toWord
          else
            goTo rest
            again (pieces.pushText false [')']) (depth - 1)
        | .regex, c =>
          if depth = 0 then
            goTo (c :: rest)
            return pieces.toWord
          else
            goPast [c] rest
            again (pieces.pushText false [c]) depth
        | .lines last trims, '\n' =>
          let pieces := pieces.pushText true ['\n']
          match afterLast? last trims rest with
          | some rest =>
            goToLine rest
            modify fun source ↦ { source with line := source.line + 1 }
            return pieces.toWord
          | none =>
            goToLine (if trims then rest.dropWhile (· = '\t') else rest)
            again pieces depth
        | .word, '<' | .word, '>' =>
          match rest, ← isExtended with
          | '(' :: after, true =>
            goTo after
            match ← readSubstitution inner false with
            | .substitution _ body => again (pieces.push (.processPath (c = '>') body)) depth
            | part => again (pieces.push part) depth
          | _, _ =>
            goTo (c :: rest)
            return pieces.toWord
        | .word, _ | .lastLine, _ => goTo (c :: rest); return pieces.toWord
        | _, '\n' =>
          goToLine rest
          again (pieces.pushText quoted ['\n']) depth
        | _, c =>
          goTo rest
          again (pieces.pushText quoted [c]) depth

/-! ### The inputs of commands -/

/-- Reads lines up to the last one, just as they are. -/
def plainLines (last : Text) (trims : Bool) : Nat → List Text → Reading Word
  | 0, _ => fail "Syntax error"
  | rounds + 1, lines => do
    let text ← rest
    match afterLast? last trims text with
    | some rest =>
      goToLine rest
      return [.literal true lines.reverse.flatten]
    | none =>
      let text := if trims then text.dropWhile (· = '\t') else text
      let line := text.takeWhile (· ≠ '\n')
      match text.drop line.length with
      | [] =>
        goTo []
        noteUnended last
        return [.literal true (line :: lines).reverse.flatten]
      | _ :: rest =>
        goToLine rest
        plainLines last trims rounds ((line ++ ['\n']) :: lines)

/-- Reads the lines that are an input. -/
def readInput (inner : Inner) (awaited : Awaited) : Reading Word := do
  if awaited.quoted then plainLines awaited.last awaited.trims endless []
  else
    match afterLast? awaited.last awaited.trims (← rest) with
    | some rest =>
      goToLine rest
      return []
    | none =>
      if awaited.trims then goTo ((← rest).dropWhile (· = '\t'))
      inner.parts (.lines awaited.last awaited.trims)

/-- Reads the inputs that come with the next lines. -/
def readInputs (inner : Inner) : Nat → Reading Unit
  | 0 => return ()
  | rounds + 1 => do
    match (← get).awaited with
    | [] => return ()
    | awaited :: later =>
      modify fun source ↦ { source with awaited := later, inputLine := awaited.line }
      let word ← readInput inner awaited
      modify fun source ↦ { source with found := (awaited.number, word) :: source.found }
      readInputs inner rounds

/-! ### Tokens -/

/-- The words that the language reserves. -/
def reservedWords : List String :=
  ["!", "case", "do", "done", "elif", "else", "esac", "fi", "for", "if", "in", "then", "until",
    "while", "\x7b", "\x7d"]

/-- The words that the extended dialect reserves besides. -/
def extraReservedWords : List String := ["[[", "coproc", "function", "select", "time"]

/-- Reads the operator of a redirection. -/
def readRedirection (channel : Option Channel) : Reading Token := do
  let extended ← isExtended
  match ← ahead with
  | '>' :: rest =>
    goTo rest
    match ← ahead with
    | '>' :: rest => goTo rest; return .redirect channel ">>"
    | '|' :: rest => goTo rest; return .redirect channel ">|"
    | '&' :: rest => goTo rest; return .redirect channel ">&"
    | _ => return .redirect channel ">"
  | '<' :: rest =>
    goTo rest
    match ← ahead with
    | '<' :: rest =>
      goTo rest
      match ← ahead with
      | '-' :: rest => goTo rest; return .redirect channel "<<-"
      | '<' :: rest =>
        if extended then
          goTo rest
          return .redirect channel "<<<"
        else return .redirect channel "<<"
      | _ => return .redirect channel "<<"
    | '&' :: rest => goTo rest; return .redirect channel "<&"
    | '>' :: rest => goTo rest; return .redirect channel "<>"
    | _ => return .redirect channel "<"
  | _ => fail "Syntax error"

/-- Whether a part was quoted where it was written. -/
def isQuotedPart : Part → Bool
  | .literal quoted _ => quoted
  | .parameter quoted .. => quoted
  | .substitution quoted _ => quoted
  | .arithmetic quoted _ => quoted
  | .processPath .. | .compound _ => false

/-- The stream that a text names in front of the operator of a redirection, if it names one: by one
digit, or in the extended dialect by its number or by a parameter in braces. -/
def channel? (extended : Bool) (text : Text) : Option Channel :=
  match text with
  | [c] => if c.isDigit then some (.number (c.toNat - '0'.toNat)) else none
  | '\x7b' :: rest =>
    let name := rest.dropLast
    let own := name.takeWhile isNameChar
    let index := name.drop own.length
    let isIndexed : Bool := index.head? = some '[' && index.getLast? = some ']'
    if extended ∧ rest.getLast? = some '\x7d' ∧ isName own ∧ (index.isEmpty ∨ isIndexed) then
      some (.named name)
    else none
  | text => if extended then (Text.toNat? text).map .number else none

/-- Reads a word, or a redirection with a stream in front. -/
def readWord (inner : Inner) (surrounding : Surrounding) : Reading Token := do
  let word ← readParts inner surrounding endless {} 0
  let isDirected : Bool :=
    match ← rest with
    | '<' :: _ | '>' :: _ => true
    | _ => false
  if ¬ isDirected then return .word word (word.any isQuotedPart)
  if word.isEmpty then readRedirection none
  else
    match (plain? word).bind (channel? (← isExtended)) with
    | some channel => readRedirection (some channel)
    | none => return .word word (word.any isQuotedPart)

/-- Reads something that begins with some text, and notes how it is written. -/
def noting {α : Type} (read : Reading α) (text : Text) : Reading α := do
  let result ← read
  let left := (← rest).length
  modify fun source ↦ { source with latest := text.take (text.length - left) }
  return result

/-- Reads an operator or a word. -/
def readRaw (inner : Inner) (surrounding : Surrounding) : Nat → Reading Token
  | 0 => return .ending
  | rounds + 1 => do
    let either (c : Char) (long short : String) (rest : Text) : Reading Token := do
      goTo rest
      match ← ahead with
      | d :: rest =>
        if d = c then
          goTo rest
          return .operator long
        else return .operator short
      | [] => return .operator short
    let text ← ahead
    match text with
    | [] => return .ending
    | ' ' :: rest | '\t' :: rest =>
      goTo (rest.dropWhile fun c ↦ c = ' ' || c = '\t')
      readRaw inner surrounding rounds
    | '#' :: rest =>
      goTo (rest.dropWhile (· ≠ '\n'))
      readRaw inner surrounding rounds
    | '\n' :: rest => goToLine rest; return .newline
    | '&' :: '>' :: '>' :: rest =>
      if ← isExtended then
        goTo rest
        return .redirect none "&>>"
      else either '&' "&&" "&" ('>' :: '>' :: rest)
    | '&' :: '>' :: rest =>
      if ← isExtended then
        goTo rest
        return .redirect none "&>"
      else either '&' "&&" "&" ('>' :: rest)
    | '|' :: '&' :: rest =>
      if ← isExtended then
        goTo rest
        return .operator "|&"
      else
        goTo ('&' :: rest)
        return .operator "|"
    | '&' :: rest => either '&' "&&" "&" rest
    | '|' :: rest => either '|' "||" "|" rest
    | ';' :: ';' :: '&' :: rest =>
      if ← isExtended then
        goTo rest
        return .operator ";;&"
      else either ';' ";;" ";" (';' :: '&' :: rest)
    | ';' :: '&' :: rest =>
      if ← isExtended then
        goTo rest
        return .operator ";&"
      else either ';' ";;" ";" ('&' :: rest)
    | ';' :: rest => either ';' ";;" ";" rest
    | '(' :: rest => goTo rest; return .operator "("
    | ')' :: rest => goTo rest; return .operator ")"
    | text => noting (readWord inner surrounding) text

/-- What kind of token is looked for. -/
structure Sought where
  /-- Whether line ends are skipped. -/
  skipsLines : Bool := false
  /-- Whether reserved words count. -/
  reserved : Bool := false
  /-- Whether names that stand for other texts are replaced. -/
  aliases : Bool := false

/-- Where a command may begin, perhaps after line ends. -/
def Sought.command (skipsLines : Bool) : Sought := ⟨skipsLines, true, true⟩

/-- The text that a word stands for, unless the word is a part of that very text. -/
def alias? (source : Source) (word : Word) : Option (Text × Text) := do
  let name ← plain? word
  let text ← source.aliases.lookup name
  let inUse := source.replaced.any fun (n, left) ↦ n = name && left < source.rest.length
  if inUse then none else some (name, text)

/-- Reads a token of the kind that is sought. -/
def next (inner : Inner) (sought : Sought) : Nat → Reading Token
  | 0 => return .ending
  | rounds + 1 => do
    let kept := (← get).kept
    modify fun source ↦ { source with kept := none }
    let token ←
      match kept with
      | some token => pure token
      | none => readRaw inner .word endless
    match token with
    | .newline =>
      if sought.skipsLines then
        readInputs inner endless
        next inner sought rounds
      else return token
    | .word word false =>
      match plain? word with
      | none => return token
      | some text =>
        let name := String.ofList text
        let extra := extraReservedWords.contains name
        if sought.reserved ∧ (reservedWords.contains name ∨ (extra ∧ (← isExtended))) then
          return .reserved name
        else
          let source ← get
          match if sought.aliases then alias? source word else none with
          | none => return token
          | some (name, text) =>
            modify fun source ↦
              { source with
                rest := text ++ source.rest
                replaced := (name, source.rest.length) :: source.replaced }
            next inner sought rounds
    | token => return token

/-- Gives a token back, to be read again. -/
def keep (token : Token) : Reading Unit := modify fun source ↦ { source with kept := some token }

/-- Reads a token. -/
def token (inner : Inner) (sought : Sought) : Reading Token := next inner sought endless

end Lexicon

end AlignmentTally.Shell
