import AlignmentTally.Command.Rules.Token

/-!
# Reading rules

The grammar of rules. Operators bind, from the loosest to the tightest: choice, `||`, `&&`, `in`,
matching, comparison, concatenation, sums, products, signs and `!`, powers, steps, fields.
-/

namespace AlignmentTally.Command.Rules

open Machine

/-- How far a program was read. -/
structure Reading where
  /-- What is left. -/
  rest : Text
  /-- The number of the line. -/
  line : Nat := 1
  /-- The names of the parameters of the function that is being read. -/
  parameters : Option (List Text) := none
  /-- The number of loops around. -/
  loops : Nat := 0

/-- Reads or complains. -/
abbrev Read := StateT Reading (Except Text)

/-- What an expression may not contain because of what surrounds it. -/
structure Surrounding where
  /-- No comparison with `>`. -/
  noGreater : Bool := false
  /-- No `in`. -/
  noIn : Bool := false

namespace Read

/-- Complains. -/
def refuse {α : Type} (words : Text) : Read α := do
  throw ("line " ++ Text.ofNat (← get).line ++ ": ".toList ++ words)

/-- The next token and what follows it. -/
def look : Read (Token × Text) := do
  match Token.read (← get).rest with
  | .ok found => return found
  | .error words => refuse words

/-- The next token. -/
def peek : Read Token := return (← look).1

/-- Takes the next token. -/
def take : Read Token := do
  let (token, rest) ← look
  modify fun reading ↦
    let used := reading.rest.take (reading.rest.length - rest.length)
    { reading with rest, line := reading.line + used.count '\n' }
  return token

/-- Complains about the next token. -/
def unexpected {α : Type} : Read α := do
  let token ← take
  match token with
  | .newline => modify fun reading ↦ { reading with line := reading.line - 1 }
  | _ => pure ()
  refuse ("syntax error at or near " ++ token.shown)

/-- Whether a token is a sign. -/
def isSign (token : Token) (sign : String) : Bool :=
  match token with
  | .sign found => found = sign
  | _ => false

/-- Whether a token is a word. -/
def isWord (token : Token) (name : String) : Bool :=
  match token with
  | .word found _ => found = name.toList
  | _ => false

/-- Takes a sign if it comes next. -/
def accept (sign : String) : Read Bool := do
  if isSign (← peek) sign then
    let _ ← take
    return true
  else return false

/-- Takes a sign, which has to come next. -/
def expect (sign : String) : Read Unit := do
  if ¬ (← accept sign) then unexpected

/-- Takes a word if it comes next. -/
def acceptWord (name : String) : Read Bool := do
  if isWord (← peek) name then
    let _ ← take
    return true
  else return false

/-- Skips line ends. -/
def skipLines : Nat → Read Unit
  | 0 => return ()
  | rounds + 1 => do
    match ← peek with
    | .newline =>
      let _ ← take
      skipLines rounds
    | _ => return ()

/-- Skips line ends and semicolons. -/
def skipEnds : Nat → Read Unit
  | 0 => return ()
  | rounds + 1 => do
    let token ← peek
    match token with
    | .newline =>
      let _ ← take
      skipEnds rounds
    | token =>
      if isSign token ";" then
        let _ ← take
        skipEnds rounds
      else return ()

end Read

open Read

/-- The words of the language that are no functions. -/
def keywords : List String :=
  ["BEGIN", "END", "function", "func", "if", "else", "while", "for", "do", "break", "continue",
    "next", "nextfile", "exit", "return", "delete", "in", "getline", "print", "printf"]

/-- The functions of the language. -/
def builtins : List String :=
  ["length", "substr", "index", "split", "sub", "gsub", "match", "sprintf", "sin", "cos", "atan2",
    "exp", "log", "sqrt", "int", "rand", "srand", "tolower", "toupper", "system", "close", "fflush",
    "systime"]

/-- The operator that sets a value, if a token is one. -/
def assignment? : Token → Option (Option Operator)
  | .sign "=" => some none
  | .sign "+=" => some (some .add)
  | .sign "-=" => some (some .subtract)
  | .sign "*=" => some (some .multiply)
  | .sign "/=" => some (some .divide)
  | .sign "%=" => some (some .remainder)
  | .sign "^=" => some (some .power)
  | _ => none

/-- The comparison that a token is. -/
def comparison? (around : Surrounding) : Token → Option Operator
  | .sign "<" => some .less
  | .sign "<=" => some .atMost
  | .sign "==" => some .equal
  | .sign "!=" => some .unequal
  | .sign ">" => if around.noGreater then none else some .greater
  | .sign ">=" => some .atLeast
  | _ => none

/-- Whether a token begins an operand that can be put behind another one. -/
def beginsOperand (token : Token) : Bool :=
  match token with
  | .number _ | .quoted _ => true
  | .word name _ =>
    let name := String.ofList name
    !keywords.contains name
  | .sign sign => ["(", "$", "!", "++", "--", "-", "+"].contains sign && sign ≠ "-" && sign ≠ "+"
  | _ => false

/-- Whether an expression is a place for a value. -/
def isPlace : Expr → Bool
  | .name _ | .field _ | .element .. => true
  | _ => false

/-- Reads a closing parenthesis. -/
def readClose : Read Unit := do
  match ← peek with
  | .sign ")" =>
    let _ ← take
    return ()
  | token => refuse ("missing ) near " ++ token.shown)

/-- Whether a name is a parameter of the function that is being read. -/
def isParameter (name : String) : Read Bool :=
  return (← get).parameters.any (·.contains name.toList)

/-- Reads a regular expression between slashes. -/
def readSlashed : Read Expr := do
  let reading ← get
  let text := Token.skipBlanks reading.rest.length reading.rest
  match Token.untilSlash text.length (text.drop 1) [] with
  | some (inside, rest) =>
    set { reading with rest }
    match readRegex inside with
    | .ok regex => return .regex regex
    | .error words => refuse words
  | none => refuse ("runaway regular expression /" ++ (text.drop 1).take 10 ++ " ...".toList)

mutual

/-- Reads an expression. -/
def readExpr (around : Surrounding) : Nat → Read Expr
  | 0 => unexpected
  | depth + 1 => do
    let condition ← readEither around depth
    if ← accept "?" then
      skipLines depth
      let first ← readExpr around depth
      skipLines depth
      expect ":"
      skipLines depth
      let second ← readExpr around depth
      return .choice condition first second
    else return condition

/-- Reads alternatives. -/
def readEither (around : Surrounding) : Nat → Read Expr
  | 0 => unexpected
  | depth + 1 => do
    let first ← readBoth around depth
    readEitherMore around depth first

/-- Reads further alternatives. -/
def readEitherMore (around : Surrounding) : Nat → Expr → Read Expr
  | 0, first => return first
  | depth + 1, first => do
    if ← accept "||" then
      skipLines depth
      let second ← readBoth around depth
      readEitherMore around depth (.either first second)
    else return first

/-- Reads values of which all have to be true. -/
def readBoth (around : Surrounding) : Nat → Read Expr
  | 0 => unexpected
  | depth + 1 => do
    let first ← readIn around depth
    readBothMore around depth first

/-- Reads further values of which all have to be true. -/
def readBothMore (around : Surrounding) : Nat → Expr → Read Expr
  | 0, first => return first
  | depth + 1, first => do
    if ← accept "&&" then
      skipLines depth
      let second ← readIn around depth
      readBothMore around depth (.both first second)
    else return first

/-- Reads a question for an element. -/
def readIn (around : Surrounding) : Nat → Read Expr
  | 0 => unexpected
  | depth + 1 => do
    let first ← readMatch around depth
    readInMore around depth first

/-- Reads further questions for elements. -/
def readInMore (around : Surrounding) : Nat → Expr → Read Expr
  | 0, first => return first
  | depth + 1, first => do
    if ¬ around.noIn ∧ isWord (← peek) "in" then
      let _ ← take
      match ← take with
      | .word array _ =>
        let keys := match first with
          | .list keys => keys
          | key => [key]
        readInMore around depth (.isIn keys array)
      | _ => unexpected
    else return first

/-- Reads a comparison with an expression. -/
def readMatch (around : Surrounding) : Nat → Read Expr
  | 0 => unexpected
  | depth + 1 => do
    let first ← readComparison around depth
    readMatchMore around depth first

/-- Reads further comparisons with expressions. -/
def readMatchMore (around : Surrounding) : Nat → Expr → Read Expr
  | 0, first => return first
  | depth + 1, first => do
    let token ← peek
    if isSign token "~" ∨ isSign token "!~" then
      let _ ← take
      let second ← readComparison around depth
      readMatchMore around depth (.fits (isSign token "~") first second)
    else return first

/-- Reads a comparison. -/
def readComparison (around : Surrounding) : Nat → Read Expr
  | 0 => unexpected
  | depth + 1 => do
    let first ← readConcat around depth
    match comparison? around (← peek) with
    | some operator =>
      let _ ← take
      let second ← readConcat around depth
      return .two operator first second
    | none => return first

/-- Reads texts one after another, and lines from commands. -/
def readConcat (around : Surrounding) : Nat → Read Expr
  | 0 => unexpected
  | depth + 1 => do
    let first ← readSum depth
    readConcatMore around depth first

/-- Reads further texts. -/
def readConcatMore (around : Surrounding) : Nat → Expr → Read Expr
  | 0, first => return first
  | depth + 1, first => do
    let token ← peek
    if isSign token "|" then
      let before ← get
      let _ ← take
      if ← acceptWord "getline" then
        let target ← readTarget? depth
        readConcatMore around depth (.readLine .command (some first) target)
      else
        set before
        return first
    else if beginsOperand token then
      let second ← readSum depth
      readConcatMore around depth (.two .concat first second)
    else return first

/-- Reads a sum. -/
def readSum : Nat → Read Expr
  | 0 => unexpected
  | depth + 1 => do
    let first ← readProduct depth
    readSumMore depth first

/-- Reads further terms. -/
def readSumMore : Nat → Expr → Read Expr
  | 0, first => return first
  | depth + 1, first => do
    let token ← peek
    if isSign token "+" ∨ isSign token "-" then
      let _ ← take
      let second ← readProduct depth
      readSumMore depth (.two (if isSign token "+" then .add else .subtract) first second)
    else return first

/-- Reads a product. -/
def readProduct : Nat → Read Expr
  | 0 => unexpected
  | depth + 1 => do
    let first ← readSigned depth
    readProductMore depth first

/-- Reads further factors. -/
def readProductMore : Nat → Expr → Read Expr
  | 0, first => return first
  | depth + 1, first => do
    let operator? : Option Operator :=
      match ← peek with
      | .sign "*" => some .multiply
      | .sign "/" => some .divide
      | .sign "%" => some .remainder
      | _ => none
    match operator? with
    | some operator =>
      let _ ← take
      let second ← readSigned depth
      readProductMore depth (.two operator first second)
    | none => return first

/-- Reads a value with signs. -/
def readSigned : Nat → Read Expr
  | 0 => unexpected
  | depth + 1 => do
    let operator? : Option Prefix :=
      match ← peek with
      | .sign "!" => some .not
      | .sign "-" => some .minus
      | .sign "+" => some .plus
      | _ => none
    match operator? with
    | some operator =>
      let _ ← take
      return .one operator (← readSigned depth)
    | none => readPower depth

/-- Reads a power. -/
def readPower : Nat → Read Expr
  | 0 => unexpected
  | depth + 1 => do
    let first ← readPlace depth
    if ← accept "^" then
      let second ← readExponent depth
      return .two .power first second
    else return first

/-- Reads an exponent, which may have a sign. -/
def readExponent : Nat → Read Expr
  | 0 => unexpected
  | depth + 1 => do
    if ← accept "-" then return .one .minus (← readExponent depth)
    else readPower depth

/-- Reads a value with what sets it. -/
def readPlace : Nat → Read Expr
  | 0 => unexpected
  | depth + 1 => do
    let first ← readPrimary depth
    if ¬ isPlace first then return first
    let token ← peek
    if isSign token "++" ∨ isSign token "--" then
      let _ ← take
      return .step false (isSign token "++") first
    match assignment? token with
    | some operator =>
      let _ ← take
      skipLines depth
      return .assign operator first (← readExpr {} depth)
    | none => return first

/-- Reads a place for a value, if there is one. -/
def readTarget? : Nat → Read (Option Expr)
  | 0 => return none
  | depth + 1 => do
    match ← peek with
    | .sign "$" => return some (← readPrimary depth)
    | .word name opens =>
      let name := String.ofList name
      if opens ∨ keywords.contains name ∨ builtins.contains name then return none
      else return some (← readPrimary depth)
    | _ => return none

/-- Reads expressions between commas. -/
def readList (around : Surrounding) : Nat → Read (List Expr)
  | 0 => return []
  | depth + 1 => do
    let first ← readExpr around depth
    if ← accept "," then
      skipLines depth
      return first :: (← readList around depth)
    else return [first]

/-- Reads a value that is no operation. -/
def readPrimary : Nat → Read Expr
  | 0 => unexpected
  | depth + 1 => do
    let token ← peek
    match token with
    | .number x =>
      let _ ← take
      return .number x
    | .quoted text =>
      let _ ← take
      return .text text
    | .sign "(" =>
      let _ ← take
      let values ← readList {} depth
      match ← peek with
      | .sign ")" =>
        let _ ← take
        return .list values
      | token => refuse ("missing ) near " ++ token.shown)
    | .sign "$" =>
      let _ ← take
      let number ←
        match ← peek with
        | .sign "-" => do
          let _ ← take
          pure (Expr.one .minus (← readPrimary depth))
        | .sign "++" | .sign "--" => readSigned depth
        | _ => readPrimary depth
      return .field number
    | .sign "++" =>
      let _ ← take
      return .step true true (← readPrimary depth)
    | .sign "--" =>
      let _ ← take
      return .step true false (← readPrimary depth)
    | .sign "/" => readSlashed
    | .sign "/=" => readSlashed
    | .sign "-" | .sign "+" | .sign "!" => readSigned depth
    | .word name opens => readWord depth (String.ofList name) opens
    | _ => unexpected

/-- Reads a value that begins with a word. -/
def readWord : Nat → String → Bool → Read Expr
  | 0, _, _ => unexpected
  | depth + 1, name, opens => do
    if name = "getline" then
      let _ ← take
      let target ← readTarget? depth
      if ← accept "<" then
        let path ← readPrimary depth
        return .readLine .file (some path) target
      else return .readLine .input none target
    else if keywords.contains name then unexpected
    else
      let _ ← take
      if builtins.contains name then
        if ← accept "(" then
          if ← accept ")" then return .builtin name []
          let arguments ← readList {} depth
          readClose
          return .builtin name arguments
        else if name = "length" then return .builtin name []
        else unexpected
      else if opens ∧ ¬ (← isParameter name) then
        expect "("
        if ← accept ")" then return .call name.toList []
        let arguments ← readList {} depth
        readClose
        return .call name.toList arguments
      else if ← accept "[" then
        let keys ← readList {} depth
        expect "]"
        return .element name.toList keys
      else return .name name.toList

end
/-! ### Statements -/

/-- Ends a statement. -/
def endStatement : Read Unit := do
  let token ← peek
  match token with
  | .newline =>
    let _ ← take
    return ()
  | .finish => return ()
  | token =>
    if isSign token ";" then
      let _ ← take
      return ()
    else if isSign token "\x7d" then return ()
    else unexpected

/-- Reads where output goes, if that is said. -/
def readOutput? (depth : Nat) : Read (Option (OutputKind × Expr)) := do
  let kind? : Option OutputKind :=
    match ← peek with
    | .sign ">" => some .file
    | .sign ">>" => some .append
    | .sign "|" => some .command
    | _ => none
  match kind? with
  | none => return none
  | some kind =>
    let _ ← take
    return some (kind, ← readExpr { noGreater := true } depth)

/-- Whether a token ends what is written. -/
def endsValues (token : Token) : Bool :=
  match token with
  | .newline | .finish => true
  | .sign sign => [";", "\x7d", ">", ">>", "|"].contains sign
  | _ => false

/-- Reads a statement that writes. -/
def readPrint (isFormatted : Bool) (depth : Nat) : Read Statement := do
  let values ←
    if endsValues (← peek) then pure []
    else readList { noGreater := true } depth
  let values := match values with
    | [.list values] => values
    | values => values
  if isFormatted ∧ values.isEmpty then unexpected
  let target ← readOutput? depth
  return .print isFormatted values target

/-- Reads a statement that has no others within it. -/
def readSimple (depth : Nat) : Read Statement := do
  let token ← peek
  let word := match token with
    | .word name _ => String.ofList name
    | _ => ""
  let value? : Read (Option Expr) := do
    let token ← peek
    if endsValues token then return none else return some (← readExpr {} depth)
  match word with
  | "print" =>
    let _ ← take
    readPrint false depth
  | "printf" =>
    let _ ← take
    readPrint true depth
  | "delete" =>
    let _ ← take
    match ← take with
    | .word array _ =>
      if ← accept "[" then
        let keys ← readList {} depth
        expect "]"
        return .delete array (some keys)
      else return .delete array none
    | _ => unexpected
  | "next" =>
    let _ ← take
    return .next
  | "nextfile" =>
    let _ ← take
    return .nextFile
  | "exit" =>
    let _ ← take
    return .exit (← value?)
  | "return" =>
    let _ ← take
    if (← get).parameters.isNone then refuse "return outside function body"
    return .return_ (← value?)
  | "break" =>
    let _ ← take
    if (← get).loops = 0 then refuse "break statement outside of loop"
    return .break_
  | "continue" =>
    let _ ← take
    if (← get).loops = 0 then refuse "continue statement outside of loop"
    return .continue_
  | _ => return .expr (← readExpr {} depth)

/-- Within a loop. -/
def withLoop {α : Type} (read : Read α) : Read α := do
  modify fun reading ↦ { reading with loops := reading.loops + 1 }
  let a ← read
  modify fun reading ↦ { reading with loops := reading.loops - 1 }
  return a

/-- The name and the array of a loop over keys, if that is what follows. -/
def readForIn? : Read (Option (Text × Text)) := do
  let before ← get
  match ← take, ← take, ← take, ← take with
  | .word name _, .word between _, .word array _, .sign ")" =>
    if between = "in".toList then return some (name, array)
    else
      set before
      return none
  | _, _, _, _ =>
    set before
    return none

mutual

/-- Reads a statement. -/
def readStatement : Nat → Read Statement
  | 0 => unexpected
  | depth + 1 => do
    let token ← peek
    let word := match token with
      | .word name _ => String.ofList name
      | .sign sign => sign
      | _ => ""
    match word with
    | "\x7b" =>
      let _ ← take
      let statements ← readStatements depth
      return .block statements
    | ";" =>
      let _ ← take
      return .block []
    | "if" =>
      let _ ← take
      expect "("
      let condition ← readExpr {} depth
      readClose
      skipLines depth
      let first ← readStatement depth
      let before ← get
      skipEnds depth
      if ← acceptWord "else" then
        skipLines depth
        return .if_ condition first (some (← readStatement depth))
      else
        set before
        return .if_ condition first none
    | "while" =>
      let _ ← take
      expect "("
      let condition ← readExpr {} depth
      readClose
      if ← accept ";" then return .while_ condition (.block [])
      skipLines depth
      return .while_ condition (← withLoop (readStatement depth))
    | "do" =>
      let _ ← take
      skipLines depth
      let body ← withLoop (readStatement depth)
      skipEnds depth
      if ¬ (← acceptWord "while") then unexpected
      expect "("
      let condition ← readExpr {} depth
      readClose
      endStatement
      return .repeat_ body condition
    | "for" =>
      let _ ← take
      expect "("
      match ← readForIn? with
      | some (name, array) =>
        skipLines depth
        return .forIn name array (← withLoop (readStatement depth))
      | none =>
        let start ← readPart ";" depth
        let condition ←
          if ← accept ";" then pure none
          else do
            let condition ← readExpr {} depth
            expect ";"
            pure (some condition)
        skipLines depth
        let step ← readPart ")" depth
        if ← accept ";" then return .for_ start condition step (.block [])
        skipLines depth
        return .for_ start condition step (← withLoop (readStatement depth))
    | _ =>
      let statement ← readSimple depth
      endStatement
      return statement

/-- Reads a part of a loop's head up to a sign. -/
def readPart (sign : String) : Nat → Read (Option Statement)
  | 0 => unexpected
  | depth + 1 => do
    if ← accept sign then return none
    let statement ← readSimple depth
    expect sign
    skipLines depth
    return some statement

/-- Reads statements up to a closing brace. -/
def readStatements : Nat → Read (List Statement)
  | 0 => unexpected
  | depth + 1 => do
    skipLines depth
    match ← peek with
    | .sign "\x7d" =>
      let _ ← take
      return []
    | .finish =>
      modify fun reading ↦ { reading with line := reading.line + 1 }
      refuse "missing \x7d near end of file"
    | _ =>
      let first ← readStatement depth
      return first :: (← readStatements depth)

end

/-! ### Programs -/

/-- Reads the names of parameters. -/
def readParameters : Nat → Read (List Text)
  | 0 => unexpected
  | depth + 1 => do
    skipLines depth
    match ← take with
    | .word name _ =>
      if ← accept "," then return name :: (← readParameters depth)
      expect ")"
      return [name]
    | _ => unexpected

/-- Whether statements go on with the next record. -/
def goesOn : Nat → Statement → Option String
  | 0, _ => none
  | depth + 1, statement =>
    match statement with
    | .next => some "next"
    | .nextFile => some "nextfile"
    | .block statements => statements.findSome? (goesOn depth)
    | .if_ _ first second => (goesOn depth first).or (second.bind (goesOn depth))
    | .while_ _ body | .repeat_ body _ | .for_ _ _ _ body | .forIn _ _ body => goesOn depth body
    | _ => none

/-- Reads an action in braces. -/
def readAction (depth : Nat) : Read Statement := do
  expect "\x7b"
  return .block (← readStatements depth)

/-- Reads a rule or a function and puts it behind those of a program. -/
def readItem (depth : Nat) (program : Program) : Read Program := do
  let token ← peek
  let word := match token with
    | .word name _ => String.ofList name
    | _ => ""
  let withRule (pattern : Pattern) (action : Statement) : Read Program := do
    match pattern with
    | .beginning | .ending =>
      match goesOn depth action with
      | some word => refuse ("improper use of " ++ word.toList)
      | none => pure ()
    | _ => pure ()
    return { program with rules := program.rules ++ [⟨pattern, action⟩] }
  match word with
  | "BEGIN" =>
    let _ ← take
    let action ← readAction depth
    withRule .beginning action
  | "END" =>
    let _ ← take
    let action ← readAction depth
    withRule .ending action
  | "function" | "func" =>
    let _ ← take
    match ← take with
    | .word name _ =>
      expect "("
      let parameters ← if ← accept ")" then pure [] else readParameters depth
      skipLines depth
      modify ({ · with parameters := some parameters, loops := 0 })
      let body ← readAction depth
      modify ({ · with parameters := none })
      return { program with functions := program.functions ++ [(name, ⟨parameters, body⟩)] }
    | _ => unexpected
  | _ =>
    if isSign token "\x7b" then
      let action ← readAction depth
      withRule .always action
    else
      let first ← readExpr {} depth
      let pattern ←
        if ← accept "," then do
          skipLines depth
          pure (Pattern.range first (← readExpr {} depth))
        else pure (Pattern.where_ first)
      let token ← peek
      if isSign token "\x7b" then
        let action ← readAction depth
        withRule pattern action
      else withRule pattern (.print false [] none)

/-- Reads rules and functions to the end. -/
def readItems : Nat → Program → Read Program
  | 0, program => return program
  | depth + 1, program => do
    skipLines depth
    match ← peek with
    | .finish => return program
    | _ =>
      let program ← readItem depth program
      match ← peek with
      | .finish => return program
      | .newline => readItems depth program
      | token =>
        if isSign token ";" then
          let _ ← take
          readItems depth program
        else readItems depth program

/-- The program that a text writes. -/
def readProgram (text : Text) : Except Text Program := do
  let (program, _) ← (readItems (20 * text.length + 400) {}).run { rest := text }
  return program

end AlignmentTally.Command.Rules
