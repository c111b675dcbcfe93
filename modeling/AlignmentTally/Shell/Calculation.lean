import AlignmentTally.Shell.Arithmetic

/-!
# Arithmetic in the extended dialect

Expressions with powers, increments, commas, numbers in a base of their own and items of parameters.
The text of a parameter is an expression again. A fault names the expression it was found in, and
the text from the place where reading had come to.
-/

namespace AlignmentTally.Shell.Calculation

open Machine
open Arithmetic (wrap ofBool isBlank level? combine divides)

/-- Why an expression has no value. -/
inductive Fault where
  /-- An expression is not one, in words, with what is left of it. -/
  | refused (expression words left : Text)
  /-- A parameter has no value, where one is asked for. -/
  | unset (name : Text)

/-- A parameter, or the item of one under a key. -/
structure Target where
  /-- The name of the parameter. -/
  name : Text
  /-- The key of the item. -/
  key : Option Text := none
  deriving DecidableEq, Repr, Inhabited

/-- A number, a parameter with the index that is written after it, or an operator. -/
inductive Token where
  /-- A number. -/
  | number (value : Int)
  /-- A parameter. -/
  | name (text : Text) (index : Option Text)
  /-- An operator that gives a value. -/
  | operator (text : String)
  /-- An operator that assigns, without its equals sign. -/
  | assignment (operator : String)
  /-- A step up or down, before or after a parameter. -/
  | step (isBefore : Bool) (amount : Int)
  /-- The end of the expression. -/
  | ending
  deriving DecidableEq, Repr, Inhabited

/-- The parameters that an expression sees. -/
structure Scope where
  /-- The text of a parameter or of an item. -/
  text? : Target → Option Text
  /-- Whether the items of a parameter have keys that are no numbers. -/
  isTable : Text → Bool
  /-- One more than the greatest number of an item of a parameter. -/
  size : Text → Nat
  /-- Whether a parameter without a value is a fault. -/
  strict : Bool

/-- An expression that is being read. -/
structure Progress where
  /-- The expression. -/
  expression : Text
  /-- What is left of it. -/
  rest : Text
  /-- What was left of it where the last token begins. -/
  last : Text := []
  /-- The next token. -/
  token : Token := .ending
  /-- The parameter that was just read, if nothing else was. -/
  target : Option Target := none
  /-- The number of expressions around, whose parameters it is the text of. -/
  depth : Nat := 0
  /-- The values that were assigned, the last one first. -/
  assigned : List (Target × Int) := []

/-- A reader of an expression. -/
abbrev Reading := ReaderT Scope (EStateM Fault Progress)

/-- Finds fault with an expression, with what is left of it. -/
def failAt {α : Type} (words left : Text) : Reading α := do
  throw (.refused ((← get).expression.dropWhile isBlank) words left)

/-- Finds fault with an expression. -/
def fail {α : Type} (words : Text) : Reading α := do failAt words (← get).last

/-! ### Tokens -/

/-- Whether a character can stand in a number. -/
def isDigit (c : Char) : Bool := c.isAlphanum || c = '_' || c = '@'

/-- The value of a digit in a base. Small letters come before great ones, unless they are the same
in the base. -/
def digit (base : Nat) (c : Char) : Nat :=
  if c.isDigit then c.toNat - '0'.toNat
  else if c.isLower then c.toNat - 'a'.toNat + 10
  else if c = '@' then 62
  else if c = '_' then 63
  else c.toNat - 'A'.toNat + (if base ≤ 36 then 10 else 36)

/-- The number that digits of a base write. -/
def readDigits (base : Nat) (digits : Text) : Reading Int := do
  if digits.any fun c ↦ base ≤ digit base c then fail "value too great for base"
  return wrap (digits.foldl (fun n c ↦ base * n + digit base c) 0 : Nat)

/-- The number that a text writes: in the base before a number sign, hexadecimal after `0x`, octal
after `0`, or decimal. -/
def readNumber (text : Text) : Reading Int := do
  let before := text.takeWhile (· ≠ '#')
  match text.drop before.length with
  | [] =>
    match text with
    | '0' :: 'x' :: digits | '0' :: 'X' :: digits => readDigits 16 digits
    | '0' :: digits => readDigits 8 digits
    | digits => readDigits 10 digits
  | _ :: digits =>
    if before.head? = some '0' then fail "invalid number"
    let base := (← readDigits 10 before).toNat
    if base < 2 ∨ 64 < base then fail "invalid arithmetic base"
    if digits.isEmpty then fail "invalid integer constant"
    if digits.contains '#' then fail "invalid number"
    readDigits base digits

/-- The operators that assign, without their equals signs. -/
def assigningOperators : List String := ["*", "/", "%", "+", "-", "&", "^", "|"]

/-- The operators of two characters that do not assign. -/
def doubleOperators : List String := ["==", "!=", ">=", "<=", "<<", ">>", "&&", "||", "**"]

/-- The index in square brackets at the start of a text, and what follows it. -/
def readIndex : Nat → Nat → Text → Text → Option (Text × Text)
  | 0, _, _, _ => none
  | rounds + 1, depth, done, text =>
    match text with
    | '[' :: rest => readIndex rounds (depth + 1) (if depth = 0 then done else '[' :: done) rest
    | ']' :: rest =>
      if depth ≤ 1 then some (done.reverse, rest)
      else readIndex rounds (depth - 1) (']' :: done) rest
    | c :: rest => readIndex rounds depth (c :: done) rest
    | [] => none

/-- Goes on to the next token. -/
def advance : Reading Unit := do
  let before := (← get).token
  let text := (← get).rest.dropWhile isBlank
  let go (token : Token) (rest : Text) : Reading Unit :=
    modify fun progress ↦ { progress with token, rest }
  match text with
  | [] => go .ending []
  | c :: after =>
    modify fun progress ↦ { progress with last := text }
    if beginsName c then
      let name := text.takeWhile isNameChar
      let rest := text.drop name.length
      if rest.head? = some '[' then
        match readIndex endless 0 [] rest with
        | some (index, rest) => go (.name name (some index)) rest
        | none => fail "bad array subscript"
      else go (.name name none) rest
    else if c.isDigit then
      let number := text.takeWhile fun c ↦ isDigit c || c = '#'
      go (.number (← readNumber number)) (text.drop number.length)
    else
      let two := String.ofList (text.take 2)
      let isStep := two = "++" ∨ two = "--"
      let amount : Int := if c = '+' then 1 else -1
      let startsName := ((text.drop 2).dropWhile isBlank).head?.any beginsName
      let isAfter : Bool :=
        match before with
        | .name .. => true
        | _ => false
      if isStep ∧ isAfter then go (.step false amount) (text.drop 2)
      else if isStep ∧ startsName then go (.step true amount) (text.drop 2)
      else if doubleOperators.contains two then
        if (two = "<<" ∨ two = ">>") ∧ (text.drop 2).head? = some '=' then
          go (.assignment two) (text.drop 3)
        else go (.operator two) (text.drop 2)
      else if c = '=' then go (.assignment "") after
      else if assigningOperators.contains (String.singleton c) ∧ after.head? = some '=' then
        go (.assignment (String.singleton c)) (text.drop 2)
      else if "<>+-*/%!()&|^~?:,".toList.contains c then go (.operator (String.singleton c)) after
      else
        match before with
        | .number _ | .name .. => fail "syntax error: invalid arithmetic operator"
        | _ => fail "syntax error: operand expected"

/-- Notes which parameter was just read, if nothing else was. -/
def setTarget (target : Option Target) : Reading Unit :=
  modify fun progress ↦ { progress with target }

/-- Gives a parameter a value. -/
def assign (target : Target) (value : Int) : Reading Unit :=
  modify fun progress ↦ { progress with assigned := (target, value) :: progress.assigned }

/-- Whether a parameter before some text is given a value there. -/
def isAssigned (rest : Text) : Bool :=
  match rest.dropWhile isBlank with
  | '=' :: '=' :: _ => false
  | '=' :: _ => true
  | _ => false

/-- The power of an integer, in at most some rounds. -/
def power : Nat → Int → Nat → Int
  | 0, _, _ => 1
  | rounds + 1, x, n =>
    if n = 0 then 1
    else
      let half := power rounds (wrap (x * x)) (n / 2)
      if n % 2 = 1 then wrap (x * half) else half

/-- The value of an operator between two operands, `after` being what follows it. What is skipped
may divide by zero. -/
def operate (skips : Bool) (operator : String) (x y : Int) (after : Text) : Reading Int := do
  if divides operator ∧ y = 0 then
    if ¬ skips then failAt "division by 0" (after.dropWhile isBlank)
    return x
  return combine operator x y

/-! ### Operands and operators -/

mutual

/-- The value of a text that is an expression of its own. -/
def readNested : Nat → Text → Reading Int
  | 0, _ => return 0
  | fuel + 1, text => do
    if text.all isBlank then return 0
    let outer ← get
    if 1024 ≤ outer.depth then fail "expression recursion level exceeded"
    set
      { outer with
        expression := text
        rest := text
        last := []
        token := .ending
        target := none
        depth := outer.depth + 1 }
    let value ← readWhole fuel
    modify fun inner ↦ { outer with assigned := inner.assigned }
    return value

/-- The parameter that a name with an index stands for. -/
def readTarget : Nat → Text → Option Text → Reading Target
  | 0, name, _ => return ⟨name, none⟩
  | _ + 1, name, none => return ⟨name, none⟩
  | fuel + 1, name, some index => do
    let scope ← read
    if scope.isTable name then return ⟨name, some index⟩
    else
      let n ← readNested fuel index
      let n := if n < 0 then n + scope.size name else n
      if n < 0 then fail (name ++ ": bad array subscript")
      return ⟨name, some (Text.ofNat n.toNat)⟩

/-- The value of a parameter. -/
def valueOf : Nat → Target → Reading Int
  | 0, _ => return 0
  | fuel + 1, target => do
    match (← get).assigned.lookup target with
    | some value => return value
    | none =>
      let scope ← read
      match scope.text? target with
      | some text => readNested fuel text
      | none =>
        if scope.strict then throw (.unset target.name)
        return 0

/-- Reads an operand: a number, a parameter or an expression in brackets, with signs before it. -/
def readOperand (skips : Bool) : Nat → Reading Int
  | 0 => return 0
  | fuel + 1 => do
    let signed (change : Int → Int) : Reading Int := do
      advance
      let value ← readOperand skips fuel
      setTarget none
      return change value
    match (← get).token with
    | .number n =>
      advance
      setTarget none
      return n
    | .name name index =>
      let isGiven := isAssigned (← get).rest
      let target ← if skips then pure ⟨name, none⟩ else readTarget fuel name index
      let value ← if skips ∨ isGiven then pure 0 else valueOf fuel target
      advance
      match (← get).token with
      | .step false amount =>
        if ¬ skips then assign target (wrap (value + amount))
        modify fun progress ↦ { progress with token := .number 0 }
        advance
        setTarget none
      | _ => setTarget (some target)
      return value
    | .step true amount =>
      advance
      match (← get).token with
      | .name name index =>
        let target ← if skips then pure ⟨name, none⟩ else readTarget fuel name index
        let value ← if skips then pure 0 else valueOf fuel target
        let value := wrap (value + amount)
        if ¬ skips then assign target value
        modify fun progress ↦ { progress with token := .number 0 }
        advance
        setTarget none
        return value
      | _ => fail "identifier expected after pre-increment or pre-decrement"
    | .operator "(" =>
      advance
      let value ← readCommas skips fuel
      if (← get).token ≠ .operator ")" then fail "missing \x60)'"
      advance
      setTarget none
      return value
    | .operator "+" => signed id
    | .operator "-" => signed fun n ↦ wrap (-n)
    | .operator "!" => signed fun n ↦ ofBool (n = 0)
    | .operator "~" => signed fun n ↦ -n - 1
    | _ => fail "syntax error: operand expected"

/-- Reads an operand with powers of it. -/
def readPower (skips : Bool) : Nat → Reading Int
  | 0 => return 0
  | fuel + 1 => do
    let base ← readOperand skips fuel
    if (← get).token = .operator "**" then
      advance
      let exponent ← readPower skips fuel
      setTarget none
      if exponent < 0 then fail "exponent less than 0"
      return power 64 base exponent.toNat
    else return base

/-- Reads operands with operators of a level or tighter ones. -/
def readBinary (skips : Bool) : Nat → Nat → Reading Int
  | 0, _ => return 0
  | fuel + 1, level => do
    let first ←
      match level with
      | 0 => readPower skips fuel
      | level + 1 => readBinary skips fuel level
    readBinaryFrom skips fuel level first

/-- Reads the rest of a chain of operators of a level. -/
def readBinaryFrom (skips : Bool) : Nat → Nat → Int → Reading Int
  | 0, _, _ => return 0
  | fuel + 1, level, first => do
    match (← get).token with
    | .operator operator =>
      if level? operator = some level then
        let after := (← get).rest
        advance
        let second ←
          match level with
          | 0 => readPower skips fuel
          | level + 1 => readBinary skips fuel level
        setTarget none
        readBinaryFrom skips fuel level (← operate skips operator first second after)
      else return first
    | _ => return first

/-- Reads conditions that must all hold. -/
def readAll (skips : Bool) : Nat → Reading Int
  | 0 => return 0
  | fuel + 1 => do
    let first ← readBinary skips fuel 7
    readAllFrom skips fuel first

/-- Reads the rest of conditions that must all hold. -/
def readAllFrom (skips : Bool) : Nat → Int → Reading Int
  | 0, _ => return 0
  | fuel + 1, first => do
    if (← get).token = .operator "&&" then
      advance
      let second ← readBinary (skips || first = 0) fuel 7
      setTarget none
      readAllFrom skips fuel (ofBool (first ≠ 0 ∧ second ≠ 0))
    else return first

/-- Reads conditions of which one must hold. -/
def readAny (skips : Bool) : Nat → Reading Int
  | 0 => return 0
  | fuel + 1 => do
    let first ← readAll skips fuel
    readAnyFrom skips fuel first

/-- Reads the rest of conditions of which one must hold. -/
def readAnyFrom (skips : Bool) : Nat → Int → Reading Int
  | 0, _ => return 0
  | fuel + 1, first => do
    if (← get).token = .operator "||" then
      advance
      let second ← readAll (skips || first ≠ 0) fuel
      setTarget none
      readAnyFrom skips fuel (ofBool (first ≠ 0 ∨ second ≠ 0))
    else return first

/-- Reads a condition with two values to choose from. -/
def readChoice (skips : Bool) : Nat → Reading Int
  | 0 => return 0
  | fuel + 1 => do
    let condition ← readAny skips fuel
    if (← get).token = .operator "?" then
      advance
      if (← get).token = .ending ∨ (← get).token = .operator ":" then fail "expression expected"
      let yes ← readCommas (skips || condition = 0) fuel
      if (← get).token ≠ .operator ":" then fail "\x60:' expected for conditional expression"
      advance
      if (← get).token = .ending then fail "expression expected"
      let no ← readChoice (skips || condition ≠ 0) fuel
      setTarget none
      return if condition ≠ 0 then yes else no
    else return condition

/-- Reads an assignment or a value. -/
def readAssignment (skips : Bool) : Nat → Reading Int
  | 0 => return 0
  | fuel + 1 => do
    let before ← readChoice skips fuel
    match (← get).token with
    | .assignment operator =>
      match (← get).target with
      | none => fail "attempted assignment to non-variable"
      | some target =>
        advance
        let value ← readAssignment skips fuel
        let left := (← get).last
        let value ←
          if operator = "" then pure value else operate skips operator before value left
        setTarget none
        if ¬ skips then assign target value
        return value
    | _ => return before

/-- Reads expressions separated by commas, of which the last one counts. -/
def readCommas (skips : Bool) : Nat → Reading Int
  | 0 => return 0
  | fuel + 1 => do
    let value ← readAssignment skips fuel
    if (← get).token = .operator "," then
      advance
      readCommas skips fuel
    else return value

/-- Reads a whole expression. -/
def readWhole : Nat → Reading Int
  | 0 => return 0
  | fuel + 1 => do
    advance
    let value ← readCommas false fuel
    if (← get).token ≠ .ending then fail "syntax error in expression"
    return value

end

/-- The value of an expression, and the values that it assigns, in order. An empty one is zero. -/
def evaluate (scope : Scope) (expression : Text) : Except Fault (Int × List (Target × Int)) :=
  if expression.all isBlank then .ok (0, [])
  else
    match ((readWhole endless).run scope).run { expression, rest := expression } with
    | .ok value progress => .ok (value, progress.assigned.reverse)
    | .error fault _ => .error fault

end AlignmentTally.Shell.Calculation
