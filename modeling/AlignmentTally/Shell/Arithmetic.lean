import AlignmentTally.Shell.Syntax

/-!
# Arithmetic in scripts

Integers of 64 bits with the usual operators, and the expressions over them and over parameters in
the plain dialect. Truth is 1 and falsehood 0; division goes toward zero. A value is computed while
it is read, and what a false condition skips is read without being computed.
-/

namespace AlignmentTally.Shell.Arithmetic

open Machine

/-- Why an expression has no value. -/
inductive Fault where
  /-- The expression is not one, or divides by zero. -/
  | expression (words : Text)
  /-- The value of a parameter is no number. -/
  | number (text : Text)
  /-- The machine cannot hold the quotient. -/
  | overflow
  /-- A parameter may not be assigned to. -/
  | readOnly (name : Text)
  /-- A parameter has no value, where one is asked for. -/
  | unset (name : Text)

/-- The least integer above those that there are. -/
def bound : Int := 9223372036854775808

/-- An integer of 64 bits that is congruent to an integer. -/
def wrap (n : Int) : Int := Int.bmod n (2 * bound.toNat)

/-- An integer of 64 bits that is nearest to an integer. -/
def clamp (n : Int) : Int := max (-bound) (min n (bound - 1))

/-- A truth value as a number. -/
def ofBool (b : Bool) : Int := if b then 1 else 0

/-- The number at the start of a text, and what follows it: hexadecimal after `0x`, octal after
`0`, or decimal. -/
def readNumber (text : Text) : Option (Nat × Text) :=
  let isHex (c : Char) : Bool := c.isDigit || 'a' ≤ c.toLower && c.toLower ≤ 'f'
  let take (base : Nat) (p : Char → Bool) (digits : Text) : Nat × Text :=
    let taken := digits.takeWhile p
    (Text.natOfDigits base taken, digits.drop taken.length)
  match text with
  | '0' :: x :: d :: rest =>
    if (x = 'x' ∨ x = 'X') ∧ isHex d then some (take 16 isHex (d :: rest))
    else some (take 8 (fun c ↦ '0' ≤ c && c ≤ '7') text)
  | '0' :: _ => some (take 8 (fun c ↦ '0' ≤ c && c ≤ '7') text)
  | c :: _ => if c.isDigit then some (take 10 Char.isDigit text) else none
  | [] => none

/-- Whether a character is a blank in a number. -/
def isBlank (c : Char) : Bool := " \t\n\r\x0b\x0c".toList.contains c

/-- The integer that a text writes, with blanks around it and a sign. -/
def integer? (text : Text) : Option Int :=
  let text := text.dropWhile isBlank
  let (negative, digits) :=
    match text with
    | '-' :: rest => (true, rest)
    | '+' :: rest => (false, rest)
    | rest => (false, rest)
  match readNumber digits with
  | some (n, rest) =>
    if rest.all isBlank then some (clamp (if negative then -(n : Int) else n)) else none
  | none => none

/-- A number, a parameter or an operator. -/
inductive Token where
  | number (value : Int)
  | name (text : Text)
  | operator (text : String)
  | ending
  deriving DecidableEq, Repr, Inhabited

/-- The parameters that an expression sees. -/
structure Scope where
  /-- The value of a parameter. -/
  value : Text → Except Fault Int

/-- An expression that is being read. -/
structure State where
  /-- What is left of its text. -/
  rest : Text
  /-- The next token. -/
  token : Token := .ending
  /-- The values that the expression has assigned, the last one first. -/
  assigned : List (Text × Int) := []

/-- A reader of an expression. -/
abbrev Reading := ReaderT Scope (EStateM Fault State)

/-- The operators of more than one character, longer ones first. -/
def longOperators : List String :=
  ["<<=", ">>=", "<<", ">>", "<=", ">=", "==", "!=", "&&", "||", "+=", "-=", "*=", "/=", "%=", "&=",
    "|=", "^="]

/-- Goes on to the next token. -/
def advance : Reading Unit := do
  let text := (← get).rest.dropWhile isBlank
  let go (token : Token) (rest : Text) : Reading Unit :=
    modify fun state ↦ { state with token, rest }
  match text with
  | [] => go .ending []
  | c :: rest =>
    match readNumber text with
    | some (n, rest) => go (.number (clamp n)) rest
    | none =>
      if beginsName c then
        go (.name (text.takeWhile isNameChar)) (text.dropWhile isNameChar)
      else
        match longOperators.find? fun operator ↦ Text.beginsWith text operator.toList with
        | some operator => go (.operator operator) (text.drop operator.length)
        | none => go (.operator (String.singleton c)) rest

/-- Finds fault with an expression. -/
def fail {α : Type} (words : Text) : Reading α := throw (.expression words)

/-- The value of a parameter. -/
def valueOf (name : Text) : Reading Int := do
  match (← get).assigned.lookup name with
  | some value => return value
  | none =>
    match (← read).value name with
    | .ok value => return value
    | .error fault => throw fault

/-- Gives a parameter a value. -/
def assign (name : Text) (value : Int) : Reading Unit :=
  modify fun state ↦ { state with assigned := (name, value) :: state.assigned }

/-- The levels of the operators between two operands, the tightest one being 0. -/
def level? : String → Option Nat
  | "*" | "/" | "%" => some 0
  | "+" | "-" => some 1
  | "<<" | ">>" => some 2
  | "<" | "<=" | ">" | ">=" => some 3
  | "==" | "!=" => some 4
  | "&" => some 5
  | "^" => some 6
  | "|" => some 7
  | _ => none

/-- The bits of an integer. -/
def bits (n : Int) : Nat := (Int.emod n (2 * bound)).toNat

/-- The value of an operator between two operands. The second one is not zero where it divides. -/
def combine (operator : String) (x y : Int) : Int :=
  let places : Nat := (Int.emod y 64).toNat
  match operator with
  | "*" => wrap (x * y)
  | "/" => wrap (Int.tdiv x y)
  | "%" => Int.tmod x y
  | "+" => wrap (x + y)
  | "-" => wrap (x - y)
  | "<<" => wrap ((bits x <<< places : Nat) : Int)
  | ">>" => x >>> places
  | "<" => ofBool (x < y)
  | "<=" => ofBool (x ≤ y)
  | ">" => ofBool (y < x)
  | ">=" => ofBool (y ≤ x)
  | "==" => ofBool (x = y)
  | "!=" => ofBool (x ≠ y)
  | "&" => wrap ((bits x &&& bits y : Nat) : Int)
  | "^" => wrap ((bits x ^^^ bits y : Nat) : Int)
  | _ => wrap ((bits x ||| bits y : Nat) : Int)

/-- Whether an operator divides. -/
def divides (operator : String) : Bool := operator = "/" || operator = "%"

/-- The value of an operator between two operands. -/
def operate (operator : String) (x y : Int) : Reading Int := do
  if divides operator then
    if y = 0 then fail "division by zero"
    if x = -bound ∧ y = -1 then throw .overflow
  return combine operator x y

mutual

/-- Reads an operand: a number, a parameter or an expression in brackets, with signs before it. -/
def readOperand (skips : Bool) : Nat → Reading Int
  | 0 => fail "expecting primary"
  | fuel + 1 => do
    match (← get).token with
    | .number n => advance; return n
    | .name name =>
      advance
      if skips then return 0 else valueOf name
    | .operator "(" =>
      advance
      let value ← readAssignment skips fuel
      if (← get).token ≠ .operator ")" then fail "expecting ')'"
      advance
      return value
    | .operator "+" => advance; readOperand skips fuel
    | .operator "-" => advance; return wrap (-(← readOperand skips fuel))
    | .operator "!" => advance; return ofBool ((← readOperand skips fuel) = 0)
    | .operator "~" => advance; return -(← readOperand skips fuel) - 1
    | _ => fail "expecting primary"

/-- Reads operands with operators of a level or tighter ones. -/
def readBinary (skips : Bool) : Nat → Nat → Reading Int
  | 0, _ => fail "expecting primary"
  | fuel + 1, level => do
    let first ←
      match level with
      | 0 => readOperand skips fuel
      | level + 1 => readBinary skips fuel level
    readBinaryFrom skips fuel level first

/-- Reads the rest of a chain of operators of a level. -/
def readBinaryFrom (skips : Bool) : Nat → Nat → Int → Reading Int
  | 0, _, _ => fail "expecting primary"
  | fuel + 1, level, first => do
    match (← get).token with
    | .operator operator =>
      if level? operator = some level then
        advance
        let second ←
          match level with
          | 0 => readOperand skips fuel
          | level + 1 => readBinary skips fuel level
        let value ← if skips then pure second else operate operator first second
        readBinaryFrom skips fuel level value
      else return first
    | _ => return first

/-- Reads conditions that must all hold. -/
def readAll (skips : Bool) : Nat → Reading Int
  | 0 => fail "expecting primary"
  | fuel + 1 => do
    let first ← readBinary skips fuel 7
    if (← get).token = .operator "&&" then
      advance
      let second ← readAll (skips || first = 0) fuel
      return ofBool (first ≠ 0 ∧ second ≠ 0)
    else return first

/-- Reads conditions of which one must hold. -/
def readAny (skips : Bool) : Nat → Reading Int
  | 0 => fail "expecting primary"
  | fuel + 1 => do
    let first ← readAll skips fuel
    if (← get).token = .operator "||" then
      advance
      let second ← readAny (skips || first ≠ 0) fuel
      return ofBool (first ≠ 0 ∨ second ≠ 0)
    else return first

/-- Reads a condition with two values to choose from. -/
def readChoice (skips : Bool) : Nat → Reading Int
  | 0 => fail "expecting primary"
  | fuel + 1 => do
    let condition ← readAny skips fuel
    if (← get).token = .operator "?" then
      advance
      let yes ← readAssignment (skips || condition = 0) fuel
      if (← get).token ≠ .operator ":" then fail "expecting ':'"
      advance
      let no ← readChoice (skips || condition ≠ 0) fuel
      return if condition ≠ 0 then yes else no
    else return condition

/-- Reads an assignment or a value. -/
def readAssignment (skips : Bool) : Nat → Reading Int
  | 0 => fail "expecting primary"
  | fuel + 1 => do
    match (← get).token with
    | .name name =>
      let before ← get
      advance
      match (← get).token with
      | .operator operator =>
        let isAssignment :=
          operator = "=" ∨
            ["+=", "-=", "*=", "/=", "%=", "<<=", ">>=", "&=", "|=", "^="].contains operator
        if isAssignment then
          advance
          let value ← readAssignment skips fuel
          if skips then return value
          let value ←
            if operator = "=" then pure value
            else do operate (String.ofList operator.toList.dropLast) (← valueOf name) value
          assign name value
          return value
        else
          set before
          readChoice skips fuel
      | _ =>
        set before
        readChoice skips fuel
    | _ => readChoice skips fuel

end

/-- Reads a whole expression. -/
def readWhole : Reading Int := do
  advance
  let value ← readAssignment false endless
  if (← get).token ≠ .ending then fail "expecting EOF"
  return value

/-- The value of an expression, and the values that it assigns, in order. -/
def evaluate (scope : Scope) (expression : Text) : Except Fault (Int × List (Text × Int)) :=
  match (readWhole.run scope).run { rest := expression } with
  | .ok value state => .ok (value, state.assigned.reverse)
  | .error fault _ => .error fault

end AlignmentTally.Shell.Arithmetic
