import AlignmentTally.Shell.Arithmetic
import AlignmentTally.Shell.State

/-!
# Conditions

The conditions that a script tests: about texts, integers and files, put together by negation,
conjunction, disjunction and brackets. Whether a word is an operator depends on what follows it, so
that every word can also be compared.
-/

namespace AlignmentTally.Shell

open Machine

namespace Condition

/-- What a word can be in a condition. -/
inductive Kind where
  /-- An operator in front of a word. -/
  | unary
  /-- An operator between two words. -/
  | binary
  /-- A negation. -/
  | negation
  /-- A conjunction. -/
  | both
  /-- A disjunction. -/
  | either
  /-- An opening bracket. -/
  | opening
  /-- A closing bracket. -/
  | closing
  /-- A word that means itself. -/
  | operand
  /-- The end of the condition. -/
  | ending
  deriving DecidableEq, Repr

/-- The operators in front of a word. -/
def unaryOperators : List String :=
  ["-r", "-w", "-x", "-e", "-f", "-d", "-c", "-b", "-p", "-u", "-g", "-k", "-s", "-t", "-z", "-n",
    "-h", "-O", "-G", "-L", "-S"]

/-- The operators between two words. -/
def binaryOperators : List String :=
  ["=", "!=", "<", ">", "-eq", "-ne", "-ge", "-gt", "-le", "-lt", "-nt", "-ot", "-ef"]

/-- Which operator a word is, if it is one. -/
def kind? (extended : Bool) (word : Text) : Option Kind :=
  let word := String.ofList word
  if unaryOperators.contains word ∨ extended ∧ (word = "-v" ∨ word = "-a") then some .unary
  else if binaryOperators.contains word ∨ extended ∧ word = "==" then some .binary
  else
    match word with
    | "!" => some .negation
    | "-a" => some .both
    | "-o" => some .either
    | "(" => some .opening
    | ")" => some .closing
    | _ => none

/-- What the first word of a condition is, in view of the words after it. -/
def token (extended : Bool) : List Text → Kind
  | [] => .ending
  | word :: rest =>
    let kind := kind? false word
    let kind := if kind.isNone then kind? extended word else kind
    match kind, rest with
    | some .unary, [] => .operand
    | some .unary, [_] => .unary
    | some .unary, next :: _ :: _ =>
      if kind? extended next = some .binary then .operand else .unary
    | some .opening, [] => .operand
    | some kind, _ => kind
    | none, _ => .operand

/-- What a condition can know. -/
structure Scene where
  /-- Whether the dialect is the extended one. -/
  extended : Bool
  /-- The streams of the shell. -/
  streams : List (Nat × Target)
  /-- The directory of the shell. -/
  directory : Nat
  /-- The disk. -/
  disk : Disk
  /-- Whether a parameter has a value. -/
  isSet : Text → Bool := fun _ ↦ false

/-- The integer that a word writes. -/
def integer? (text : Text) : Option Int :=
  let text := text.dropWhile Arithmetic.isBlank
  let (negative, digits) :=
    match text with
    | '-' :: rest => (true, rest)
    | '+' :: rest => (false, rest)
    | rest => (false, rest)
  let written := digits.takeWhile Char.isDigit
  let n : Int := Text.natOfDigits 10 written
  let n := if negative then -n else n
  if written.isEmpty ∨ ¬ (digits.drop written.length).all Arithmetic.isBlank ∨
      Arithmetic.clamp n ≠ n then none
  else some n

/-- The integer that a word of a condition writes. -/
def integer (scene : Scene) (word : Text) : Except Text Int :=
  match integer? word with
  | some n => .ok n
  | none =>
    if scene.extended then .error (word ++ ": integer expression expected")
    else .error ("Illegal number: " ++ word)

/-- Whether what is said about one word holds. -/
def holdsOf (scene : Scene) (operator : String) (word : Text) : Except Text Bool := do
  let file := fun (p : DiskFile → Bool) ↦
    (Target.ofPath? scene.streams scene.disk scene.directory word).any fun target ↦
      p (target.content scene.disk)
  let isDevice := fun file : DiskFile ↦ match file.content with
    | .device _ | .stream _ => true
    | _ => false
  let isPipe := fun file : DiskFile ↦ match file.content with
    | .fifo => true
    | _ => false
  match operator with
  | "-z" => return word.isEmpty
  | "-n" => return !word.isEmpty
  | "-t" =>
    let _ ← integer scene word
    return false
  | "-v" => return scene.isSet word
  | "-e" | "-a" | "-r" | "-w" | "-O" | "-G" => return file fun _ ↦ true
  | "-x" => return file fun file ↦ file.isDirectory || file.isExecutable
  | "-f" => return file (·.isRegular)
  | "-d" => return file (·.isDirectory)
  | "-c" => return file isDevice
  | "-p" => return file isPipe
  | "-s" => return file fun file ↦
      match file.content with
      | .file octets => octets.size ≠ 0
      | .command _ | .directory .. => true
      | _ => false
  | "-h" | "-L" =>
    return match scene.disk.findWith false scene.directory word with
      | .ok number =>
        match (scene.disk.get number).content with
        | .link _ => true
        | .stream stream => scene.streams.any (·.1 = stream)
        | _ => false
      | .error _ => false
  | "-u" => return file fun file ↦ file.mode &&& 2048 ≠ 0
  | "-g" => return file fun file ↦ file.mode &&& 1024 ≠ 0
  | "-k" => return file fun file ↦ file.mode &&& 512 ≠ 0
  | _ => return false

/-- Whether what is said about two words holds. -/
def holdsBetween (scene : Scene) (operator : String) (first second : Text) :
    Except Text Bool := do
  let target := Target.ofPath? scene.streams scene.disk scene.directory
  let changed := fun word : Text ↦ (target word).map fun target ↦ (target.content scene.disk).changed
  let compare (holds : Int → Int → Bool) : Except Text Bool := do
    let x ← integer scene first
    return holds x (← integer scene second)
  match operator with
  | "=" | "==" => return first = second
  | "!=" => return first ≠ second
  | "<" => return Text.before first second
  | ">" => return Text.before second first
  | "-eq" => compare fun x y ↦ x = y
  | "-ne" => compare fun x y ↦ x ≠ y
  | "-ge" => compare fun x y ↦ y ≤ x
  | "-gt" => compare fun x y ↦ y < x
  | "-le" => compare fun x y ↦ x ≤ y
  | "-lt" => compare fun x y ↦ x < y
  | "-nt" =>
    return match changed first, changed second with
      | some a, some b => b < a
      | some _, none => scene.extended
      | _, _ => false
  | "-ot" =>
    return match changed first, changed second with
      | some a, some b => a < b
      | none, some _ => scene.extended
      | _, _ => false
  | "-ef" => return (target first).isSome && target first = target second
  | _ => return false

/-- The words from the second one on. -/
def next (words : List Text) : List Text := words.drop 1

/-- The operator that a word is. -/
def operatorOf (words : List Text) : String := String.ofList (words.headD [])

/-- Complains that an operator lacks a word. -/
def lacks {α : Type} (operator : String) : Except Text α :=
  .error (operator.toList ++ ": argument expected")

mutual

/-- A disjunction whose first word is of a kind. Like the readers below, it ends at its own last
word. -/
def readEither (scene : Scene) : Nat → Kind → List Text → Bool →
    Except Text (Bool × List Text)
  | 0, _, words, value => .ok (value, words)
  | fuel + 1, kind, words, value => do
    let (one, words) ← readBoth scene fuel kind words true
    let value := value || one
    if token scene.extended (next words) = .either then
      let words := words.drop 2
      readEither scene fuel (token scene.extended words) words value
    else return (value, words)

/-- A conjunction whose first word is of a kind. -/
def readBoth (scene : Scene) : Nat → Kind → List Text → Bool → Except Text (Bool × List Text)
  | 0, _, words, value => .ok (value, words)
  | fuel + 1, kind, words, value => do
    let (one, words) ← readNegated scene fuel kind words
    let value := value && one
    if token scene.extended (next words) = .both then
      let words := words.drop 2
      readBoth scene fuel (token scene.extended words) words value
    else return (value, words)

/-- A condition with negations in front of it. -/
def readNegated (scene : Scene) : Nat → Kind → List Text → Except Text (Bool × List Text)
  | 0, _, words => .ok (false, words)
  | fuel + 1, kind, words => do
    if kind ≠ .negation then readSingle scene fuel kind words
    else
      let kind := token scene.extended (next words)
      let words := if kind = .ending then words else next words
      let (value, words) ← readNegated scene fuel kind words
      return (!value, words)

/-- A condition about one word or two, or one in brackets. -/
def readSingle (scene : Scene) : Nat → Kind → List Text → Except Text (Bool × List Text)
  | 0, _, words => .ok (false, words)
  | fuel + 1, kind, words => do
    match kind with
    | .ending => return (false, words)
    | .opening =>
      let words := next words
      let kind := token scene.extended words
      if kind = .closing then return (false, words)
      let (value, words) ← readEither scene fuel kind words false
      let words := next words
      if token scene.extended words ≠ .closing then throw ("closing paren expected" : Text)
      return (value, words)
    | .unary =>
      match next words with
      | [] => lacks (operatorOf words)
      | word :: rest => return (← holdsOf scene (operatorOf words) word, word :: rest)
    | _ =>
      let after := next words
      if token scene.extended after = .binary then
        match next after with
        | [] => lacks (operatorOf after)
        | second :: rest =>
          return (← holdsBetween scene (operatorOf after) (words.headD []) second, second :: rest)
      else return (!(words.headD []).isEmpty, words)

end

/-- Whether a condition holds whose first word is of a kind. -/
def holdsFrom (scene : Scene) (kind : Kind) (words : List Text) : Except Text Bool := do
  let (value, rest) ← readEither scene (8 * words.length + 8) kind words false
  match rest with
  | word :: _ :: _ =>
    if ¬ scene.extended then throw (word ++ ": unexpected operator")
    else
      match words with
      | [first, _] => throw (first ++ ": unary operator expected")
      | [_, second, _] => throw (second ++ ": binary operator expected")
      | _ => throw ("too many arguments" : Text)
  | _ => return value

/-- Whether a condition holds. With three or four words, an operator between two words goes before
brackets and negations, and negations one after another count as one. -/
def holds (scene : Scene) : List Text → Except Text Bool
  | [] => .ok false
  | first :: rest =>
    let words := first :: rest
    let isBinary : Bool :=
      match words with
      | [_, operator, _] => kind? scene.extended operator = some .binary
      | _ => false
    if isBinary then holdsFrom scene .operand words
    else if words.length = 3 ∨ words.length = 4 then
      if first = ['('] ∧ rest.getLast? = some [')'] then
        let words := rest.dropLast
        holdsFrom scene (token scene.extended words) words
      else if first = ['!'] then
        let isNegatedAgain : Bool :=
          !scene.extended && rest.length = 3 && rest.head? = some ['!'] &&
            kind? false (rest.getD 1 []) ≠ some .binary
        if isNegatedAgain then holds scene rest else (holds scene rest).map not
      else holdsFrom scene (token scene.extended words) words
    else holdsFrom scene (token scene.extended words) words

/-- The exit status of a condition that is tested as a command, under one of its two names. -/
def test (name : Text) (words : List Text) : Action Nat := do
  let state ← get
  let extended := state.isExtended
  let inBrackets := name = ['[']
  if inBrackets ∧ (words.getLast?.bind List.head?) ≠ some ']' then
    if extended then
      Action.warn "missing \x60]'"
      return 2
    else Action.fail "missing ]"
  let words := if inBrackets then words.dropLast else words
  match words with
  | [first, _] =>
    if extended ∧ kind? true first = some .binary then
      Action.warn (first ++ ": unary operator expected")
      return 2
  | _ => pure ()
  let isSet := fun name ↦ (state.value? name).isSome
  let streams := (← Routine.self).streams
  let answer ← Routine.look fun directory disk ↦
    holds { extended, streams, directory, disk, isSet } words
  match answer with
  | .ok value => return if value then 0 else 1
  | .error complaint =>
    if extended then
      Action.warn complaint
      return 2
    else Action.fail complaint

end Condition

end AlignmentTally.Shell
