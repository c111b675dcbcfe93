import AlignmentTally.Command.Options

/-!
# Numbers and their prime factors

Each number is written with its prime factors, each as often as it divides the number, or once with
its power.
-/

/-!
### Prime factors

The prime factors of a number. Small ones are found by division; what is left is tested for being
prime by powers, and otherwise split by the cycle that the squares of numbers run into.
-/

namespace AlignmentTally

namespace PrimeFactors

/-- A power of a number, up to multiples of another one. -/
def powerMod (base exponent modulus : Nat) : Nat :=
  (Nat.toDigits 2 exponent).foldl
    (fun power digit ↦
      let square := power * power % modulus
      if digit = '1' then square * base % modulus else square)
    (1 % modulus)

/-- Whether squaring a number some times, up to multiples of another one, leads to one less than
that. -/
def reachesMinusOne (modulus : Nat) : Nat → Nat → Bool
  | 0, _ => false
  | rounds + 1, n => n = modulus - 1 || reachesMinusOne modulus rounds (n * n % modulus)

/-- How often a number can be halved, and what is left. -/
def halvings : Nat → Nat → Nat × Nat
  | 0, n => (0, n)
  | rounds + 1, n =>
    if n % 2 = 0 ∧ 0 < n then
      let (count, rest) := halvings rounds (n / 2)
      (count + 1, rest)
    else (0, n)

/-- The numbers whose powers tell whether another one is prime. -/
def bases : List Nat := [2, 3, 5, 7, 11, 13, 17, 19, 23, 29, 31, 37, 41, 43, 47, 53, 59, 61, 67, 71]

/-- Whether an odd number behaves like a prime under powers of the bases. It is above them. -/
def isPrime (n : Nat) : Bool :=
  let (count, odd) := halvings (n.log2 + 1) (n - 1)
  bases.all fun base ↦
    let power := powerMod base odd n
    power = 1 || reachesMinusOne n count power

/-- A divisor of a number that is neither one nor the number, found in at most some rounds. Two
places, one of them twice as fast, go along the numbers that squaring and adding a constant leads
to. -/
def walk (n constant : Nat) : Nat → Nat → Nat → Option Nat
  | 0, _, _ => none
  | rounds + 1, slow, fast =>
    let next (x : Nat) : Nat := (x * x + constant) % n
    let slow := next slow
    let fast := next (next fast)
    let divisor := Nat.gcd (max slow fast - min slow fast) n
    if divisor = n then none
    else if 1 < divisor then some divisor
    else walk n constant rounds slow fast

/-- The prime factors of a number without small ones, in at most some rounds. -/
def splitLarge : Nat → Nat → List Nat
  | 0, n => [n]
  | rounds + 1, n =>
    if n ≤ 1 then []
    else if isPrime n then [n]
    else
      match (List.range 30).findSome? fun i ↦ walk n (i + 1) 100000000 2 2 with
      | none => [n]
      | some divisor => splitLarge rounds divisor ++ splitLarge rounds (n / divisor)

/-- The factors below the small limit, from a candidate on, and what is left. -/
def divideOut : Nat → Nat → Nat → List Nat × Nat
  | 0, _, n => ([], n)
  | rounds + 1, candidate, n =>
    if n < candidate * candidate ∨ 1000 < candidate then ([], n)
    else if n % candidate = 0 then
      let (factors, rest) := divideOut rounds candidate (n / candidate)
      (candidate :: factors, rest)
    else divideOut rounds (candidate + if candidate = 2 then 1 else 2) n

/-- The prime factors of a number in order, each as often as it divides the number. -/
def ofNat (n : Nat) : List Nat :=
  let (small, rest) := divideOut (n.log2 + 1000) 2 n
  let large :=
    if rest ≤ 1 then [] else if rest < 1000000 then [rest] else splitLarge (n.log2 + 1) rest
  small ++ large.mergeSort

end PrimeFactors

end AlignmentTally

namespace AlignmentTally.Command

open Machine

namespace Factors

/-- The number that a text writes, after blanks and a plus sign. -/
def number? (text : Text) : Option Nat :=
  let text := text.dropWhile (· = ' ')
  Text.toNat? (if text.head? = some '+' then text.drop 1 else text)

/-- Equal neighbours with their number. -/
def powers : List Nat → List (Nat × Nat)
  | [] => []
  | factor :: rest =>
    match powers rest with
    | (next, count) :: others =>
      if factor = next then (next, count + 1) :: others else (factor, 1) :: (next, count) :: others
    | [] => [(factor, 1)]

/-- The line for a number. -/
def line (showsPowers : Bool) (n : Nat) : Text :=
  let factors := if n < 2 then [] else PrimeFactors.ofNat n
  let words : List Text :=
    if showsPowers then
      (powers factors).map fun (factor, count) ↦
        Text.ofNat factor ++ if 1 < count then '^' :: Text.ofNat count else []
    else factors.map Text.ofNat
  Text.ofNat n ++ ':' :: words.flatMap (' ' :: ·)

/-- Writes the line for the number that a text writes. What was collected is not written before a
complaint. -/
def put (showsPowers : Bool) (text : Text) : Work Unit := do
  match number? text with
  | some n => Work.putLine (line showsPowers n)
  | none =>
    let words := ": ".toList ++ Quoted.word text ++ " is not a valid positive integer\n".toList
    let _ ← Routine.write 2 ((← get).name ++ words)
    Work.setStatus 1

/-- Whether a character stands between numbers in the input. -/
def separates (c : Char) : Bool := c = '\n' || c = '\t' || c = ' '

/-- Writes numbers with their prime factors, by default those in the input. -/
def factor (arguments : List Text) : Work Unit := do
  let (chosen, texts) ← Choices.take
    { letters := "h", words := [("exponents", 'h')] } arguments
  let showsPowers := has chosen 'h'
  if ¬ texts.isEmpty then
    for text in texts do put showsPowers text
    return
  let (rest, error) ← Work.foldReads 0 (fun _ ↦ false)
    (fun rest text ↦ do
      let text := rest ++ text
      let last := text.reverse.takeWhile (!separates ·)
      for word in Text.words separates (text.take (text.length - last.length)) do
        put showsPowers (word.takeWhile (· ≠ '\x00'))
      return last.reverse)
    endless ([] : Text)
  for word in Text.words separates rest do put showsPowers (word.takeWhile (· ≠ '\x00'))
  if let some error := error then Work.fail ("error reading input: " ++ error.words) 1

end Factors

end AlignmentTally.Command
