import AlignmentTally.Digest.Word

/-!
# Digests of the secure hash standard

The first digest has five words of 32 bits of state. The words of a block are extended to eighty,
each of which is mixed into the state in a round.

The later ones are a family with eight words of state, whose members differ in the bits of a word,
the rounds and how far words are turned. The words that the rounds add are the first bits after the
point of the cube roots of the prime numbers.
-/

/-! ### The digest of 160 bits -/

namespace AlignmentTally.Digest.Sha1

/-- The words of a block and those that follow from them, the last one first. -/
def extend : Nat → List Nat → List Nat
  | 0, words => words
  | rounds + 1, words =>
    let word (back : Nat) : Nat := (words[back - 1]?).getD 0
    extend rounds (turnLeft 32 1 (word 3 ^^^ word 8 ^^^ word 14 ^^^ word 16) :: words)

/-- The five words of state. -/
structure State where
  /-- The first word. -/
  a : Nat
  /-- The second word. -/
  b : Nat
  /-- The third word. -/
  c : Nat
  /-- The fourth word. -/
  d : Nat
  /-- The fifth word. -/
  e : Nat

/-- The words of a state. -/
def State.words (state : State) : List Nat := [state.a, state.b, state.c, state.d, state.e]

/-- The state at the start. -/
def start : State := ⟨0x67452301, 0xefcdab89, 0x98badcfe, 0x10325476, 0xc3d2e1f0⟩

/-- One round. -/
def round (state : State) (i word : Nat) : State :=
  let ⟨a, b, c, d, e⟩ := state
  let (mixed, added) : Nat × Nat :=
    match i / 20 with
    | 0 => (choose 32 b c d, 0x5a827999)
    | 1 => (b ^^^ c ^^^ d, 0x6ed9eba1)
    | 2 => (most b c d, 0x8f1bbcdc)
    | _ => (b ^^^ c ^^^ d, 0xca62c1d6)
  ⟨wrap 32 (turnLeft 32 5 a + mixed + e + added + word), a, turnLeft 32 30 b, c, d⟩

/-- The state after a block. -/
def takeBlock (state : State) (block : List Nat) : State :=
  let words := (extend 64 block.reverse).reverse
  let after := words.zipIdx.foldl (fun state (word, i) ↦ round state i word) state
  ⟨wrap 32 (state.a + after.a), wrap 32 (state.b + after.b), wrap 32 (state.c + after.c),
    wrap 32 (state.d + after.d), wrap 32 (state.e + after.e)⟩

/-- The digest of a message. -/
def digest (message : List Nat) : List Nat :=
  ((Order.mostFirst.blocks 4 message).foldl takeBlock start).words.flatMap
    (Order.mostFirst.octets 4)

end AlignmentTally.Digest.Sha1

/-! ### Digests with eight words of state -/

namespace AlignmentTally.Digest.Sha2

/-- Whether a number has no divisor from some number on, in at most some rounds. -/
def hasNoDivisor (n : Nat) : Nat → Nat → Bool
  | 0, _ => true
  | rounds + 1, d => n < d * d || (n % d ≠ 0 && hasNoDivisor n rounds (d + 1))

/-- The prime numbers among the first 500 numbers. -/
def primes : List Nat := (List.range 500).filter fun n ↦ 2 ≤ n && hasNoDivisor n n 2

/-- The greatest number, of as many bits as there are rounds left, that can be added to another one
so that the power of the sum does not exceed a limit. -/
def rootFrom (power : Nat → Nat) (limit : Nat) : Nat → Nat → Nat
  | 0, root => root
  | bits + 1, root =>
    let more := root + (1 <<< bits)
    rootFrom power limit bits (if power more ≤ limit then more else root)

/-- The first bits after the point of the cube root of a number. -/
def cubeRootBits (width n : Nat) : Nat :=
  wrap width (rootFrom (fun x ↦ x * x * x) (n <<< (3 * width)) (width + 4) 0)

/-- The first bits after the point of the square root of a number. -/
def squareRootBits (width n : Nat) : Nat :=
  wrap width (rootFrom (fun x ↦ x * x) (n <<< (2 * width)) (width + 6) 0)

/-- How a word is mixed with itself: turned twice, and turned once more or shifted. -/
structure Mix where
  /-- How far it is turned first. -/
  first : Nat
  /-- How far it is turned then. -/
  second : Nat
  /-- How far it is turned or shifted last. -/
  third : Nat

/-- A family of digests. -/
structure Family where
  /-- The bits of a word. -/
  width : Nat
  /-- The words that the rounds add. -/
  added : List Nat
  /-- How the fifth word of the state is mixed. -/
  high : Mix
  /-- How the first word of the state is mixed. -/
  low : Mix
  /-- How the fifteenth word back is mixed. -/
  far : Mix
  /-- How the second word back is mixed. -/
  near : Mix

/-- The digests with words of 32 bits. -/
def short : Family where
  width := 32
  added := (primes.take 64).map (cubeRootBits 32)
  high := ⟨6, 11, 25⟩
  low := ⟨2, 13, 22⟩
  far := ⟨7, 18, 3⟩
  near := ⟨17, 19, 10⟩

/-- The digests with words of 64 bits. -/
def long : Family where
  width := 64
  added := (primes.take 80).map (cubeRootBits 64)
  high := ⟨14, 18, 41⟩
  low := ⟨28, 34, 39⟩
  far := ⟨1, 8, 7⟩
  near := ⟨19, 61, 6⟩

namespace Family

/-- A word turned in three ways. -/
def turned (family : Family) (mix : Mix) (word : Nat) : Nat :=
  let turn (bits : Nat) : Nat := turnRight family.width bits word
  turn mix.first ^^^ turn mix.second ^^^ turn mix.third

/-- A word turned in two ways and shifted in a third one. -/
def shifted (family : Family) (mix : Mix) (word : Nat) : Nat :=
  let turn (bits : Nat) : Nat := turnRight family.width bits word
  turn mix.first ^^^ turn mix.second ^^^ word >>> mix.third

/-- The words of a block and those that follow from them, the last one first. -/
def extend (family : Family) : Nat → List Nat → List Nat
  | 0, words => words
  | rounds + 1, words =>
    let word (back : Nat) : Nat := (words[back - 1]?).getD 0
    let next := family.shifted family.near (word 2) + word 7 + family.shifted family.far (word 15) +
      word 16
    extend family rounds (wrap family.width next :: words)

/-- The state after one round. -/
def round (family : Family) (state : List Nat) (word added : Nat) : List Nat :=
  match state with
  | [a, b, c, d, e, f, g, h] =>
    let one := h + family.turned family.high e + choose family.width e f g + added + word
    let two := family.turned family.low a + most a b c
    [wrap family.width (one + two), a, b, c, wrap family.width (d + one), e, f, g]
  | state => state

/-- The state after a block. -/
def takeBlock (family : Family) (state block : List Nat) : List Nat :=
  let words := (family.extend (family.added.length - 16) block.reverse).reverse
  let after := (words.zip family.added).foldl
    (fun state (word, added) ↦ family.round state word added) state
  addEach family.width state after

/-- The first octets of the last state for a message. -/
def digest (family : Family) (start : List Nat) (length : Nat) (message : List Nat) : List Nat :=
  let size := family.width / 8
  ((Order.mostFirst.blocks size message).foldl family.takeBlock start).flatMap
    (Order.mostFirst.octets size) |>.take length

end Family

/-- The digest of 256 bits, which starts with the square roots of the first prime numbers. -/
def digest256 : List Nat → List Nat := short.digest ((primes.take 8).map (squareRootBits 32)) 32

/-- The digest of 224 bits, which starts with the second 32 bits of the square roots of the next
prime numbers. -/
def digest224 : List Nat → List Nat :=
  short.digest (((primes.drop 8).take 8).map fun n ↦ wrap 32 (squareRootBits 64 n)) 28

/-- The digest of 512 bits. -/
def digest512 : List Nat → List Nat := long.digest ((primes.take 8).map (squareRootBits 64)) 64

/-- The digest of 384 bits. -/
def digest384 : List Nat → List Nat :=
  long.digest (((primes.drop 8).take 8).map (squareRootBits 64)) 48

end AlignmentTally.Digest.Sha2
