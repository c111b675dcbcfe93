import AlignmentTally.Digest.Word

/-!
# The digest of 128 bits

A digest with four words of 32 bits of state, whose octets are taken from the least significant one
on. Each round mixes one word of a block into the state.
-/

namespace AlignmentTally.Digest.Md5

/-- The words that the rounds add: the first bits after the point of the sines of 1, 2, 3, … -/
def sines : List Nat := [
  0xd76aa478, 0xe8c7b756, 0x242070db, 0xc1bdceee, 0xf57c0faf, 0x4787c62a, 0xa8304613, 0xfd469501,
  0x698098d8, 0x8b44f7af, 0xffff5bb1, 0x895cd7be, 0x6b901122, 0xfd987193, 0xa679438e, 0x49b40821,
  0xf61e2562, 0xc040b340, 0x265e5a51, 0xe9b6c7aa, 0xd62f105d, 0x02441453, 0xd8a1e681, 0xe7d3fbc8,
  0x21e1cde6, 0xc33707d6, 0xf4d50d87, 0x455a14ed, 0xa9e3e905, 0xfcefa3f8, 0x676f02d9, 0x8d2a4c8a,
  0xfffa3942, 0x8771f681, 0x6d9d6122, 0xfde5380c, 0xa4beea44, 0x4bdecfa9, 0xf6bb4b60, 0xbebfbc70,
  0x289b7ec6, 0xeaa127fa, 0xd4ef3085, 0x04881d05, 0xd9d4d039, 0xe6db99e5, 0x1fa27cf8, 0xc4ac5665,
  0xf4292244, 0x432aff97, 0xab9423a7, 0xfc93a039, 0x655b59c3, 0x8f0ccc92, 0xffeff47d, 0x85845dd1,
  0x6fa87e4f, 0xfe2ce6e0, 0xa3014314, 0x4e0811a1, 0xf7537e82, 0xbd3af235, 0x2ad7d2bb, 0xeb86d391]

/-- How far the rounds of each quarter turn, over and over. -/
def turns : List (List Nat) := [[7, 12, 17, 22], [5, 9, 14, 20], [4, 11, 16, 23], [6, 10, 15, 21]]

/-- The four words of state. -/
structure State where
  /-- The first word. -/
  a : Nat
  /-- The second word. -/
  b : Nat
  /-- The third word. -/
  c : Nat
  /-- The fourth word. -/
  d : Nat

/-- The words of a state. -/
def State.words (state : State) : List Nat := [state.a, state.b, state.c, state.d]

/-- The state at the start. -/
def start : State := ⟨0x67452301, 0xefcdab89, 0x98badcfe, 0x10325476⟩

/-- One round. -/
def round (block : Array Nat) (state : State) (i sine : Nat) : State :=
  let ⟨a, b, c, d⟩ := state
  let (mixed, place) : Nat × Nat :=
    match i / 16 with
    | 0 => (choose 32 b c d, i)
    | 1 => (choose 32 d b c, 5 * i + 1)
    | 2 => (b ^^^ c ^^^ d, 3 * i + 5)
    | _ => (c ^^^ (b ||| flip 32 d), 7 * i)
  let bits := ((turns[i / 16]?.getD [])[i % 4]?).getD 0
  let sum := wrap 32 (a + mixed + sine + (block[place % 16]?).getD 0)
  ⟨d, wrap 32 (b + turnLeft 32 bits sum), b, c⟩

/-- The state after a block. -/
def takeBlock (state : State) (block : List Nat) : State :=
  let words := block.toArray
  let after := sines.zipIdx.foldl (fun state (sine, i) ↦ round words state i sine) state
  ⟨wrap 32 (state.a + after.a), wrap 32 (state.b + after.b), wrap 32 (state.c + after.c),
    wrap 32 (state.d + after.d)⟩

/-- The digest of a message. -/
def digest (message : List Nat) : List Nat :=
  ((Order.leastFirst.blocks 4 message).foldl takeBlock start).words.flatMap
    (Order.leastFirst.octets 4)

end AlignmentTally.Digest.Md5
