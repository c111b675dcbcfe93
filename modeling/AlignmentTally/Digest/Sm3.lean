import AlignmentTally.Digest.Word

/-!
# The digest with two permutations

A digest of 256 bits with eight words of 32 bits of state. The words of a block are extended to 68,
and each of the first 64 is mixed into the state in a round together with the one four words on.
-/

namespace AlignmentTally.Digest.Sm3

/-- A word turned left by some bits. -/
def turn (bits word : Nat) : Nat := turnLeft 32 (bits % 32) word

/-- The permutation of what a round gives. -/
def spread (word : Nat) : Nat := word ^^^ turn 9 word ^^^ turn 17 word

/-- The permutation of what a new word comes from. -/
def stretch (word : Nat) : Nat := word ^^^ turn 15 word ^^^ turn 23 word

/-- The words of a block and those that follow from them, the last one first. -/
def extend : Nat → List Nat → List Nat
  | 0, words => words
  | rounds + 1, words =>
    let word (back : Nat) : Nat := (words[back - 1]?).getD 0
    extend rounds
      ((stretch (word 16 ^^^ word 9 ^^^ turn 15 (word 3)) ^^^ turn 7 (word 13) ^^^ word 6) :: words)

/-- The eight words of state. -/
structure State where
  /-- The first word. -/
  a : Nat
  /-- The second word. -/
  b : Nat
  /-- The third word. -/
  c : Nat
  /-- The fourth word. -/
  d : Nat
  /-- The fifth word. -/
  e : Nat
  /-- The sixth word. -/
  f : Nat
  /-- The seventh word. -/
  g : Nat
  /-- The eighth word. -/
  h : Nat

/-- The words of a state. -/
def State.words (state : State) : List Nat :=
  [state.a, state.b, state.c, state.d, state.e, state.f, state.g, state.h]

/-- The state at the start. -/
def start : State :=
  ⟨0x7380166f, 0x4914b2b9, 0x172442d7, 0xda8a0600, 0xa96f30bc, 0x163138aa, 0xe38dee4d, 0xb0fb0e4e⟩

/-- One round, with a word and the one four words on. -/
def round (state : State) (i word later : Nat) : State :=
  let ⟨a, b, c, d, e, f, g, h⟩ := state
  let added := if i < 16 then 0x79cc4519 else 0x7a879d8a
  let both := turn 7 (wrap 32 (turn 12 a + e + turn i added))
  let mixed := if i < 16 then a ^^^ b ^^^ c else most a b c
  let chosen := if i < 16 then e ^^^ f ^^^ g else choose 32 e f g
  let first := wrap 32 (mixed + d + (both ^^^ turn 12 a) + (word ^^^ later))
  let second := wrap 32 (chosen + h + both + word)
  ⟨first, a, turn 9 b, c, spread second, e, turn 19 f, g⟩

/-- The state after a block. -/
def takeBlock (state : State) (block : List Nat) : State :=
  let words := (extend 52 block.reverse).reverse
  let after := ((words.zip (words.drop 4)).zipIdx).foldl
    (fun state ((word, later), i) ↦ round state i word later) state
  ⟨state.a ^^^ after.a, state.b ^^^ after.b, state.c ^^^ after.c, state.d ^^^ after.d,
    state.e ^^^ after.e, state.f ^^^ after.f, state.g ^^^ after.g, state.h ^^^ after.h⟩

/-- The digest of a message. -/
def digest (message : List Nat) : List Nat :=
  ((Order.mostFirst.blocks 4 message).foldl takeBlock start).words.flatMap
    (Order.mostFirst.octets 4)

end AlignmentTally.Digest.Sm3
