import AlignmentTally.Digest.Sha

/-!
# Digests that mix a block in columns and diagonals

A digest with eight words of 64 bits of state. A block is mixed into sixteen words in twelve rounds,
each of which takes the words of the block in another order.
-/

namespace AlignmentTally.Digest.Blake2

/-- The orders in which the words of a block are taken. -/
def orders : List (List Nat) := [
  [0, 1, 2, 3, 4, 5, 6, 7, 8, 9, 10, 11, 12, 13, 14, 15],
  [14, 10, 4, 8, 9, 15, 13, 6, 1, 12, 0, 2, 11, 7, 5, 3],
  [11, 8, 12, 0, 5, 2, 15, 13, 10, 14, 3, 6, 7, 1, 9, 4],
  [7, 9, 3, 1, 13, 12, 11, 14, 2, 6, 5, 10, 4, 0, 15, 8],
  [9, 0, 5, 7, 2, 4, 10, 15, 14, 1, 11, 12, 6, 8, 3, 13],
  [2, 12, 6, 10, 0, 11, 8, 3, 4, 13, 7, 5, 15, 14, 1, 9],
  [12, 5, 1, 15, 14, 13, 4, 10, 0, 7, 6, 3, 9, 2, 8, 11],
  [13, 11, 7, 14, 12, 1, 3, 9, 5, 0, 15, 4, 8, 6, 2, 10],
  [6, 15, 14, 9, 11, 3, 0, 8, 12, 2, 13, 7, 1, 4, 10, 5],
  [10, 2, 8, 4, 7, 6, 1, 5, 15, 11, 9, 14, 3, 12, 13, 0]]

/-- The four columns and the four diagonals of the sixteen words. -/
def quarters : List (Nat × Nat × Nat × Nat) :=
  [(0, 4, 8, 12), (1, 5, 9, 13), (2, 6, 10, 14), (3, 7, 11, 15),
    (0, 5, 10, 15), (1, 6, 11, 12), (2, 7, 8, 13), (3, 4, 9, 14)]

/-- The words at the start: those of the digest of 512 bits. -/
def start : List Nat := (Sha2.primes.take 8).map (Sha2.squareRootBits 64)

/-- Mixes two words of a block into four words. -/
def mix (words : Array Nat) (places : Nat × Nat × Nat × Nat) (x y : Nat) : Array Nat :=
  let (i, j, k, l) := places
  let at_ (n : Nat) : Nat := (words[n]?).getD 0
  let half (a b c d x right left : Nat) : Nat × Nat × Nat × Nat :=
    let a := wrap 64 (a + b + x)
    let d := turnRight 64 right (d ^^^ a)
    let c := wrap 64 (c + d)
    (a, turnRight 64 left (b ^^^ c), c, d)
  let (a, b, c, d) := half (at_ i) (at_ j) (at_ k) (at_ l) x 32 24
  let (a, b, c, d) := half a b c d y 16 63
  (((words.setIfInBounds i a).setIfInBounds j b).setIfInBounds k c).setIfInBounds l d

/-- One round, which takes the words of a block in an order. -/
def round (block words : Array Nat) (order : List Nat) : Array Nat :=
  let taken := pieces 2 (order.map fun n ↦ (block[n]?).getD 0)
  (quarters.zip taken).foldl
    (fun words (places, pair) ↦ mix words places (pair.headD 0) ((pair[1]?).getD 0)) words

/-- The state after a block, with which some octets were taken in all. -/
def takeBlock (state block : List Nat) (taken : Nat) (isLast : Bool) : List Nat :=
  let last := if isLast then (1 <<< 64) - 1 else 0
  let marks := [0, 0, 0, 0, wrap 64 taken, taken >>> 64, last, 0]
  let words := state ++ List.zipWith (fun a b ↦ a ^^^ b) start marks
  let words := (orders ++ orders.take 2).foldl (round block.toArray) words.toArray |>.toList
  List.zipWith (fun a b ↦ a ^^^ b) state
    (List.zipWith (fun a b ↦ a ^^^ b) (words.take 8) (words.drop 8))

/-- The state after blocks of octets, some octets having been taken before. -/
def takeBlocks : List Nat → Nat → List (List Nat) → List Nat
  | state, _, [] => state
  | state, taken, block :: rest =>
    let taken := taken + block.length
    let filled := block ++ List.replicate (128 - block.length) 0
    takeBlocks (takeBlock state (Order.leastFirst.words 8 filled) taken rest.isEmpty) taken rest

/-- The digest of some octets of a message. -/
def digest (length : Nat) (message : List Nat) : List Nat :=
  let first := match start with
    | word :: rest => (word ^^^ 0x01010000 ^^^ length) :: rest
    | [] => []
  let blocks := if message.isEmpty then [[]] else pieces 128 message
  (takeBlocks first 0 blocks).flatMap (Order.leastFirst.octets 8) |>.take length

end AlignmentTally.Digest.Blake2
