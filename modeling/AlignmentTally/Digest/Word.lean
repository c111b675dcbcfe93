/-!
# Words of digests

A digest works on words of some bits, which it adds, turns and combines bit by bit. A message is
filled up to whole blocks before it is cut into words: an octet that marks its end, zeros, and its
length in bits.
-/

namespace AlignmentTally.Digest

/-- What is left of a number in some bits. -/
def wrap (width n : Nat) : Nat := n % (1 <<< width)

/-- A word turned left by some bits. -/
def turnLeft (width bits word : Nat) : Nat :=
  wrap width (word <<< bits) ||| word >>> (width - bits)

/-- A word turned right by some bits. -/
def turnRight (width bits word : Nat) : Nat := turnLeft width (width - bits) word

/-- A word with all bits exchanged. -/
def flip (width word : Nat) : Nat := (1 <<< width) - 1 - word

/-- The number that octets write, the most significant one first. -/
def ofOctets (octets : List Nat) : Nat := octets.foldl (fun n octet ↦ n * 256 + octet) 0

/-- The octets of a number, the least significant one first. -/
def toOctets : Nat → Nat → List Nat
  | 0, _ => []
  | count + 1, n => n % 256 :: toOctets count (n / 256)

/-- The order of the octets in a word. -/
inductive Order where
  /-- The most significant octet is the first one. -/
  | mostFirst
  /-- The least significant octet is the first one. -/
  | leastFirst
  deriving DecidableEq, Repr

/-- Octets in the order from the most to the least significant one, or back. -/
def Order.arrange (order : Order) (octets : List Nat) : List Nat :=
  match order with
  | .mostFirst => octets
  | .leastFirst => octets.reverse

/-- The word that octets are. -/
def Order.word (order : Order) (octets : List Nat) : Nat := ofOctets (order.arrange octets)

/-- The octets of a word. -/
def Order.octets (order : Order) (count word : Nat) : List Nat :=
  order.arrange (toOctets count word).reverse

/-- A list in pieces of some length, in at most some rounds. -/
def piecesFrom {α : Type} (length : Nat) : Nat → List α → List (List α)
  | 0, _ => []
  | rounds + 1, list =>
    if list.isEmpty then [] else list.take length :: piecesFrom length rounds (list.drop length)

/-- A list in pieces of some length. -/
def pieces {α : Type} (length : Nat) (list : List α) : List (List α) :=
  piecesFrom length list.length list

/-- The words that octets are. -/
def Order.words (order : Order) (octetsPerWord : Nat) (octets : List Nat) : List Nat :=
  (pieces octetsPerWord octets).map order.word

/-- A message filled up to blocks of some words of some octets, with its length in two words. -/
def Order.filled (order : Order) (wordsPerBlock octetsPerWord : Nat) (message : List Nat) :
    List Nat :=
  let block := wordsPerBlock * octetsPerWord
  let used := message.length + 1 + 2 * octetsPerWord
  let zeros := (block - used % block) % block
  message ++ 128 :: List.replicate zeros 0 ++
    order.octets (2 * octetsPerWord) (8 * message.length)

/-- The words of the blocks of a message. -/
def Order.blocks (order : Order) (octetsPerWord : Nat) (message : List Nat) : List (List Nat) :=
  (pieces (16 * octetsPerWord) (order.filled 16 octetsPerWord message)).map
    (order.words octetsPerWord)

/-- Chosen bits: where the first word has a one those of the second, elsewhere those of the third. -/
def choose (width x y z : Nat) : Nat := x &&& y ||| flip width x &&& z

/-- The bits that most of three words have. -/
def most (x y z : Nat) : Nat := x &&& y ||| x &&& z ||| y &&& z

/-- Words added one by one. -/
def addEach (width : Nat) (a b : List Nat) : List Nat :=
  List.zipWith (fun x y ↦ wrap width (x + y)) a b

end AlignmentTally.Digest
