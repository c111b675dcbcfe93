import AlignmentTally.Digest.Word

/-!
# Sums of octets

Short numbers that tell whether octets have changed: the rest of a division of polynomials, and two
sums of sixteen bits.
-/

namespace AlignmentTally.Digest.Sum

/-- The polynomial by which is divided, without its highest term. -/
def polynomial : Nat := 0x04c11db7

/-- The rest after some more bits. -/
def shift : Nat → Nat → Nat
  | 0, rest => rest
  | bits + 1, rest =>
    let next := wrap 32 (rest <<< 1)
    shift bits (if rest.testBit 31 then next ^^^ polynomial else next)

/-- The rests after each octet that comes first. -/
def table : Array Nat := (Array.range 256).map fun octet ↦ shift 8 (octet <<< 24)

/-- The rest after one more octet. -/
def step (rest octet : Nat) : Nat :=
  wrap 32 (rest <<< 8) ^^^ (table[(rest >>> 24) ^^^ octet]?).getD 0

/-- The octets of a number up to its last one that is not zero, the least significant one first. -/
def shortOctets : Nat → Nat → List Nat
  | 0, _ => []
  | rounds + 1, n => if n = 0 then [] else n % 256 :: shortOctets rounds (n / 256)

/-- The rest of the octets of a message and of its length, with all bits exchanged. -/
def cyclic (message : List Nat) : Nat :=
  let rest := message.foldl step 0
  flip 32 ((shortOctets message.length message.length).foldl step rest)

/-- The sum of octets that is turned right by a bit before each of them. -/
def turning (message : List Nat) : Nat :=
  message.foldl (fun sum octet ↦ wrap 16 (turnRight 16 1 sum + octet)) 0

/-- The sum of octets, what exceeds sixteen bits being added to it. -/
def plain (message : List Nat) : Nat :=
  let sum := wrap 32 (message.foldl (· + ·) 0)
  let folded := sum % 65536 + sum / 65536
  folded % 65536 + folded / 65536

end AlignmentTally.Digest.Sum
