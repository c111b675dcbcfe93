import AlignmentTally.Number.Binary64

/-!
# The shortest decimal text of a binary64 magnitude

A decimal *reads back* as a magnitude when it lies in the interval of numbers that round to it;
the ends belong to the interval exactly when the significand is even. Among the decimals that
read back, the text shows one with the fewest digits, of those the nearest, and of two equally
near ones the even one.

For each number of digits only the two neighbours of the magnitude on that decimal grid have to
be tried: if a point of the grid lies in the interval, so does one of them. Seventeen digits
always suffice.
-/

namespace AlignmentTally

/-- The decimal number `digits · 10 ^ exponent`. -/
structure Decimal where
  /-- All digits, as one natural number. -/
  digits : Nat
  /-- The power of ten. -/
  exponent : Int
  deriving DecidableEq, Repr, Inhabited

namespace Binary64

/-- The number of decimal digits of a natural number. -/
def digitCount (n : Nat) : Nat := (Nat.toDigits 10 n).length

/-- The greatest `e` with `10 ^ e ≤ num / den`, for positive `num` and `den`. -/
def floorLog10 (num den : Nat) : Int :=
  if den ≤ num then digitCount (num / den) - 1
  else
    let places := digitCount (den / num)
    if den ≤ num * tenTo (places - 1) then 1 - (places : Int) else -places

/-- The interval of numbers that round to a magnitude, in quarters of its unit in the last place:
the magnitude itself is `4 · significand`. Below a power of two the spacing halves. -/
structure ReadBack where
  /-- The lower end. -/
  lower : Nat
  /-- The upper end. -/
  upper : Nat
  /-- Whether the ends belong to the interval. -/
  closed : Bool

/-- The interval of numbers that round to `x`. -/
def readBack (x : Binary64) : ReadBack where
  lower :=
    if x.significand = 1 <<< 52 ∧ minExponent < x.exponent then 4 * x.significand - 1
    else 4 * x.significand - 2
  upper := 4 * x.significand + 2
  closed := x.significand % 2 = 0

/-- Whether `num / den`, in quarters of the unit in the last place, lies in the interval. -/
def ReadBack.contains (interval : ReadBack) (num den : Nat) : Bool :=
  if interval.closed then interval.lower * den ≤ num && num ≤ interval.upper * den
  else interval.lower * den < num && num < interval.upper * den

/-- The decimal with `count` digits that reads back as `x` and is nearest to it, if one does. -/
def withDigits? (x : Binary64) (count : Nat) : Option Decimal :=
  let grid := floorLog10 x.num x.den - count + 1
  -- the magnitude in units of the grid
  let num := x.num * tenTo (-grid).toNat
  let den := x.den * tenTo grid.toNat
  let below := num / den
  -- a point of the grid, in quarters of the unit in the last place
  let quarters := fun n ↦ ((4 * n * tenTo grid.toNat) <<< (-x.exponent).toNat,
    tenTo (-grid).toNat <<< x.exponent.toNat)
  let hit := fun n ↦ x.readBack.contains (quarters n).1 (quarters n).2
  let nearer := roundQuotient num den
  let other := if nearer = below then below + 1 else below
  -- the neighbour above may be the next power of ten, which has a single digit
  let decimal := fun n ↦ if n = tenTo count then ⟨1, grid + count⟩ else ⟨n, grid⟩
  if hit nearer then some (decimal nearer)
  else if hit other then some (decimal other)
  else none

/-- The decimal with the fewest digits that reads back as `x`, for `x` above zero. -/
def shortest (x : Binary64) : Decimal :=
  ((List.range' 1 17).findSome? (withDigits? x)).getD ⟨x.significand, x.exponent⟩

end Binary64

/-! ### Layout -/

/-- How a decimal is laid out. -/
structure DecimalLayout where
  /-- The least power of ten of the first digit that is written positionally. -/
  minPositional : Int
  /-- The greatest power of ten of the first digit that is written positionally. -/
  maxPositional : Int

namespace DecimalLayout

/-- Writes a decimal: positionally, with at least one digit on each side of the point, or as
digits with a point after the first one and a signed power of ten. -/
def write (layout : DecimalLayout) (number : Decimal) : List Char :=
  let digits := Nat.toDigits 10 number.digits
  let power : Int := number.exponent + digits.length - 1
  if layout.minPositional ≤ power ∧ power ≤ layout.maxPositional then
    if power < 0 then
      "0.".toList ++ List.replicate (-power - 1).toNat '0' ++ digits
    else
      let whole := power.toNat + 1
      let fraction := digits.drop whole
      digits.take whole ++ List.replicate (whole - digits.length) '0' ++ '.' ::
        (if fraction.isEmpty then ['0'] else fraction)
  else
    let sign := if power < 0 then '-' else '+'
    let fraction := digits.drop 1
    digits.take 1 ++ (if fraction.isEmpty then [] else '.' :: fraction) ++
      'e' :: sign :: Nat.toDigits 10 power.natAbs

end DecimalLayout

end AlignmentTally
