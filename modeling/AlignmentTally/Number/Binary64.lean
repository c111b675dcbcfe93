/-!
# Magnitudes in binary64

A finite binary64 magnitude is `significand · 2 ^ exponent` with a significand below `2 ^ 53` and
an exponent of at least `-1074`; it is normalised when the significand is at least `2 ^ 52` or the
exponent is `-1074`. Rounding takes a quotient of natural numbers to the nearest such magnitude,
a tie to the even significand, and refuses a quotient too large for the format. Products and
quotients of magnitudes are exact fractions, rounded once.

Everything is arithmetic on natural numbers, so each value can be computed in a proof.
-/

namespace AlignmentTally

/-- The magnitude `significand · 2 ^ exponent`. -/
structure Binary64 where
  /-- The integral significand, below `2 ^ 53`. -/
  significand : Nat
  /-- The power of two, at least `-1074`. -/
  exponent : Int
  deriving DecidableEq, Repr, Inhabited

/-- The power of ten `10 ^ n`. -/
def tenTo (n : Nat) : Nat := Nat.pow 10 n

/-- The quotient `num / den` as the nearest natural number, a half to the even neighbour. -/
def roundQuotient (num den : Nat) : Nat :=
  let whole := num / den
  let twice := 2 * (num % den)
  if twice < den then whole
  else if den < twice then whole + 1
  else whole + whole % 2

namespace Binary64

/-- The exponent of the least magnitude above zero. -/
def minExponent : Int := -1074

/-- The exponent of the greatest magnitudes. -/
def maxExponent : Int := 971

/-- Zero. -/
def zero : Binary64 := ⟨0, minExponent⟩

/-- The greatest `e` with `2 ^ e ≤ num / den`, for positive `num` and `den`. -/
def floorLog2 (num den : Nat) : Int :=
  let up := num.log2
  let down := den.log2
  if den <<< (up - down) ≤ num <<< (down - up) then (up : Int) - down else (up : Int) - down - 1

/-- The magnitude nearest to `num / den`, a tie to the even significand; `none` when that lies
beyond the format. -/
def nearest? (num den : Nat) : Option Binary64 :=
  if num = 0 then some zero
  else
    let exponent := max minExponent (floorLog2 num den - 52)
    let significand := roundQuotient (num <<< (-exponent).toNat) (den <<< exponent.toNat)
    let rounded : Binary64 :=
      if significand = 1 <<< 53 then ⟨1 <<< 52, exponent + 1⟩ else ⟨significand, exponent⟩
    if rounded.exponent ≤ maxExponent then some rounded else none

/-- The numerator of a magnitude as a fraction. -/
def num (x : Binary64) : Nat := x.significand <<< x.exponent.toNat

/-- The denominator of a magnitude as a fraction, a power of two. -/
def den (x : Binary64) : Nat := 1 <<< (-x.exponent).toNat

/-- The magnitude nearest to a natural number. -/
def ofNat? (n : Nat) : Option Binary64 := nearest? n 1

/-- The product, rounded once. -/
def mul? (x y : Binary64) : Option Binary64 := nearest? (x.num * y.num) (x.den * y.den)

/-- The quotient by a magnitude other than zero, rounded once. -/
def div? (x y : Binary64) : Option Binary64 := nearest? (x.num * y.den) (x.den * y.num)

end Binary64

end AlignmentTally
