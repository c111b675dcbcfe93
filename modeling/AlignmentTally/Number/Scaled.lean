import AlignmentTally.Number.Binary64

/-!
# Numbers with a unit

A large number is shown in the largest unit that leaves at least one, with one place if less than ten
of them are left. The units are the powers of 1000 or of 1024.
-/

namespace AlignmentTally

/-- A number in a unit. -/
structure Scaled where
  /-- How many units there are. -/
  amount : Nat
  /-- The tenths that are shown. -/
  tenths : Option Nat
  /-- The power of the base that the unit is. -/
  exponent : Nat
  deriving DecidableEq, Repr

namespace Scaled

/-- The greatest power of the units. -/
def maxExponent : Nat := 8

/-- A quotient, rounded up or to the nearest number, a tie to the even one. -/
def rounded (ceils : Bool) (num den : Nat) : Nat :=
  if ceils then (num + den - 1) / den else roundQuotient num den

/-- A quotient in its unit, a power of a base that is at most some power. -/
def ofQuotient (ceils : Bool) (base num : Nat) : (most exponent den : Nat) → Scaled
  | 0, exponent, den => ⟨rounded ceils num den, none, exponent⟩
  | most + 1, exponent, den =>
    if base * den ≤ num then ofQuotient ceils base num most (exponent + 1) (den * base)
    else
      let tenths := rounded ceils (num * 10) den
      if exponent ≠ 0 ∧ tenths < 100 then ⟨tenths / 10, some (tenths % 10), exponent⟩
      else
        let amount := rounded ceils num den
        if amount = base then ⟨1, some 0, exponent + 1⟩ else ⟨amount, none, exponent⟩

/-- The digits. -/
def digits (scaled : Scaled) : List Char :=
  Nat.toDigits 10 scaled.amount ++
    scaled.tenths.elim [] fun tenths ↦ '.' :: Nat.toDigits 10 tenths

/-- The letter of the unit, if it is not one. A thousand has a small one. -/
def letter? (scaled : Scaled) (smallThousand : Bool) : Option Char :=
  match scaled.exponent with
  | 0 => none
  | 1 => some (if smallThousand then 'k' else 'K')
  | n + 2 => "MGTPEZYRQ".toList[n]?

end Scaled

end AlignmentTally
