/-!
# Binary floating-point numbers of 64 bits

The finite numbers of the 64-bit format, as a whole number times a power of two, with exact
arithmetic followed by one rounding to the nearest number, ties to the even one. Numbers too large
for the format are refused rather than turned into infinity.
-/

namespace Gatehouse

/-- A finite number of the format: `mantissa * 2 ^ exponent`, with a sign that zero has too. The
mantissa is below 2⁵³, and at least 2⁵² unless the exponent is the least one. -/
structure Binary64 where
  /-- Whether the sign is minus. -/
  negative : Bool
  /-- The whole number that is scaled. -/
  mantissa : Nat
  /-- The power of two, between -1074 and 971. -/
  exponent : Int
  deriving DecidableEq, Repr

namespace Binary64

/-- The least exponent. -/
def leastExponent : Int := -1074

/-- The largest exponent. -/
def largestExponent : Int := 971

/-- Zero with the sign plus. -/
def zero : Binary64 := ⟨false, 0, leastExponent⟩

/-- The quotient rounded to the nearest whole number, ties to the even one. -/
def roundDiv (num den : Nat) : Nat :=
  let quotient := num / den
  let twice := 2 * (num % den)
  if twice < den then quotient
  else if den < twice then quotient + 1
  else if quotient % 2 = 0 then quotient
  else quotient + 1

/-- The numerator and denominator of a ratio divided by a power of two. -/
def scaleDown (num den : Nat) (power : Int) : Nat × Nat :=
  if 0 ≤ power then (num, den * Nat.pow 2 power.toNat) else (num * Nat.pow 2 (-power).toNat, den)

/-- The power of two that a positive ratio reaches: the largest with `2 ^ power ≤ num / den`. -/
def floorLog2 (num den : Nat) : Int :=
  let guess : Int := (Nat.log2 num : Int) - (Nat.log2 den : Int)
  let (n, d) := scaleDown num den guess
  if d ≤ n then guess else guess - 1

/-- The number nearest to the ratio of two whole numbers, if the format reaches so far. -/
def ofRatio? (num den : Nat) : Option Binary64 :=
  if num = 0 then some zero
  else
    let exponent := max leastExponent (floorLog2 num den - 52)
    let (n, d) := scaleDown num den exponent
    let mantissa := roundDiv n d
    let (mantissa, exponent) :=
      if mantissa = Nat.pow 2 53 then (Nat.pow 2 52, exponent + 1) else (mantissa, exponent)
    if largestExponent < exponent then none else some ⟨false, mantissa, exponent⟩

/-- The size of a number as a ratio of whole numbers. -/
def toRatio (x : Binary64) : Nat × Nat :=
  if 0 ≤ x.exponent then (x.mantissa * Nat.pow 2 x.exponent.toNat, 1)
  else (x.mantissa, Nat.pow 2 (-x.exponent).toNat)

/-- The number nearest to a whole number below 2⁶⁴. -/
def ofNat (n : Nat) : Binary64 := (ofRatio? n 1).getD zero

/-- The product of two sizes. -/
def mul? (x y : Binary64) : Option Binary64 :=
  let (xn, xd) := x.toRatio
  let (yn, yd) := y.toRatio
  ofRatio? (xn * yn) (xd * yd)

/-- The quotient of two sizes, the second not zero. -/
def div? (x y : Binary64) : Option Binary64 :=
  let (xn, xd) := x.toRatio
  let (yn, yd) := y.toRatio
  ofRatio? (xn * yd) (xd * yn)

/-- The sum of two sizes. -/
def add? (x y : Binary64) : Option Binary64 :=
  let (xn, xd) := x.toRatio
  let (yn, yd) := y.toRatio
  ofRatio? (xn * yd + yn * xd) (xd * yd)

/-- The power of ten nearest to `10 ^ n`, for `n` up to 308. -/
def tenPow (n : Nat) : Binary64 := (ofRatio? (Nat.pow 10 n) 1).getD zero

/-- Gives a size a sign. -/
def withSign (negative : Bool) (x : Binary64) : Binary64 := { x with negative }

end Binary64

end Gatehouse
