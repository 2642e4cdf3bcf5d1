import Gatehouse.Binary64

/-!
# Shortest decimal text of a number

The fewest decimal digits that round back to a number, the nearest to it among those, and the two
layouts in which they are written: positional between two powers of ten, with an exponent outside.
-/

namespace Gatehouse.Binary64

/-- The largest power of ten below or at a positive ratio, tried from `power` downwards. -/
def floorLog10From (num den : Nat) : Nat → Int → Int
  | 0, power => power
  | fuel + 1, power =>
    let reached :=
      if 0 ≤ power then den * Nat.pow 10 power.toNat ≤ num
      else den ≤ num * Nat.pow 10 (-power).toNat
    if reached then power else floorLog10From num den fuel (power - 1)

/-- Whether the decimal `digits * 10 ^ power` rounds to a size. -/
def readsBack (x : Binary64) (digits : Nat) (power : Int) : Bool :=
  let back :=
    if 0 ≤ power then ofRatio? (digits * Nat.pow 10 power.toNat) 1
    else ofRatio? digits (Nat.pow 10 (-power).toNat)
  back == some (x.withSign false)

/-- The first grid of `count` or more digits that holds a decimal which rounds to the size `x`,
and the nearest such decimal on it. Of two as near, it is the larger or the even one. The first
digit stands for `10 ^ top`. -/
def shortestFrom (tiesUp : Bool) (x : Binary64) (top : Int) : Nat → Nat → Nat × Int
  | 0, count => (0, top - count + 1)
  | fuel + 1, count =>
    let power := top - count + 1
    let (num, den) := x.toRatio
    let (n, d) :=
      if 0 ≤ power then (num, den * Nat.pow 10 power.toNat)
      else (num * Nat.pow 10 (-power).toNat, den)
    let low := n / d
    let nearest := if tiesUp && 2 * (n % d) == d then low + 1 else roundDiv n d
    let other := if nearest = low then low + 1 else low
    if x.readsBack nearest power then (nearest, power)
    else if x.readsBack other power then (other, power)
    else shortestFrom tiesUp x top fuel (count + 1)

/-- Takes trailing zeros off the digits. -/
def trimZeros : Nat → Nat → Int → Nat × Int
  | 0, digits, power => (digits, power)
  | fuel + 1, digits, power =>
    if digits ≠ 0 ∧ digits % 10 = 0 then trimZeros fuel (digits / 10) (power + 1)
    else (digits, power)

/-- The digits and the power of ten of their last place: the fewest digits that read back, and of
decimals with as many the nearest. -/
def shortest (tiesUp : Bool) (x : Binary64) : Nat × Int :=
  let (num, den) := x.toRatio
  if num = 0 then (0, 0)
  else
    let top := floorLog10From num den 640 310
    let (digits, power) := shortestFrom tiesUp x top 18 1
    trimZeros 20 digits power

/-- A layout of decimal digits: where it is positional, how an exponent is written, and which of two
decimals is taken that are as near. -/
structure Layout where
  /-- The least power of ten of a first digit that is written positionally. -/
  positionalFrom : Int
  /-- The largest power of ten of a first digit that is written positionally. -/
  positionalTo : Int
  /-- What stands before an exponent that is not negative. -/
  positiveExponent : String
  /-- The least number of digits of an exponent. -/
  exponentDigits : Nat
  /-- Whether of two decimals that are as near the larger is taken, and not the even one. -/
  tiesUp : Bool

/-- Digits in positional notation, with at least one digit on either side of the point. -/
def positional (digits : String) (power : Int) : String :=
  let count := digits.length
  if 0 ≤ power then digits ++ String.ofList (List.replicate power.toNat '0') ++ ".0"
  else
    let places := (-power).toNat
    if places < count then
      (digits.take (count - places)).toString ++ "." ++ (digits.drop (count - places)).toString
    else "0." ++ String.ofList (List.replicate (places - count) '0') ++ digits

/-- An exponent with its sign, and with zeros in front where it is short of digits. -/
def exponentText (layout : Layout) (power : Int) : String :=
  let digits := toString power.natAbs
  let zeros := String.ofList (List.replicate (layout.exponentDigits - digits.length) '0')
  (if 0 ≤ power then layout.positiveExponent else "-") ++ zeros ++ digits

/-- Digits with an exponent, the point after the first digit if there is a second. -/
def scientific (layout : Layout) (digits : String) (top : Int) : String :=
  let head := (digits.take 1).toString
  let tail := (digits.drop 1).toString
  (if tail.isEmpty then head else head ++ "." ++ tail) ++ "e" ++ exponentText layout top

/-- The text of a number in a layout. -/
def text (layout : Layout) (x : Binary64) : String :=
  let sign := if x.negative then "-" else ""
  let (value, power) := x.shortest layout.tiesUp
  let digits := toString value
  let top := power + digits.length - 1
  if value = 0 then sign ++ "0.0"
  else if layout.positionalFrom ≤ top ∧ top ≤ layout.positionalTo then
    sign ++ positional digits power
  else sign ++ scientific layout digits top

end Gatehouse.Binary64
