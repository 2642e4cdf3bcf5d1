import Gatehouse.Json.Reader

/-!
# Numbers in JSON

A number without a point and an exponent is exact as long as it fits 64 bits; every other number is
a binary floating-point number, found from the digits that fit 64 bits and a power of ten with one
rounding of each and one of their product or quotient.
-/

namespace Gatehouse.Json

/-- A number as it is read. -/
inductive Number where
  /-- A whole number from 0 to 2⁶⁴ - 1. -/
  | natural (value : Nat)
  /-- A whole number from -2⁶³ to -1. -/
  | negative (value : Int)
  /-- Any other number. -/
  | float (value : Binary64)

/-- What a number is called where something else is expected. -/
def Number.found : Number → Found
  | natural value => .integer value
  | negative value => .integer value
  | float value => .float value

namespace Reader

/-- Whether a byte is a decimal digit. -/
def isDigit (byte : UInt8) : Bool := 48 ≤ byte && byte ≤ 57

/-- Takes digits into a significand for as long as it fits 64 bits, and counts them. The last part
says whether a digit is left that did not fit. -/
def significandDigits : Nat → Nat → Bytes → Nat × Nat × Bytes × Bool
  | value, count, [] => (value, count, [], false)
  | value, count, byte :: rest =>
    if isDigit byte then
      let grown := 10 * value + (byte.toNat - 48)
      if 0x10000000000000000 ≤ grown then (value, count, byte :: rest, true)
      else significandDigits grown (count + 1) rest
    else (value, count, byte :: rest, false)

/-- Takes the digits that come next into a significand. -/
def significand (value : Nat) : Reader (Nat × Nat × Bool) := fun input =>
  let (value, count, rest, full) := significandDigits value 0 input
  .ok (value, count, full) rest

/-- Passes digits, and counts them. -/
def passDigits : Reader Nat := fun input =>
  let digits := input.takeWhile isDigit
  .ok digits.length (input.drop digits.length)

/-- Scales a size by a power of ten, in steps of at most 308. -/
def scaled : Nat → Binary64 → Int → Reader Binary64
  | 0, value, _ => pure value
  | fuel + 1, value, power =>
    if power.natAbs ≤ 308 then
      let scale := Binary64.tenPow power.natAbs
      if 0 ≤ power then
        match value.mul? scale with
        | some product => pure product
        | none => fail .numberOutOfRange
      else pure ((value.div? scale).getD .zero)
    -- What is left is far beyond the range on one side or the other.
    else if value.mantissa = 0 then pure value
    else if 0 ≤ power then fail .numberOutOfRange
    else scaled fuel ((value.div? (Binary64.tenPow 308)).getD .zero) (power + 308)

/-- The number of a sign, a significand and a power of ten. -/
def floatOfParts (negative : Bool) (value : Nat) (power : Int) : Reader Binary64 := do
  let size ← scaled 8 (Binary64.ofNat value) power
  pure (size.withSign negative)

/-- Takes the digits of an exponent for as long as it is below 2³¹. The last part says whether a
digit has been taken that did not fit. -/
def exponentDigits : Nat → Bytes → Nat × Bytes × Bool
  | value, [] => (value, [], false)
  | value, byte :: rest =>
    if isDigit byte then
      let grown := 10 * value + (byte.toNat - 48)
      if 0x80000000 ≤ grown then (value, rest, true) else exponentDigits grown rest
    else (value, byte :: rest, false)

/-- Reads an exponent from its letter on, and gives the number. -/
def exponent (negative : Bool) (value : Nat) (power : Int) : Reader Binary64 := do
  advance
  let sign ← peek
  if sign = some 43 ∨ sign = some 45 then advance
  let down := sign = some 45
  match ← next with
  | none => fail .endInValue
  | some byte =>
    if !isDigit byte then fail .invalidNumber
    else
      let rest ← remaining
      let (size, rest, huge) := exponentDigits (byte.toNat - 48) rest
      (fun _ => .ok () rest)
      if huge then
        if value ≠ 0 ∧ ¬ down then fail .numberOutOfRange
        else
          discard passDigits
          pure (Binary64.zero.withSign negative)
      else floatOfParts negative value (if down then power - size else power + size)

/-- Reads an exponent if there is one, and gives the number. -/
def exponentOrEnd (negative : Bool) (value : Nat) (power : Int) : Reader Binary64 := do
  let byte ← peek
  if byte = some 101 ∨ byte = some 69 then exponent negative value power
  else floatOfParts negative value power

/-- Reads a fraction from its point on, and gives the number. -/
def fraction (negative : Bool) (value : Nat) (power : Int) : Reader Binary64 := do
  advance
  let (value, count, full) ← significand value
  if full then
    discard passDigits
    exponentOrEnd negative value (power - count)
  else if count = 0 then
    match ← peek with
    | some _ => failNext .invalidNumber
    | none => failNext .endInValue
  else exponentOrEnd negative value (power - count)

/-- Reads the rest of a number whose digits before the point have been read, `power` of them
without a place in the significand. -/
def afterDigits (negative : Bool) (value : Nat) (power : Int) (exact : Option Number) :
    Reader Number := do
  let byte ← peek
  if byte = some 46 then Number.float <$> fraction negative value power
  else if byte = some 101 ∨ byte = some 69 then Number.float <$> exponent negative value power
  else
    match exact with
    | some number => pure number
    | none => Number.float <$> floatOfParts negative value power

/-- The exact number of a sign and a significand: minus zero and what lies below -2⁶³ have
none. -/
def exactNumber? (negative : Bool) (value : Nat) : Option Number :=
  if !negative then some (.natural value)
  else if value = 0 ∨ 0x8000000000000000 < value then none
  else some (.negative (-(value : Int)))

/-- Reads a number behind its sign. -/
def unsigned (negative : Bool) : Reader Number := do
  match ← next with
  | none => fail .endInValue
  | some byte =>
    if byte = 48 then
      let digit ← peek
      if digit.any isDigit then failNext .invalidNumber
      else afterDigits negative 0 0 (exactNumber? negative 0)
    else if isDigit byte then
      let (value, _, full) ← significand (byte.toNat - 48)
      if full then
        let count ← passDigits
        afterDigits negative value count none
      else afterDigits negative value 0 (exactNumber? negative value)
    else fail .invalidNumber

/-- Reads a number. -/
def number : Reader Number := do
  if (← peek) = some 45 then
    advance
    unsigned true
  else unsigned false

/-- Passes an exponent from its letter on. -/
def passExponent : Reader Unit := do
  advance
  let sign ← peek
  if sign = some 43 ∨ sign = some 45 then advance
  let digit ← next
  if digit.any isDigit then discard passDigits else fail .invalidNumber

/-- Passes an exponent if there is one. -/
def passExponentOrEnd : Reader Unit := do
  let byte ← peek
  if byte = some 101 ∨ byte = some 69 then passExponent

/-- Passes a number. -/
def passNumber : Reader Unit := do
  if (← peek) = some 45 then advance
  match ← next with
  | some 48 =>
    let digit ← peek
    if digit.any isDigit then failNext .invalidNumber
  | some byte => if isDigit byte then discard passDigits else fail .invalidNumber
  | none => fail .invalidNumber
  if (← peek) = some 46 then
    advance
    let count ← passDigits
    if count = 0 then failNext .invalidNumber
  passExponentOrEnd

end Reader

end Gatehouse.Json
