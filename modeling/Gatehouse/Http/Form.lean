import Gatehouse.Bytes

/-!
# Forms

Pairs of texts as the body of a request: names and values with their bytes escaped, joined by equals
signs and ampersands.
-/

namespace Gatehouse.Http.Form

/-- The type of a body that is a form. -/
def mediaType : String := "application/x-www-form-urlencoded"

/-- Whether a byte stands for itself: a letter, a digit, an asterisk, a hyphen, a dot or an
underscore. -/
def isBare (byte : UInt8) : Bool :=
  (48 ≤ byte && byte ≤ 57) || (65 ≤ byte && byte ≤ 90) || (97 ≤ byte && byte ≤ 122) ||
    [42, 45, 46, 95].contains byte

/-- The byte of a hexadecimal digit's value, in upper case. -/
def upperDigit (value : Nat) : UInt8 :=
  if value < 10 then (48 + value).toUInt8 else (55 + value).toUInt8

/-- Escapes a byte that does not stand for itself: a blank as a plus sign, any other byte as a
percent sign and two digits. -/
def escapeByte (byte : UInt8) : Bytes :=
  if isBare byte then [byte]
  else if byte = 32 then [43]
  else [37, upperDigit (byte.toNat / 16), upperDigit (byte.toNat % 16)]

/-- Escapes a text. -/
def escape (text : String) : Bytes := (utf8 text).flatMap escapeByte

/-- The body that holds pairs of names and values. -/
def encode (pairs : List (String × String)) : Bytes :=
  [38].intercalate (pairs.map (fun (name, value) => escape name ++ 61 :: escape value))

end Gatehouse.Http.Form
