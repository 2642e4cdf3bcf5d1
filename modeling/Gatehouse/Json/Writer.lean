import Gatehouse.Bytes

/-!
# Writing JSON

Compact JSON, written as UTF-8 bytes: no blanks, members in the order given, and in strings an
escape for the quote, the backslash and the control characters only.
-/

namespace Gatehouse.Json.Write

/-- The written form of a byte of a string. -/
def stringByte (byte : UInt8) : Bytes :=
  match byte with
  | 34 => [92, 34]
  | 92 => [92, 92]
  | 8 => [92, 98]
  | 9 => [92, 116]
  | 10 => [92, 110]
  | 12 => [92, 102]
  | 13 => [92, 114]
  | byte =>
    if byte < 32 then
      [92, 117, 48, 48, Bytes.hexDigit (byte.toNat / 16), Bytes.hexDigit (byte.toNat % 16)]
    else [byte]

/-- A string between quotes. -/
def string (text : String) : Bytes :=
  34 :: ((utf8 text).flatMap stringByte ++ [34])

/-- The word `null`. -/
def null : Bytes := [110, 117, 108, 108]

/-- A value or `null`. -/
def optional {α : Type} (write : α → Bytes) : Option α → Bytes
  | none => null
  | some value => write value

/-- A truth value. -/
def boolean (value : Bool) : Bytes :=
  if value then [116, 114, 117, 101] else [102, 97, 108, 115, 101]

/-- A whole number. -/
def integer (value : Int) : Bytes :=
  utf8 (toString value)

/-- Written values with commas between them. -/
def separated : List Bytes → Bytes
  | [] => []
  | [value] => value
  | value :: rest => value ++ 44 :: separated rest

/-- A list of written values. -/
def list (values : List Bytes) : Bytes :=
  91 :: (separated values ++ [93])

/-- An object with written values. -/
def object (members : List (String × Bytes)) : Bytes :=
  123 :: (separated (members.map (fun (key, value) => string key ++ 58 :: value)) ++ [125])

end Gatehouse.Json.Write
