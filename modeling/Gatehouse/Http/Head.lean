import Gatehouse.Http.Message

/-!
# Heads of messages

The lines in front of a body: each field is a name, a colon and a value, and an empty line ends
them. Blanks around a value do not belong to it.
-/

namespace Gatehouse.Http.Head

/-- The largest number of fields. -/
def mostFields : Nat := 100

/-- Why a head cannot be read. -/
inductive Fault where
  /-- It is not well formed, or it does not end. -/
  | malformed
  /-- It has too many fields. -/
  | tooManyFields
  /-- Its target is too long. -/
  | targetTooLong
  deriving DecidableEq, Repr

/-- Whether a byte may stand in a name. -/
def isToken (byte : UInt8) : Bool :=
  (48 ≤ byte && byte ≤ 57) || (65 ≤ byte && byte ≤ 90) || (97 ≤ byte && byte ≤ 122) ||
    (utf8 "!#$%&'*+-.^_`|~").contains byte

/-- Whether a byte may stand in a value. -/
def isValueByte (byte : UInt8) : Bool := byte == 9 || (32 ≤ byte && byte != 127)

/-- Whether a byte is a blank between the parts of a line. -/
def isBlank (byte : UInt8) : Bool := byte == 32 || byte == 9

/-- A value without the blanks around it. -/
def trimmed (value : Bytes) : Bytes := Text.strip isBlank value

/-- Takes a line off the front of the input. It ends in a line feed, and a carriage return before
that belongs to the end. -/
def takeLine (input : Bytes) : Option (Bytes × Bytes) :=
  let line := input.takeWhile (· != 10)
  match input.drop line.length with
  | _ :: rest => some (if line.getLast? == some 13 then line.dropLast else line, rest)
  | [] => none

/-- Reads the field in a line. -/
def field? (line : Bytes) : Option (String × Bytes) :=
  let name := line.takeWhile isToken
  match line.drop name.length with
  | 58 :: value =>
    let value := trimmed value
    if !name.isEmpty && value.all isValueByte then some (Bytes.asciiText name, value) else none
  | _ => none

/-- Reads at most `count` fields and the empty line behind them, and gives what follows as well. -/
def fields : Nat → Bytes → Except Fault (List (String × Bytes) × Bytes)
  | count, input =>
    match takeLine input with
    | none => .error .malformed
    | some ([], rest) => .ok ([], rest)
    | some (line, rest) =>
      match count, field? line with
      | _, none => .error .malformed
      | 0, some _ => .error .tooManyFields
      | count + 1, some found => do
        let (others, rest) ← fields count rest
        return (found :: others, rest)

/-- The number in the digits of a value. -/
def digits? (value : Bytes) : Option Nat :=
  if value.isEmpty || !value.all (fun byte => 48 ≤ byte && byte ≤ 57) then none
  else
    let number := value.foldl (fun number byte => 10 * number + (byte.toNat - 48)) 0
    if number < 0x10000000000000000 then some number else none

/-- Parts of a value between commas, without the blanks around them. -/
def listed (value : Bytes) : List Bytes := (value.splitOn 44).map trimmed

/-- The values of all fields of a name, which is given in lower case. -/
def values (name : String) (fields : List (String × Bytes)) : List Bytes :=
  (fields.filter (fun field => lowerAscii field.1 == name)).map Prod.snd

/-- Whether the fields say how the body is coded, and then whether it comes in chunks: the last
coding of the last field decides. -/
def chunked? (fields : List (String × Bytes)) : Option Bool :=
  (values "transfer-encoding" fields).getLast?.map (fun value =>
    (headerText? value).isSome && (listed value).getLast?.any (fun coding =>
      lowerAscii (Bytes.asciiText coding) == "chunked"))

/-- The length that all of some values tell, if there are any. -/
def length? (values : List Bytes) : Except Fault (Option Nat) :=
  match values.map digits? with
  | [] => .ok none
  | some number :: others =>
    if others.all (· == some number) then .ok (some number) else .error .malformed
  | none :: _ => .error .malformed

/-- The bytes of a head: the first line, the fields, and the empty line. -/
def write (first : Bytes) (fields : List (String × Bytes)) : Bytes :=
  let line (field : String × Bytes) := utf8 field.1 ++ utf8 ": " ++ field.2 ++ utf8 "\r\n"
  first ++ utf8 "\r\n" ++ fields.flatMap line ++ utf8 "\r\n"

end Gatehouse.Http.Head
