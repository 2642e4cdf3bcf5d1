import Gatehouse.Binary64.Shortest
import Gatehouse.Bytes
import Gatehouse.Text.Quoted

/-!
# What is wrong with a JSON text

Causes of failure, where in the text they are found, and how they are worded. A cause is either a
matter of form, which no JSON text may have, or a matter of shape, where the text is JSON but not
of the value asked for.
-/

namespace Gatehouse.Json

/-- What a text holds where something else is expected. -/
inductive Found where
  /-- The word `null`. -/
  | null
  /-- The word `true` or `false`. -/
  | boolean (value : Bool)
  /-- A whole number of 64 bits. -/
  | integer (value : Int)
  /-- Any other number. -/
  | float (value : Binary64)
  /-- A string. -/
  | string (text : String)
  /-- A list. -/
  | list
  /-- An object. -/
  | object

/-- Numbers in messages: positional from 10⁻⁵ up to below 10¹⁶, with a plus sign before exponents
that are not negative, and two digits or more in an exponent. A tie goes to the even decimal. -/
def floatLayout : Binary64.Layout := ⟨-5, 15, "+", 2, false⟩

/-- The wording of what is found. -/
def Found.describe : Found → String
  | null => "null"
  | boolean value => "boolean `" ++ toString value ++ "`"
  | integer value => "integer `" ++ toString value ++ "`"
  | float value => "floating point `" ++ value.text floatLayout ++ "`"
  | string text => "string " ++ Text.quoted text
  | list => "sequence"
  | object => "map"

/-- Why a text is not read. -/
inductive Cause where
  /-- No value starts here. -/
  | expectedValue
  /-- A word is misspelled. -/
  | expectedWord
  /-- The colon after a key is missing. -/
  | expectedColon
  /-- Neither a comma nor the end of the list follows an element. -/
  | expectedListEnd
  /-- Neither a comma nor the end of the object follows a member. -/
  | expectedObjectEnd
  /-- A key is not a string. -/
  | keyNotString
  /-- A comma stands before the end. -/
  | trailingComma
  /-- Something follows the value. -/
  | trailingCharacters
  /-- The text ends where a value is due. -/
  | endInValue
  /-- The text ends inside a string. -/
  | endInString
  /-- The text ends inside an object. -/
  | endInObject
  /-- The text ends inside a list. -/
  | endInList
  /-- A number is misspelled. -/
  | invalidNumber
  /-- A number is too large. -/
  | numberOutOfRange
  /-- An unknown escape in a string. -/
  | invalidEscape
  /-- Half of a surrogate pair is missing at the end of an escape. -/
  | endInHexEscape
  /-- A surrogate without its other half. -/
  | loneSurrogate
  /-- A string that is not UTF-8. -/
  | invalidCodePoint
  /-- A control character inside a string. -/
  | controlCharacter
  /-- A value of another type than the one expected. -/
  | invalidType (found : Found) (expected : String)
  /-- A whole number out of the range expected. -/
  | invalidValue (value : Int) (expected : String)
  /-- A list that is too short. -/
  | invalidLength (length : Nat) (expected : String)
  /-- A name that is not among those known. -/
  | unknownVariant (name : String) (known : List String)
  /-- A member that must be there and is not. -/
  | missingField (name : String)
  /-- A member that is there twice. -/
  | duplicateField (name : String)

namespace Cause

/-- The names that are known, in words. -/
def knownText : List String → String
  | [] => "there are no variants"
  | [name] => "expected `" ++ name ++ "`"
  | [first, second] => "expected `" ++ first ++ "` or `" ++ second ++ "`"
  | names => "expected one of " ++ String.intercalate ", " (names.map (fun n => "`" ++ n ++ "`"))

/-- The wording of a cause. -/
def message : Cause → String
  | expectedValue => "expected value"
  | expectedWord => "expected ident"
  | expectedColon => "expected `:`"
  | expectedListEnd => "expected `,` or `]`"
  | expectedObjectEnd => "expected `,` or `\x7d`"
  | keyNotString => "key must be a string"
  | trailingComma => "trailing comma"
  | trailingCharacters => "trailing characters"
  | endInValue => "EOF while parsing a value"
  | endInString => "EOF while parsing a string"
  | endInObject => "EOF while parsing an object"
  | endInList => "EOF while parsing a list"
  | invalidNumber => "invalid number"
  | numberOutOfRange => "number out of range"
  | invalidEscape => "invalid escape"
  | endInHexEscape => "unexpected end of hex escape"
  | loneSurrogate => "lone leading surrogate in hex escape"
  | invalidCodePoint => "invalid unicode code point"
  | controlCharacter => "control character (\\u0000-\\u001F) found while parsing a string"
  | invalidType found expected =>
    "invalid type: " ++ found.describe ++ ", expected " ++ expected
  | invalidValue value expected =>
    "invalid value: integer `" ++ toString value ++ "`, expected " ++ expected
  | invalidLength length expected =>
    "invalid length " ++ toString length ++ ", expected " ++ expected
  | unknownVariant name known => "unknown variant `" ++ name ++ "`, " ++ knownText known
  | missingField name => "missing field `" ++ name ++ "`"
  | duplicateField name => "duplicate field `" ++ name ++ "`"

/-- Whether the text is JSON up to here, and only its shape is wrong. -/
def isShape : Cause → Bool
  | invalidType _ _ => true
  | invalidValue _ _ => true
  | invalidLength _ _ => true
  | unknownVariant _ _ => true
  | missingField _ => true
  | duplicateField _ => true
  | _ => false

end Cause

/-- One step from a value to a value inside it. -/
inductive Step where
  /-- To the member of this name. -/
  | key (name : String)
  /-- To the element at this place. -/
  | index (place : Nat)
  deriving DecidableEq, Repr

/-- A path from the outermost value inwards, as `name.name[place]`. -/
def pathText (path : List Step) : String :=
  let step (text : String) : Step → String
    | .key name => if text.isEmpty then name else text ++ "." ++ name
    | .index place => text ++ "[" ++ toString place ++ "]"
  path.foldl step ""

/-- A failure on the way: the place is the number of bytes that lie behind it, and is open until
the value around the failure has been left. -/
structure Fault where
  /-- Why reading failed. -/
  cause : Cause
  /-- How many bytes of the text lie behind the place of the failure. -/
  behind : Option Nat
  /-- The value in which the failure lies. -/
  path : List Step

/-- Why a text is not read, and where: lines count from one, columns count the bytes before the
place in its line. -/
structure Problem where
  /-- Why reading failed. -/
  cause : Cause
  /-- The value in which the failure lies. -/
  path : List Step
  /-- The line. -/
  line : Nat
  /-- The column. -/
  column : Nat

namespace Problem

/-- Turns the place of a fault in a text into a line and a column. -/
def ofFault (input : Bytes) (fault : Fault) : Problem :=
  let before := input.take (input.length - fault.behind.getD 0)
  { cause := fault.cause
    path := fault.path
    line := 1 + before.count 10
    column := (before.reverse.takeWhile (· != 10)).length }

/-- The wording of a problem with its place. -/
def message (problem : Problem) : String :=
  problem.cause.message ++ " at line " ++ toString problem.line ++ " column " ++
    toString problem.column

/-- The wording of a problem after the path to its value, which is left out at the root. -/
def located (problem : Problem) : String :=
  if problem.path.isEmpty then problem.message
  else pathText problem.path ++ ": " ++ problem.message

end Problem

end Gatehouse.Json
