import Gatehouse.Json.Skip

/-!
# Typed values in JSON

Readers for the values that the program takes: words, whole numbers in a range, strings, lists,
names out of a list, and records. A record is an object, whose unknown members are passed over, or
a list of its members' values in order.
-/

namespace Gatehouse.Json.Reader

variable {α : Type}

/-- Fails because the value that comes next is not of the type expected. The value is read as far
as it has to be named; if that fails, its own failure counts. -/
def mismatch (expected : String) : Reader α := do
  let found (what : Found) : Reader α := failOpen (.invalidType what expected)
  match ← peek with
  | some 110 =>
    advance
    word [117, 108, 108]
    found .null
  | some 116 =>
    advance
    word [114, 117, 101]
    found (.boolean true)
  | some 102 =>
    advance
    word [97, 108, 115, 101]
    found (.boolean false)
  | some 34 =>
    advance
    found (.string (← stringBody))
  | some 91 => found .list
  | some 123 => found .object
  | some byte =>
    if byte = 45 ∨ isDigit byte then found (← number).found
    else failNext .expectedValue
  | none => failNext .expectedValue

/-- Reads a value that starts behind blanks, given its first byte. -/
def value (reader : UInt8 → Reader α) : Reader α :=
  settle do
    match ← space with
    | none => failNext .endInValue
    | some byte => reader byte

/-- Reads a string. -/
def string (expected : String) : Reader String :=
  value fun byte =>
    if byte = 34 then do
      advance
      stringBody
    else mismatch expected

/-- Reads `true` or `false`. -/
def boolean : Reader Bool :=
  value fun byte => do
    match byte with
    | 116 =>
      advance
      word [114, 117, 101]
      pure true
    | 102 =>
      advance
      word [97, 108, 115, 101]
      pure false
    | _ => mismatch "a boolean"

/-- Reads `null`. -/
def null : Reader Unit :=
  value fun byte => do
    if byte = 110 then
      advance
      word [117, 108, 108]
    else mismatch "unit"

/-- Reads a whole number between two bounds. -/
def integer (least largest : Int) (expected : String) : Reader Int :=
  value fun byte => do
    if byte = 45 ∨ isDigit byte then
      let number ← number
      let check (value : Int) : Reader Int :=
        if least ≤ value ∧ value ≤ largest then pure value
        else failOpen (.invalidValue value expected)
      match number with
      | .natural value => check value
      | .negative value => check value
      | .float value => failOpen (.invalidType (.float value) expected)
    else mismatch expected

/-- Reads a signed number of 64 bits. -/
def int64 : Reader Int64 := do
  let value ← integer (-0x8000000000000000) 0x7FFFFFFFFFFFFFFF "i64"
  pure (Int64.ofInt value)

/-- Reads `null` or a value. -/
def optional (reader : Reader α) : Reader (Option α) := do
  match ← space with
  | some 110 =>
    advance
    word [117, 108, 108]
    pure none
  | _ => some <$> reader

/-- Reads the elements of a list up to its end, given the place of the next one. The elements read
so far are held in reverse. -/
def elements (reader : Reader α) : Nat → Nat → List α → Reader (List α)
  | 0, _, _ => fail .endInList
  | fuel + 1, place, read => do
    if ← moreElements (place == 0) then
      let element ← inside (.index place) reader
      elements reader fuel (place + 1) (element :: read)
    else pure read.reverse

/-- Reads a list. -/
def list (reader : Reader α) : Reader (List α) :=
  value fun byte => do
    if byte = 91 then
      advance
      let rest ← remaining
      enclosed (elements reader (rest.length + 1) 0 []) endList
    else mismatch "a sequence"

/-- Reads a name out of the known ones. -/
def knownName (known : List (String × α)) : Reader α :=
  settle do
    let name ← string "variant identifier"
    match known.lookup name with
    | some value => pure value
    | none => failOpen (.unknownVariant name (known.map Prod.fst))

/-- Reads a name out of the known ones: as a string, or as an object whose one key it is, with the
value `null`. -/
def variant (known : List (String × α)) (nameOf : α → String) : Reader α := do
  match ← space with
  | some 34 => knownName known
  | some 123 =>
    advance
    match ← space with
    | some 34 => pure ()
    | some 125 => failNext .expectedValue
    | some _ => failNext .keyNotString
    | none => failNext .endInObject
    let value ← knownName known
    colon
    inside (.key (nameOf value)) null
    match ← space with
    | some 125 =>
      advance
      pure value
    | some _ => fail .expectedValue
    | none => fail .endInObject
  | some _ => failNext .expectedValue
  | none => failNext .endInValue

/-- A member of a record: how it is read into the record, and whether it may be missing. -/
structure Member (α : Type) where
  /-- The member's name. -/
  key : String
  /-- Reads the member's value into the record. -/
  read : α → Reader α
  /-- Whether an object may do without the member. -/
  mayLack : Bool
  /-- Whether a list may end before the member. -/
  mayEnd : Bool

/-- Reads the members of an object up to its end, given the names met before. -/
def members (known : List (Member α)) : Nat → Bool → List String → α → Reader α
  | 0, _, _, _ => fail .endInObject
  | fuel + 1, first, met, record => do
    if ← moreMembers first then
      advance
      let key ← stringBody
      match known.find? (fun m => m.key == key) with
      | some m =>
        -- A member given twice is refused before its second value is looked at.
        if met.contains key then failOpen (.duplicateField key)
        else
          colon
          let record ← inside (.key key) (m.read record)
          members known fuel false (key :: met) record
      | none =>
        colon
        inside (.key key) passValue
        members known fuel false met record
    else
      match known.find? (fun m => !m.mayLack && !met.contains m.key) with
      | some m => failOpen (.missingField m.key)
      | none => pure record

/-- Reads the members of a record from a list, in order. -/
def memberList (expected : String) : List (Member α) → Nat → Bool → α → Reader α
  | [], _, _, record => pure record
  | m :: rest, place, first, record => do
    if ← moreElements first then
      let record ← inside (.index place) (m.read record)
      memberList expected rest (place + 1) false record
    else if m.mayEnd then memberList expected rest (place + 1) first record
    else failOpen (.invalidLength place expected)

/-- How many elements, in words. -/
def elementCount (count : Nat) : String :=
  toString count ++ (if count = 1 then " element" else " elements")

/-- Reads a record, starting from one in which the members that may be missing are as they are
then. -/
def record (name : String) (known : List (Member α)) (blank : α) : Reader α :=
  value fun byte => do
    if byte = 91 then
      advance
      let expected := "struct " ++ name ++ " with " ++ elementCount known.length
      enclosed (memberList expected known 0 true blank) endList
    else if byte = 123 then
      advance
      let rest ← remaining
      enclosed (members known (rest.length + 1) true [] blank) endObject
    else mismatch ("struct " ++ name)

/-- Reads the entries of an object up to its end. The entries read so far are held in reverse. -/
def entries {κ : Type} (key : Reader κ) (reader : Reader α) :
    Nat → Bool → List (κ × α) → Reader (List (κ × α))
  | 0, _, _ => fail .endInObject
  | fuel + 1, first, read => do
    if ← moreMembers first then
      let name ← key
      colon
      let entry ← reader
      entries key reader fuel false ((name, entry) :: read)
    else pure read.reverse

/-- Reads an object with any number of entries, in order. -/
def entryList {κ : Type} (key : Reader κ) (reader : Reader α) : Reader (List (κ × α)) :=
  value fun byte => do
    if byte = 123 then
      advance
      let rest ← remaining
      enclosed (entries key reader (rest.length + 1) true []) endObject
    else mismatch "a map"

end Gatehouse.Json.Reader
