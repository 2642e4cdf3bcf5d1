import Gatehouse.Json.Fault

/-!
# Readers of JSON

A reader takes a value from the front of a byte string and leaves the rest, also when it fails: the
end of a list or object is looked for after a failure too, since the place of a failure may depend
on it. Here are readers for single bytes, blanks, words and the marks of lists and objects.
-/

namespace Gatehouse.Json

/-- What a reader gives: a value or a failure, and the bytes that are left. -/
inductive Result (α : Type) where
  /-- A value was read. -/
  | ok (value : α) (rest : Bytes)
  /-- Reading failed. -/
  | fault (fault : Fault) (rest : Bytes)

/-- A reader of values. -/
def Reader (α : Type) : Type := Bytes → Result α

instance : Monad Reader where
  pure value := fun rest => .ok value rest
  bind reader next := fun input =>
    match reader input with
    | .ok value rest => next value rest
    | .fault fault rest => .fault fault rest

namespace Reader

variable {α β : Type}

/-- Fails behind the last byte read. -/
def fail (cause : Cause) : Reader α :=
  fun rest => .fault ⟨cause, some rest.length, []⟩ rest

/-- Fails at the byte that comes next. -/
def failNext (cause : Cause) : Reader α :=
  fun rest => .fault ⟨cause, some (rest.length - 1), []⟩ rest

/-- Fails without a place: the value around the failure gives one. -/
def failOpen (cause : Cause) : Reader α :=
  fun rest => .fault ⟨cause, none, []⟩ rest

/-- Places a failure that has no place behind the last byte read. -/
def settle (reader : Reader α) : Reader α := fun input =>
  match reader input with
  | .ok value rest => .ok value rest
  | .fault fault rest =>
    .fault { fault with behind := some (fault.behind.getD rest.length) } rest

/-- Reads a value that lies one step further in. -/
def inside (step : Step) (reader : Reader α) : Reader α := fun input =>
  match reader input with
  | .ok value rest => .ok value rest
  | .fault fault rest => .fault { fault with path := step :: fault.path } rest

/-- Reads what stands between two marks and then the closing mark. The closing mark is read after
a failure too, and the first failure counts. -/
def enclosed (content : Reader α) (close : Reader Unit) : Reader α := fun input =>
  match content input with
  | .ok value rest =>
    match close rest with
    | .ok _ rest => .ok value rest
    | .fault fault rest => .fault fault rest
  | .fault fault rest =>
    match close rest with
    | .ok _ rest => .fault fault rest
    | .fault _ rest => .fault fault rest

/-- The bytes that are left. -/
def remaining : Reader Bytes := fun rest => .ok rest rest

/-- The next byte, which stays. -/
def peek : Reader (Option UInt8) := fun rest => .ok rest.head? rest

/-- Passes the next byte. -/
def advance : Reader Unit := fun rest => .ok () rest.tail

/-- Takes the next byte. -/
def next : Reader (Option UInt8) := fun rest => .ok rest.head? rest.tail

/-- Whether a byte is blank: a space, a tab or the end of a line. -/
def isBlank (byte : UInt8) : Bool :=
  byte == 32 || byte == 10 || byte == 9 || byte == 13

/-- Passes blanks, and gives the byte behind them, which stays. -/
def space : Reader (Option UInt8) := fun input =>
  let rest := input.dropWhile isBlank
  .ok rest.head? rest

/-- Takes the letters of a word. -/
def word : Bytes → Reader Unit
  | [] => pure ()
  | letter :: letters => do
    match ← next with
    | none => fail .endInValue
    | some byte => if byte = letter then word letters else fail .expectedWord

/-- Passes the colon between a key and its value. -/
def colon : Reader Unit := do
  match ← space with
  | some 58 => advance
  | some _ => failNext .expectedColon
  | none => failNext .endInObject

/-- Whether another element comes, with the comma before it passed. -/
def moreElements (first : Bool) : Reader Bool := do
  match ← space with
  | none => failNext .endInList
  | some 93 => pure false
  | some byte =>
    if first then pure true
    else if byte = 44 then
      advance
      match ← space with
      | some 93 => failNext .trailingComma
      | some _ => pure true
      | none => failNext .endInValue
    else failNext .expectedListEnd

/-- Whether another member comes, with the comma before it passed. The next byte is then the
quote of its key. -/
def moreMembers (first : Bool) : Reader Bool := do
  match ← space with
  | none => failNext .endInObject
  | some 125 => pure false
  | some byte =>
    if first then
      if byte = 34 then pure true else failNext .keyNotString
    else if byte = 44 then
      advance
      match ← space with
      | some 34 => pure true
      | some 125 => failNext .trailingComma
      | some _ => failNext .keyNotString
      | none => failNext .endInValue
    else failNext .expectedObjectEnd

/-- Passes the end of a list. -/
def endList : Reader Unit := do
  match ← space with
  | some 93 => advance
  | some 44 =>
    advance
    match ← space with
    | some 93 => failNext .trailingComma
    | _ => failNext .trailingCharacters
  | some _ => failNext .trailingCharacters
  | none => failNext .endInList

/-- Passes the end of an object. -/
def endObject : Reader Unit := do
  match ← space with
  | some 125 => advance
  | some 44 => failNext .trailingComma
  | some _ => failNext .trailingCharacters
  | none => failNext .endInObject

/-- Reads a whole text: a value with nothing but blanks behind it. -/
def document (reader : Reader α) (input : Bytes) : Except Problem α :=
  let whole : Reader α := do
    let value ← reader
    match ← space with
    | some _ => failNext .trailingCharacters
    | none => return value
  match whole input with
  | .ok value _ => .ok value
  | .fault fault _ => .error (.ofFault input fault)

end Reader

end Gatehouse.Json
