import Gatehouse.Bytes

/-!
# Unpadded base64

Bytes as letters, six bits to a letter and without padding, in one of two alphabets. Reading is
strict: every byte string has exactly one written form. Reading names the first thing that is
wrong; a last letter that is no letter of the alphabet and stands alone in its group is found
first of all.
-/

namespace Gatehouse.Base64

/-- An alphabet: letters and digits, and the two symbols for 62 and 63. -/
structure Alphabet where
  /-- The symbol for the value 62. -/
  sixtyTwo : UInt8
  /-- The symbol for the value 63. -/
  sixtyThree : UInt8

/-- The alphabet for names in addresses: `-` and `_`. -/
def Alphabet.urlSafe : Alphabet := ⟨45, 95⟩

/-- The standard alphabet: `+` and `/`. -/
def Alphabet.standard : Alphabet := ⟨43, 47⟩

/-- The padding sign `=`, which belongs to no alphabet here. -/
def pad : UInt8 := 61

/-- The symbol for a value below 64. -/
def Alphabet.symbol (alphabet : Alphabet) (value : UInt8) : UInt8 :=
  if value < 26 then value + 65
  else if value < 52 then value + 71
  else if value < 62 then value - 4
  else if value = 62 then alphabet.sixtyTwo
  else alphabet.sixtyThree

/-- The value of a symbol. -/
def Alphabet.value? (alphabet : Alphabet) (symbol : UInt8) : Option UInt8 :=
  if 65 ≤ symbol ∧ symbol ≤ 90 then some (symbol - 65)
  else if 97 ≤ symbol ∧ symbol ≤ 122 then some (symbol - 71)
  else if 48 ≤ symbol ∧ symbol ≤ 57 then some (symbol + 4)
  else if symbol = alphabet.sixtyTwo then some 62
  else if symbol = alphabet.sixtyThree then some 63
  else none

/-- Writes bytes, three to four symbols and a shorter group at the end. -/
def encode (alphabet : Alphabet) : Bytes → Bytes
  | [] => []
  | [a] => [alphabet.symbol (a >>> 2), alphabet.symbol ((a &&& 3) <<< 4)]
  | [a, b] =>
    [alphabet.symbol (a >>> 2), alphabet.symbol ((a &&& 3) <<< 4 ||| b >>> 4),
      alphabet.symbol ((b &&& 15) <<< 2)]
  | a :: b :: c :: rest =>
    alphabet.symbol (a >>> 2) :: alphabet.symbol ((a &&& 3) <<< 4 ||| b >>> 4) ::
      alphabet.symbol ((b &&& 15) <<< 2 ||| c >>> 6) :: alphabet.symbol (c &&& 63) ::
      encode alphabet rest

/-- Why a text is no written form. Offsets count bytes from zero. -/
inductive Error where
  /-- A byte that is no symbol of the alphabet, or a padding sign out of place. -/
  | invalidSymbol (offset : Nat) (byte : UInt8)
  /-- A group of one symbol. -/
  | invalidLength (length : Nat)
  /-- A last symbol that carries bits of no byte. -/
  | invalidLastSymbol (offset : Nat) (byte : UInt8)
  /-- Padding where none is written. -/
  | invalidPadding
  deriving DecidableEq, Repr

/-- The text of an error. -/
def Error.message : Error → String
  | invalidSymbol offset byte =>
    "Invalid symbol " ++ toString byte.toNat ++ ", offset " ++ toString offset ++ "."
  | invalidLength length => "Invalid input length: " ++ toString length
  | invalidLastSymbol offset byte =>
    "Invalid last symbol " ++ toString byte.toNat ++ ", offset " ++ toString offset ++ "."
  | invalidPadding => "Invalid padding"

/-- What has been read of the last group: its values, the last symbol and the padding met. -/
structure Group where
  /-- The values read, in order. -/
  values : List UInt8
  /-- The last symbol read. -/
  last : UInt8
  /-- Where the padding starts, if there is any. -/
  padding : Option Nat

/-- Reads the symbols of the last group from the offset `offset`, of which `index` symbols have
been seen. -/
def readGroup (alphabet : Alphabet) (offset : Nat) :
    Nat → Group → Bytes → Except Error Group
  | _, group, [] => .ok group
  | index, group, byte :: rest =>
    if byte = pad then
      if index < 2 then .error (.invalidSymbol (offset + index) byte)
      else
        readGroup alphabet offset (index + 1)
          { group with padding := some (group.padding.getD (offset + index)) } rest
    else
      match group.padding with
      | some start => .error (.invalidSymbol start pad)
      | none =>
        match alphabet.value? byte with
        | none => .error (.invalidSymbol (offset + index) byte)
        | some value =>
          readGroup alphabet offset (index + 1)
            { group with values := group.values ++ [value], last := byte } rest

/-- The bytes of the last group, which starts at the offset `offset`. -/
def decodeGroup (alphabet : Alphabet) (offset : Nat) (symbols : Bytes) : Except Error Bytes := do
  if symbols = [] then return []
  let group ← readGroup alphabet offset 0 ⟨[], 0, none⟩ symbols
  let count := group.values.length
  if count < 2 then throw (.invalidLength (offset + count))
  if group.padding.isSome then throw .invalidPadding
  match group.values with
  | [a, b] =>
    if b &&& 15 = 0 then return [a <<< 2 ||| b >>> 4]
    else throw (.invalidLastSymbol (offset + 1) group.last)
  | [a, b, c] =>
    if c &&& 3 = 0 then return [a <<< 2 ||| b >>> 4, b <<< 4 ||| c >>> 2]
    else throw (.invalidLastSymbol (offset + 2) group.last)
  | [a, b, c, d] => return [a <<< 2 ||| b >>> 4, b <<< 4 ||| c >>> 2, c <<< 6 ||| d]
  | _ => return []

/-- The bytes of a text that starts at the offset `offset`: whole groups first, then the last. -/
def decodeFrom (alphabet : Alphabet) : Nat → Bytes → Except Error Bytes
  | offset, a :: b :: c :: d :: e :: rest => do
    let value (place : Nat) (symbol : UInt8) : Except Error UInt8 :=
      match alphabet.value? symbol with
      | some value => .ok value
      | none => .error (.invalidSymbol (offset + place) symbol)
    let a ← value 0 a
    let b ← value 1 b
    let c ← value 2 c
    let d ← value 3 d
    let rest ← decodeFrom alphabet (offset + 4) (e :: rest)
    return (a <<< 2 ||| b >>> 4) :: (b <<< 4 ||| c >>> 2) :: (c <<< 6 ||| d) :: rest
  | offset, symbols => decodeGroup alphabet offset symbols

/-- The last byte of a text whose last group has one symbol, if that byte is neither a symbol nor
padding. -/
def strayLast? (alphabet : Alphabet) (symbols : Bytes) : Option UInt8 :=
  if symbols.length % 4 = 1 then
    symbols.getLast?.filter (fun last => last != pad && (alphabet.value? last).isNone)
  else none

/-- Reads a written form. -/
def decode (alphabet : Alphabet) (symbols : Bytes) : Except Error Bytes :=
  match strayLast? alphabet symbols with
  | some last => .error (.invalidSymbol (symbols.length - 1) last)
  | none => decodeFrom alphabet 0 symbols

/-- The URL-safe written form as a text. -/
def urlText (bytes : Bytes) : String :=
  Bytes.asciiText (encode .urlSafe bytes)

end Gatehouse.Base64
