import Gatehouse.Json.Reader

/-!
# Strings in JSON

Reading strings with their escapes. A string is put together from bytes and checked to be UTF-8 at
its end; a string whose value nobody needs is passed without that check, and without pairing the
surrogates in its escapes.
-/

namespace Gatehouse.Json.Reader

/-- The value of four hexadecimal digits. -/
def hexQuad? (a b c d : UInt8) : Option Nat := do
  let a ← Bytes.hexValue? a
  let b ← Bytes.hexValue? b
  let c ← Bytes.hexValue? c
  let d ← Bytes.hexValue? d
  return ((16 * a + b) * 16 + c) * 16 + d

/-- Reads the four digits of an escape. -/
def hexEscape : Reader Nat := fun input =>
  match input with
  | a :: b :: c :: d :: rest =>
    match hexQuad? a b c d with
    | some value => .ok value rest
    | none => fail .invalidEscape rest
  | _ => fail .endInString []

/-- Takes the next byte of a string. -/
def nextInString : Reader UInt8 := do
  match ← next with
  | some byte => pure byte
  | none => fail .endInString

/-- The UTF-8 bytes of a code point. -/
def codePointBytes (code : Nat) : Bytes :=
  String.utf8EncodeChar (Char.ofNat code)

/-- Whether a code unit is the first half of a pair. -/
def isLeading (unit : Nat) : Bool := 0xd800 ≤ unit && unit ≤ 0xdbff

/-- Whether a code unit is the second half of a pair. -/
def isTrailing (unit : Nat) : Bool := 0xdc00 ≤ unit && unit ≤ 0xdfff

/-- Passes one byte that has to be there for a pair to be complete. -/
def pairMark (mark : UInt8) : Reader Unit := do
  match ← peek with
  | none => fail .endInString
  | some byte =>
    advance
    if byte = mark then pure () else fail .endInHexEscape

/-- Reads the rest of an escape by number: one code unit, or two that make a pair. -/
def unicodeEscape : Reader Bytes := do
  let unit ← hexEscape
  if isTrailing unit then fail .loneSurrogate
  else if isLeading unit then
    pairMark 92
    pairMark 117
    let second ← hexEscape
    if isTrailing second then
      pure (codePointBytes (0x10000 + (unit - 0xd800) * 0x400 + (second - 0xdc00)))
    else fail .loneSurrogate
  else pure (codePointBytes unit)

/-- The byte that a short escape stands for. -/
def shortEscape? (byte : UInt8) : Option UInt8 :=
  match byte with
  | 34 => some 34
  | 92 => some 92
  | 47 => some 47
  | 98 => some 8
  | 102 => some 12
  | 110 => some 10
  | 114 => some 13
  | 116 => some 9
  | _ => none

/-- Reads an escape behind its backslash. -/
def escape : Reader Bytes := do
  let byte ← nextInString
  match shortEscape? byte with
  | some value => pure [value]
  | none => if byte = 117 then unicodeEscape else fail .invalidEscape

/-- Reads the bytes of a string up to and with its closing quote. The bytes read so far are held
in reverse. -/
def stringBytes : Nat → Bytes → Reader Bytes
  | 0, _ => fail .endInString
  | fuel + 1, read => do
    let byte ← nextInString
    if byte = 34 then pure read.reverse
    else if byte = 92 then
      let bytes ← escape
      stringBytes fuel (bytes.reverse ++ read)
    else if byte < 32 then fail .controlCharacter
    else stringBytes fuel (byte :: read)

/-- Fails because the bytes of a string are not those of a text. The place lies as many bytes before
the end of what was read as the string has bytes from the first one on at which no character
starts: the bytes that escapes stand for count, and not those of their spelling. -/
def failInText (bytes : Bytes) : Reader String := fun rest =>
  let wrong := bytes.length - Bytes.textSize bytes.length bytes
  .fault ⟨.invalidCodePoint, some (rest.length + wrong), []⟩ rest

/-- Reads a string behind its opening quote. -/
def stringBody : Reader String := do
  let rest ← remaining
  let bytes ← stringBytes (rest.length + 1) []
  match Bytes.text? bytes with
  | some text => pure text
  | none => failInText bytes

/-- Passes an escape behind its backslash. -/
def passEscape : Reader Unit := do
  let byte ← nextInString
  if (shortEscape? byte).isSome then pure ()
  else if byte = 117 then discard hexEscape
  else fail .invalidEscape

/-- Passes the bytes of a string up to and with its closing quote. -/
def passStringBytes : Nat → Reader Unit
  | 0 => fail .endInString
  | fuel + 1 => do
    match ← peek with
    | none => fail .endInString
    | some byte =>
      if byte < 32 then fail .controlCharacter
      else
        advance
        if byte = 34 then pure ()
        else if byte = 92 then
          passEscape
          passStringBytes fuel
        else passStringBytes fuel

/-- Passes a string behind its opening quote. -/
def passString : Reader Unit := do
  let rest ← remaining
  passStringBytes (rest.length + 1)

end Gatehouse.Json.Reader
