import Gatehouse.Json.Record
import Gatehouse.Json.Writer

/-!
# Reading back what was written

What it means that a reader takes written bytes for a value, whatever comes behind them, and the
rules by which such readings are put together. Main statements: a written string reads back
(`string_reads`), and a text that reads as a value when something may follow reads as that value
when nothing does (`document_of_reads`).
-/

namespace Gatehouse.Json.Reader

variable {α β : Type}

/-! ## Readers one after the other -/

/-- Behind a value that was read, the next reader goes on. -/
theorem bind_ok {reader : Reader α} {next : α → Reader β} {input rest : Bytes} {value : α}
    (h : reader input = .ok value rest) : (reader >>= next) input = next value rest := by
  simp only [bind, h]

/-- What stands behind a value that has been written: nothing, a comma, or a closing mark. -/
def Delimited (rest : Bytes) : Prop :=
  ∀ byte ∈ rest.head?, byte = 44 ∨ byte = 93 ∨ byte = 125

/-- The reader takes the written bytes for the value, and nothing of what stands behind them. -/
def Reads (reader : Reader α) (written : Bytes) (value : α) : Prop :=
  ∀ rest, Delimited rest → reader (written ++ rest) = .ok value rest

/-- Nothing is delimited. -/
theorem delimited_nil : Delimited [] := by
  simp [Delimited]

/-- What begins with a comma or a closing mark is delimited. -/
theorem delimited_cons {byte : UInt8} (rest : Bytes) (h : byte = 44 ∨ byte = 93 ∨ byte = 125) :
    Delimited (byte :: rest) := by
  simpa [Delimited] using h

/-- A value that is read and then changed. -/
theorem Reads.bind_pure {reader : Reader α} {written : Bytes} {value : α} (change : α → β)
    (h : Reads reader written value) :
    Reads (do return change (← reader)) written (change value) := by
  intro rest hrest
  rw [bind_ok (h rest hrest)]
  rfl

/-- A reading inside a value is the reading by itself. -/
theorem inside_ok {step : Step} {reader : Reader α} {input rest : Bytes} {value : α}
    (h : reader input = .ok value rest) : inside step reader input = .ok value rest := by
  rw [inside, h]

/-- A reading whose failures are placed is the reading by itself. -/
theorem settle_ok {reader : Reader α} {input rest : Bytes} {value : α}
    (h : reader input = .ok value rest) : settle reader input = .ok value rest := by
  rw [settle, h]

/-- What stands between two marks is read, and then the closing mark. -/
theorem enclosed_ok {content : Reader α} {close : Reader Unit} {input middle rest : Bytes}
    {value : α} (hcontent : content input = .ok value middle)
    (hclose : close middle = .ok () rest) :
    enclosed content close input = .ok value rest := by
  simp only [enclosed, hcontent, hclose]

/-- Where no blank stands, none is passed. -/
theorem space_cons {byte : UInt8} (h : isBlank byte = false) (rest : Bytes) :
    space (byte :: rest) = .ok (some byte) (byte :: rest) := by
  simp [space, List.dropWhile, h]

/-- A value that starts at once is read from its first byte on. -/
theorem value_cons {reader : UInt8 → Reader α} {byte : UInt8} {input rest : Bytes} {result : α}
    (hbyte : isBlank byte = false) (h : reader byte (byte :: input) = .ok result rest) :
    value reader (byte :: input) = .ok result rest := by
  apply settle_ok
  rw [bind_ok (space_cons hbyte input)]
  exact h

/-- A text that reads as a value when something may follow reads as that value when nothing
does. -/
theorem document_of_reads {reader : Reader α} {written : Bytes} {value : α}
    (h : Reads reader written value) : document reader written = .ok value := by
  have hvalue : reader written = .ok value [] := by
    simpa using h [] delimited_nil
  rw [document, bind_ok hvalue]
  rfl

/-! ## Strings -/

/-- A hexadecimal digit has the value that it was written for. -/
theorem hexValue?_hexDigit {value : Nat} (h : value < 16) :
    Bytes.hexValue? (Bytes.hexDigit value) = some value := by
  revert value
  decide

/-- The code point of a control character is one byte. -/
theorem codePointBytes_of_lt {code : Nat} (h : code < 32) :
    codePointBytes code = [code.toUInt8] := by
  revert code
  decide

/-- The escape by number of a control character is read back. -/
theorem unicodeEscape_control {byte : UInt8} (h : byte < 32) (rest : Bytes) :
    unicodeEscape (48 :: 48 :: Bytes.hexDigit (byte.toNat / 16) ::
      Bytes.hexDigit (byte.toNat % 16) :: rest) = .ok [byte] rest := by
  have hlt : byte.toNat < 32 := UInt8.lt_iff_toNat_lt.1 h
  -- a control character is written with two zeros and its two digits
  have hquad : hexQuad? 48 48 (Bytes.hexDigit (byte.toNat / 16))
      (Bytes.hexDigit (byte.toNat % 16)) = some byte.toNat := by
    rw [hexQuad?, hexValue?_hexDigit (show byte.toNat / 16 < 16 by omega),
      hexValue?_hexDigit (show byte.toNat % 16 < 16 by omega)]
    simp only [Bytes.hexValue?]
    simp
    omega
  have hunit : hexEscape (48 :: 48 :: Bytes.hexDigit (byte.toNat / 16) ::
      Bytes.hexDigit (byte.toNat % 16) :: rest) = .ok byte.toNat rest := by
    simp only [hexEscape, hquad]
  have hsurrogate : isLeading byte.toNat = false ∧ isTrailing byte.toNat = false := by
    simp [isLeading, isTrailing]
    omega
  rw [unicodeEscape, bind_ok hunit, hsurrogate.1, hsurrogate.2, codePointBytes_of_lt hlt]
  simp only [Nat.toUInt8_eq, UInt8.ofNat_toNat]
  rfl

/-- One round of reading a string takes the written form of one byte. -/
theorem stringBytes_stringByte (byte : UInt8) (fuel : Nat) (read rest : Bytes) :
    stringBytes (fuel + 1) read (Write.stringByte byte ++ rest) =
      stringBytes fuel (byte :: read) rest := by
  have hplain : ∀ first tail, stringBytes (fuel + 1) read (first :: tail) =
      (if first = 34 then pure read.reverse
      else if first = 92 then do
        let bytes ← escape
        stringBytes fuel (bytes.reverse ++ read)
      else if first < 32 then fail .controlCharacter
      else stringBytes fuel (first :: read)) tail := fun _ _ => rfl
  unfold Write.stringByte
  -- The short escapes compute; what is left is the escape by number and the plain byte.
  split <;> try rfl
  rename_i hquote hbackslash _ _ _ _ _
  split
  · rename_i hcontrol
    have hescape : escape (117 :: 48 :: 48 :: Bytes.hexDigit (byte.toNat / 16) ::
        Bytes.hexDigit (byte.toNat % 16) :: rest) = .ok [byte] rest :=
      unicodeEscape_control hcontrol rest
    rw [List.cons_append, hplain, if_neg (by decide), if_pos rfl]
    exact bind_ok hescape
  · rename_i hcontrol
    rw [List.cons_append, hplain, if_neg hquote, if_neg hbackslash, if_neg hcontrol,
      List.nil_append]

/-- The bytes between the quotes of a written string are read back. -/
theorem stringBytes_written (bytes : Bytes) (fuel : Nat) (read rest : Bytes)
    (hfuel : bytes.length < fuel) :
    stringBytes fuel read (bytes.flatMap Write.stringByte ++ 34 :: rest) =
      .ok (read.reverse ++ bytes) rest := by
  -- over the bytes, with those that were read before in reverse
  induction bytes generalizing fuel read with
  | nil =>
    cases fuel with
    | zero => simp at hfuel
    | succ fuel =>
      rw [List.append_nil]
      rfl
  | cons byte bytes ih =>
    cases fuel with
    | zero => simp at hfuel
    | succ fuel =>
      rw [List.flatMap_cons, List.append_assoc, stringBytes_stringByte,
        ih fuel _ (by simpa using hfuel)]
      simp

/-- No byte of a string is written as nothing. -/
theorem length_le_length_flatMap_stringByte (bytes : Bytes) :
    bytes.length ≤ (bytes.flatMap Write.stringByte).length := by
  induction bytes with
  | nil => simp
  | cons byte bytes ih =>
    have hbyte : 0 < (Write.stringByte byte).length := by
      unfold Write.stringByte
      split <;> (try split) <;> simp
    simp only [List.flatMap_cons, List.length_append, List.length_cons]
    omega

/-- What stands behind the opening quote of a written string is read back. -/
theorem stringBody_written (text : String) (rest : Bytes) :
    stringBody ((utf8 text).flatMap Write.stringByte ++ 34 :: rest) = .ok text rest := by
  have hlength := length_le_length_flatMap_stringByte (utf8 text)
  have hbytes := stringBytes_written (utf8 text)
    (((utf8 text).flatMap Write.stringByte ++ 34 :: rest).length + 1) [] rest
    (by simp only [List.length_append, List.length_cons]; omega)
  have hremaining : remaining ((utf8 text).flatMap Write.stringByte ++ 34 :: rest) =
      .ok ((utf8 text).flatMap Write.stringByte ++ 34 :: rest)
        ((utf8 text).flatMap Write.stringByte ++ 34 :: rest) := rfl
  rw [stringBody, bind_ok hremaining, bind_ok hbytes, List.reverse_nil, List.nil_append,
    Bytes.text?_utf8]
  rfl

/-- A written string begins with its quote, and ends with one. -/
theorem string_append (text : String) (rest : Bytes) :
    Write.string text ++ rest = 34 :: ((utf8 text).flatMap Write.stringByte ++ 34 :: rest) := by
  simp [Write.string]

/-- A written string reads back. -/
theorem string_reads (expected text : String) :
    Reads (string expected) (Write.string text) text := by
  intro rest _
  rw [string_append]
  exact value_cons rfl (stringBody_written text rest)

end Gatehouse.Json.Reader
