/-!
# Bytes and their text

Byte strings as lists, and the passage between a text and its UTF-8 bytes. Main statements: the
bytes of a text read back as the text (`text?_utf8`), and a text of single bytes has those bytes
(`utf8_asciiText`).
-/

namespace Gatehouse

/-- A byte string. -/
abbrev Bytes := List UInt8

/-- The UTF-8 bytes of a text. -/
def utf8 (text : String) : Bytes :=
  text.toUTF8.data.toList

namespace Bytes

/-- The text whose UTF-8 bytes these are, if there is one. -/
def text? (bytes : Bytes) : Option String :=
  String.fromUTF8? ⟨bytes.toArray⟩

/-- The number of bytes of the character at the start, if there is one. -/
def firstSize? (bytes : Bytes) : Option Nat :=
  [1, 2, 3, 4].find? (fun size => size ≤ bytes.length && (text? (bytes.take size)).isSome)

/-- The number of bytes up to the first one at which no character starts, looking at no more than
`limit` characters. -/
def textSize : Nat → Bytes → Nat
  | 0, _ => 0
  | limit + 1, bytes =>
    match firstSize? bytes with
    | none => 0
    | some size => size + textSize limit (bytes.drop size)

/-- The text of bytes that stand for one character each. -/
def asciiText (bytes : Bytes) : String :=
  String.ofList (bytes.map (fun byte => Char.ofNat byte.toNat))

/-- The byte of a hexadecimal digit's value, in lower case. -/
def hexDigit (value : Nat) : UInt8 :=
  if value < 10 then (48 + value).toUInt8 else (87 + value).toUInt8

/-- The value of a hexadecimal digit in either case. -/
def hexValue? (byte : UInt8) : Option Nat :=
  if 48 ≤ byte && byte ≤ 57 then some (byte.toNat - 48)
  else if 97 ≤ byte && byte ≤ 102 then some (byte.toNat - 87)
  else if 65 ≤ byte && byte ≤ 70 then some (byte.toNat - 55)
  else none

/-- Writes each byte as two hexadecimal digits in lower case. -/
def hex (bytes : Bytes) : Bytes :=
  bytes.flatMap (fun byte => [hexDigit (byte.toNat / 16), hexDigit (byte.toNat % 16)])

/-- Reads bytes from pairs of hexadecimal digits. -/
def ofHex? : Bytes → Option Bytes
  | [] => some []
  | [_] => none
  | high :: low :: rest => do
    let high ← hexValue? high
    let low ← hexValue? low
    let rest ← ofHex? rest
    return (16 * high + low).toUInt8 :: rest

/-- The bytes of a text read back as the text. -/
@[simp]
theorem text?_utf8 (text : String) : text? (utf8 text) = some text := by
  simp only [text?, utf8, String.fromUTF8?, Array.toArray_toList]
  exact dif_pos text.isValidUTF8

end Bytes

/-- Texts with the same bytes are the same. -/
theorem utf8_injective {first second : String} (h : utf8 first = utf8 second) :
    first = second := by
  have := Bytes.text?_utf8 first
  rw [h, Bytes.text?_utf8] at this
  exact (Option.some.inj this).symm

/-- The bytes of a text are those of its characters. -/
theorem utf8_ofList (characters : List Char) :
    utf8 (String.ofList characters) = characters.flatMap String.utf8EncodeChar := by
  simp [utf8, List.utf8Encode]

/-- Characters below 128 are one byte each. -/
theorem utf8_ofList_ascii {characters : List Char} (h : ∀ c ∈ characters, c.toNat < 128) :
    utf8 (String.ofList characters) = characters.map (fun c => c.toNat.toUInt8) := by
  rw [utf8_ofList]
  induction characters with
  | nil => rfl
  | cons c characters ih =>
    have hbound := h c (by simp)
    have hsize : c.utf8Size = 1 := by
      rw [Char.utf8Size_eq_one_iff, UInt32.le_iff_toNat_le]
      have hval : c.val.toNat = c.toNat := rfl
      have hlimit : (127 : UInt32).toNat = 127 := rfl
      omega
    rw [List.flatMap_cons, String.utf8EncodeChar_eq_singleton hsize,
      ih (fun d hd => h d (List.mem_cons_of_mem _ hd))]
    rfl

/-- A byte below 128 stands only for the character of its number. -/
theorem exists_mem_of_mem_utf8 {text : String} {byte : UInt8} (hbyte : byte < 128)
    (hmem : byte ∈ utf8 text) : ∃ c ∈ text.toList, c.toNat = byte.toNat := by
  rw [← String.ofList_toList (s := text), utf8_ofList, List.mem_flatMap] at hmem
  obtain ⟨c, hc, hmem⟩ := hmem
  refine ⟨c, hc, ?_⟩
  have hlow : byte.toNat < 128 := UInt8.lt_iff_toNat_lt.1 hbyte
  have hval : c.val.toNat = c.toNat := rfl
  simp only [String.utf8EncodeChar, hval] at hmem
  split at hmem
  · obtain rfl := List.mem_singleton.1 hmem
    rw [UInt8.toNat_ofNat']
    omega
  -- in a longer form every byte is 128 or above
  · have hhigh : 128 ≤ byte.toNat := by
      split at hmem
      · simp only [List.mem_cons, List.not_mem_nil, or_false] at hmem
        rcases hmem with rfl | rfl <;> rw [UInt8.toNat_ofNat'] <;> omega
      split at hmem
      · simp only [List.mem_cons, List.not_mem_nil, or_false] at hmem
        rcases hmem with rfl | rfl | rfl <;> rw [UInt8.toNat_ofNat'] <;> omega
      · simp only [List.mem_cons, List.not_mem_nil, or_false] at hmem
        rcases hmem with rfl | rfl | rfl | rfl <;> rw [UInt8.toNat_ofNat'] <;> omega
    omega

/-- The character of a byte below 128 is that byte again. -/
theorem toNat_ofNat_byte {byte : UInt8} (h : byte < 128) :
    (Char.ofNat byte.toNat).toNat = byte.toNat := by
  have hbound : byte.toNat < 128 := UInt8.lt_iff_toNat_lt.1 h
  have hvalid : byte.toNat.isValidChar := Or.inl (by omega)
  rw [Char.ofNat, dif_pos hvalid]
  rfl

/-- A text of bytes below 128 has those bytes. -/
theorem utf8_asciiText {bytes : Bytes} (h : ∀ byte ∈ bytes, byte < 128) :
    utf8 (Bytes.asciiText bytes) = bytes := by
  have hascii : ∀ c ∈ bytes.map (fun byte => Char.ofNat byte.toNat), c.toNat < 128 := by
    intro c hc
    obtain ⟨byte, hbyte, rfl⟩ := List.mem_map.1 hc
    rw [toNat_ofNat_byte (h byte hbyte)]
    exact UInt8.lt_iff_toNat_lt.1 (h byte hbyte)
  have hback : ∀ byte ∈ bytes, (Char.ofNat byte.toNat).toNat.toUInt8 = byte := by
    intro byte hbyte
    rw [toNat_ofNat_byte (h byte hbyte)]
    simp
  rw [Bytes.asciiText, utf8_ofList_ascii hascii, List.map_map]
  exact (List.map_congr_left hback).trans (List.map_id _)

end Gatehouse
