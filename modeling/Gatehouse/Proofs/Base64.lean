import Gatehouse.Base64
import Gatehouse.Proofs.Json.Numbers

/-!
# Base64 and its one written form

Reading base64 undoes writing it, and refuses every other text. Main statement: a text reads as
bytes exactly when it is the written form of those bytes (`decode_eq_ok_iff`), so that no byte
string has two written forms and no padding, stray bit or foreign symbol is let through.
-/

namespace Gatehouse

/-- One check and then another succeed exactly when the first succeeds and the second succeeds on
its value. -/
theorem bind_eq_ok_iff {ε α β : Type} {first : Except ε α} {next : α → Except ε β} {result : β} :
    first >>= next = .ok result ↔ ∃ value, first = .ok value ∧ next value = .ok result := by
  cases first with
  | error failure => simp [bind, Except.bind]
  | ok value => simp [bind, Except.bind]

namespace Base64

/-! ## Three bytes and four values of six bits -/

/-- Bytes that agree in all eight bits are the same. -/
theorem eq_of_bits {first second : UInt8} (h0 : first.toBitVec[0] = second.toBitVec[0])
    (h1 : first.toBitVec[1] = second.toBitVec[1]) (h2 : first.toBitVec[2] = second.toBitVec[2])
    (h3 : first.toBitVec[3] = second.toBitVec[3]) (h4 : first.toBitVec[4] = second.toBitVec[4])
    (h5 : first.toBitVec[5] = second.toBitVec[5]) (h6 : first.toBitVec[6] = second.toBitVec[6])
    (h7 : first.toBitVec[7] = second.toBitVec[7]) : first = second := by
  refine UInt8.eq_of_toBitVec_eq (BitVec.eq_of_getElem_eq fun i hi => ?_)
  have hplace : i = 0 ∨ i = 1 ∨ i = 2 ∨ i = 3 ∨ i = 4 ∨ i = 5 ∨ i = 6 ∨ i = 7 := by omega
  rcases hplace with rfl | rfl | rfl | rfl | rfl | rfl | rfl | rfl <;> assumption

/-- A value has six bits exactly when its seventh and its eighth are not set. -/
theorem lt_iff_bits (value : UInt8) :
    value < 64 ↔ value.toBitVec[6] = false ∧ value.toBitVec[7] = false := by
  rcases value with ⟨⟨value⟩⟩
  revert value
  decide +kernel

/-- The first byte of a group goes into the first value and the start of the second. -/
theorem first_of_split (a b : UInt8) :
    (a >>> 2) <<< 2 ||| ((a &&& 3) <<< 4 ||| b >>> 4) >>> 4 = a := by
  apply eq_of_bits <;> simp

/-- The second byte of a group goes into the end of the second value and the start of the
third. -/
theorem second_of_split (a b c : UInt8) :
    ((a &&& 3) <<< 4 ||| b >>> 4) <<< 4 ||| ((b &&& 15) <<< 2 ||| c >>> 6) >>> 2 = b := by
  apply eq_of_bits <;> simp

/-- The third byte of a group goes into the end of the third value and the fourth. -/
theorem third_of_split (b c : UInt8) :
    ((b &&& 15) <<< 2 ||| c >>> 6) <<< 6 ||| (c &&& 63) = c := by
  apply eq_of_bits <;> simp

section Join

variable {w x y z : UInt8}

/-- The first value of a group is found in its first byte. -/
theorem first_of_join (hw : w < 64) (hx : x < 64) : (w <<< 2 ||| x >>> 4) >>> 2 = w := by
  obtain ⟨hw6, hw7⟩ := (lt_iff_bits _).1 hw
  obtain ⟨hx6, hx7⟩ := (lt_iff_bits _).1 hx
  apply eq_of_bits <;> simp [*]

/-- The second value of a group is found in its first two bytes. -/
theorem second_of_join (hx : x < 64) (hy : y < 64) :
    ((w <<< 2 ||| x >>> 4) &&& 3) <<< 4 ||| (x <<< 4 ||| y >>> 2) >>> 4 = x := by
  obtain ⟨hx6, hx7⟩ := (lt_iff_bits _).1 hx
  obtain ⟨hy6, hy7⟩ := (lt_iff_bits _).1 hy
  apply eq_of_bits <;> simp [*]

/-- The third value of a group is found in its last two bytes. -/
theorem third_of_join (hy : y < 64) (hz : z < 64) :
    ((x <<< 4 ||| y >>> 2) &&& 15) <<< 2 ||| (y <<< 6 ||| z) >>> 6 = y := by
  obtain ⟨hy6, hy7⟩ := (lt_iff_bits _).1 hy
  obtain ⟨hz6, hz7⟩ := (lt_iff_bits _).1 hz
  apply eq_of_bits <;> simp [*]

/-- The fourth value of a group is found in its last byte. -/
theorem fourth_of_join (hz : z < 64) : (y <<< 6 ||| z) &&& 63 = z := by
  obtain ⟨hz6, hz7⟩ := (lt_iff_bits _).1 hz
  apply eq_of_bits <;> simp [*]

/-- Four spare bits that are not set leave nothing for a next byte. -/
theorem shift_of_and_fifteen (h : x &&& 15 = 0) : x <<< 4 = 0 := by
  revert h
  rcases x with ⟨⟨x⟩⟩
  revert x
  decide +kernel

/-- Two spare bits that are not set leave nothing for a next byte. -/
theorem shift_of_and_three (h : y &&& 3 = 0) : y <<< 6 = 0 := by
  revert h
  rcases y with ⟨⟨y⟩⟩
  revert y
  decide +kernel

end Join

/-! ## Alphabets -/

/-- An alphabet whose symbols stand for one value each, and to which the padding sign does not
belong. -/
structure Alphabet.Lawful (alphabet : Alphabet) : Prop where
  /-- The symbol for a value has that value. -/
  value?_symbol : ∀ value < 64, alphabet.value? (alphabet.symbol value) = some value
  /-- A symbol that has a value is the symbol for it. -/
  of_value? : ∀ symbol, ∀ value ∈ alphabet.value? symbol,
    value < 64 ∧ symbol = alphabet.symbol value
  /-- The padding sign has no value. -/
  value?_pad : alphabet.value? pad = none

/-- The alphabet for names in addresses is lawful. -/
theorem Alphabet.urlSafe_lawful : Alphabet.urlSafe.Lawful where
  value?_symbol := by
    rintro ⟨⟨value⟩⟩
    revert value
    decide +kernel
  of_value? := by
    rintro ⟨⟨symbol⟩⟩
    revert symbol
    decide +kernel
  value?_pad := by decide

variable {alphabet : Alphabet}

/-- The symbol for a value is not the padding sign. -/
theorem Alphabet.Lawful.symbol_ne_pad (h : alphabet.Lawful) {value : UInt8} (hvalue : value < 64) :
    alphabet.symbol value ≠ pad := by
  intro heq
  have := h.value?_symbol value hvalue
  rw [heq, h.value?_pad] at this
  cases this

/-! ## Reading what was written -/

/-- Symbols of an alphabet are read into the group one after the other. -/
theorem readGroup_map (h : alphabet.Lawful) (offset index : Nat) (read : List UInt8) (last : UInt8)
    (values : List UInt8) (hvalues : ∀ v ∈ values, v < 64) :
    ∃ final, readGroup alphabet offset index ⟨read, last, none⟩ (values.map alphabet.symbol) =
      .ok ⟨read ++ values, final, none⟩ := by
  induction values generalizing index read last with
  | nil => exact ⟨last, by simp [readGroup]⟩
  | cons value values ih =>
    have hvalue := hvalues value (by simp)
    obtain ⟨final, hfinal⟩ := ih (index + 1) (read ++ [value]) (alphabet.symbol value)
      (fun v hv => hvalues v (List.mem_cons_of_mem _ hv))
    refine ⟨final, ?_⟩
    rw [List.map_cons, readGroup, if_neg (h.symbol_ne_pad hvalue)]
    simpa [h.value?_symbol value hvalue] using hfinal

/-- The last group of a text is read back. -/
theorem decodeGroup_encode (h : alphabet.Lawful) (offset : Nat) (bytes : Bytes)
    (hsize : bytes.length ≤ 3) :
    decodeGroup alphabet offset (encode alphabet bytes) = .ok bytes := by
  match bytes, hsize with
  | [], _ => rfl
  | [a], _ =>
    obtain ⟨last, hread⟩ := readGroup_map h offset 0 [] 0 [a >>> 2, (a &&& 3) <<< 4]
      (by simp [lt_iff_bits])
    have hfirst : (a >>> 2) <<< 2 ||| ((a &&& 3) <<< 4) >>> 4 = a := by
      simpa using first_of_split a 0
    have hspare : (a &&& 3) <<< 4 &&& 15 = 0 := by apply eq_of_bits <;> simp
    simp only [List.map_cons, List.map_nil, List.nil_append] at hread
    simp [decodeGroup, encode, hread, hfirst, hspare, bind, Except.bind, pure, Except.pure]
  | [a, b], _ =>
    obtain ⟨last, hread⟩ := readGroup_map h offset 0 [] 0
      [a >>> 2, (a &&& 3) <<< 4 ||| b >>> 4, (b &&& 15) <<< 2] (by simp [lt_iff_bits])
    have hsecond : ((a &&& 3) <<< 4 ||| b >>> 4) <<< 4 ||| ((b &&& 15) <<< 2) >>> 2 = b := by
      simpa using second_of_split a b 0
    have hspare : (b &&& 15) <<< 2 &&& 3 = 0 := by apply eq_of_bits <;> simp
    simp only [List.map_cons, List.map_nil, List.nil_append] at hread
    simp [decodeGroup, encode, hread, first_of_split, hsecond, hspare, bind, Except.bind, pure,
      Except.pure]
  | [a, b, c], _ =>
    obtain ⟨last, hread⟩ := readGroup_map h offset 0 [] 0
      [a >>> 2, (a &&& 3) <<< 4 ||| b >>> 4, (b &&& 15) <<< 2 ||| c >>> 6, c &&& 63]
      (by simp [lt_iff_bits])
    simp only [List.map_cons, List.map_nil, List.nil_append] at hread
    simp [decodeGroup, encode, hread, first_of_split, second_of_split, third_of_split, bind,
      Except.bind, pure, Except.pure]

/-- Every symbol of a written form is the symbol for a value of six bits. -/
theorem exists_symbol_of_mem_encode {bytes : Bytes} {symbol : UInt8}
    (h : symbol ∈ encode alphabet bytes) : ∃ value < 64, symbol = alphabet.symbol value := by
  induction bytes using encode.induct with
  | case1 => simp [encode] at h
  | case2 a =>
    simp only [encode, List.mem_cons, List.not_mem_nil, or_false] at h
    rcases h with rfl | rfl <;> exact ⟨_, by simp [lt_iff_bits], rfl⟩
  | case3 a b =>
    simp only [encode, List.mem_cons, List.not_mem_nil, or_false] at h
    rcases h with rfl | rfl | rfl <;> exact ⟨_, by simp [lt_iff_bits], rfl⟩
  | case4 a b c rest ih =>
    simp only [encode, List.mem_cons] at h
    rcases h with rfl | rfl | rfl | rfl | h
    · exact ⟨_, by simp [lt_iff_bits], rfl⟩
    · exact ⟨_, by simp [lt_iff_bits], rfl⟩
    · exact ⟨_, by simp [lt_iff_bits], rfl⟩
    · exact ⟨_, by simp [lt_iff_bits], rfl⟩
    · exact ih h

/-- Only no bytes are written as no symbols. -/
theorem encode_eq_nil_iff {bytes : Bytes} : encode alphabet bytes = [] ↔ bytes = [] := by
  cases bytes using encode.fun_cases <;> simp [encode]

/-- A written form never leaves one symbol over. -/
theorem length_encode_mod (bytes : Bytes) : (encode alphabet bytes).length % 4 ≠ 1 := by
  induction bytes using encode.induct with
  | case1 => simp [encode]
  | case2 a => simp [encode]
  | case3 a b => simp [encode]
  | case4 a b c rest ih =>
    simp only [encode, List.length_cons]
    omega

/-- A written form is read back, wherever it starts. -/
theorem decodeFrom_encode (h : alphabet.Lawful) (offset : Nat) (bytes : Bytes) :
    decodeFrom alphabet offset (encode alphabet bytes) = .ok bytes := by
  -- over the whole groups; the last group, whole or not, is read by itself
  induction bytes using encode.induct generalizing offset with
  | case1 => exact decodeGroup_encode h offset [] (by simp)
  | case2 a => exact decodeGroup_encode h offset [a] (by simp)
  | case3 a b => exact decodeGroup_encode h offset [a, b] (by simp)
  | case4 a b c rest ih =>
    cases hrest : encode alphabet rest with
    | nil =>
      rw [encode_eq_nil_iff.1 hrest]
      exact decodeGroup_encode h offset [a, b, c] (by simp)
    | cons symbol symbols =>
      have hread := ih (offset + 4)
      rw [hrest] at hread
      have ha := h.value?_symbol (a >>> 2) (by simp [lt_iff_bits])
      have hb := h.value?_symbol ((a &&& 3) <<< 4 ||| b >>> 4) (by simp [lt_iff_bits])
      have hc := h.value?_symbol ((b &&& 15) <<< 2 ||| c >>> 6) (by simp [lt_iff_bits])
      have hd := h.value?_symbol (c &&& 63) (by simp [lt_iff_bits])
      rw [encode, hrest, decodeFrom]
      simp [ha, hb, hc, hd, hread, first_of_split, second_of_split, third_of_split, bind,
        Except.bind, pure, Except.pure]

/-! ## Only what was written is read -/

/-- A group that is read without padding consists of the symbols for its values. -/
theorem eq_map_of_readGroup (h : alphabet.Lawful) {offset index : Nat} {group final : Group}
    {symbols : Bytes} (hread : readGroup alphabet offset index group symbols = .ok final)
    (hpadding : final.padding = none) :
    group.padding = none ∧ ∃ values : List UInt8, (∀ v ∈ values, v < 64) ∧
      final.values = group.values ++ values ∧ symbols = values.map alphabet.symbol := by
  induction symbols generalizing index group with
  | nil =>
    cases hread
    exact ⟨hpadding, [], by simp⟩
  | cons symbol symbols ih =>
    rw [readGroup] at hread
    split at hread
    · -- a padding sign stays in the group once it was met
      split at hread
      · cases hread
      · have := (ih hread).1
        cases this
    · split at hread
      · cases hread
      · rename_i hnone
        split at hread
        · cases hread
        · rename_i value hvalue
          obtain ⟨hlt, hsymbol⟩ := h.of_value? symbol value hvalue
          obtain ⟨-, values, hvalues, hfinal, hsymbols⟩ := ih hread
          refine ⟨hnone, value :: values, ?_, ?_, ?_⟩
          · simpa using ⟨hlt, hvalues⟩
          · simpa using hfinal
          · rw [List.map_cons, ← hsymbol, hsymbols]

/-- Two values without spare bits are the written form of the byte they stand for. -/
theorem encode_join_two {w x : UInt8} (hw : w < 64) (hx : x < 64) (hspare : x &&& 15 = 0) :
    encode alphabet [w <<< 2 ||| x >>> 4] = [w, x].map alphabet.symbol := by
  have hsecond := second_of_join (w := w) hx (show (0 : UInt8) < 64 by decide)
  simp only [shift_of_and_fifteen hspare, UInt8.zero_shiftRight, UInt8.or_zero] at hsecond
  simp [encode, first_of_join hw hx, hsecond]

/-- Three values without spare bits are the written form of the two bytes they stand for. -/
theorem encode_join_three {w x y : UInt8} (hw : w < 64) (hx : x < 64) (hy : y < 64)
    (hspare : y &&& 3 = 0) :
    encode alphabet [w <<< 2 ||| x >>> 4, x <<< 4 ||| y >>> 2] = [w, x, y].map alphabet.symbol := by
  have hthird := third_of_join (x := x) hy (show (0 : UInt8) < 64 by decide)
  simp only [shift_of_and_three hspare, UInt8.zero_shiftRight, UInt8.or_zero] at hthird
  simp [encode, first_of_join hw hx, second_of_join hx hy, hthird]

/-- Four values are the written form of the three bytes they stand for. -/
theorem encode_join_four {w x y z : UInt8} (hw : w < 64) (hx : x < 64) (hy : y < 64) (hz : z < 64)
    (rest : Bytes) :
    encode alphabet ((w <<< 2 ||| x >>> 4) :: (x <<< 4 ||| y >>> 2) :: (y <<< 6 ||| z) :: rest) =
      [w, x, y, z].map alphabet.symbol ++ encode alphabet rest := by
  simp [encode, first_of_join hw hx, second_of_join hx hy, third_of_join hy hz, fourth_of_join hz]

/-- A last group that is read is the written form of its bytes. -/
theorem eq_encode_of_decodeGroup (h : alphabet.Lawful) {offset : Nat} {symbols bytes : Bytes}
    (hsize : symbols.length ≤ 4) (hread : decodeGroup alphabet offset symbols = .ok bytes) :
    symbols = encode alphabet bytes := by
  rw [decodeGroup] at hread
  split at hread
  · rename_i hempty
    cases hread
    exact hempty
  rename_i hne
  obtain ⟨⟨values, last, padding⟩, hgroup, hgiven⟩ := bind_eq_ok_iff.1 hread
  clear hread
  dsimp only at hgiven
  split at hgiven
  · cases hgiven
  split at hgiven
  · cases hgiven
  rename_i hcount hpadding
  obtain ⟨-, read, hsix, heq, rfl⟩ := eq_map_of_readGroup h hgroup (by simpa using hpadding)
  obtain rfl : values = read := by simpa using heq
  clear heq hne hgroup
  -- the number of values decides how many bytes there are
  split at hgiven
  · rename_i w x
    split at hgiven
    · rename_i hspare
      cases hgiven
      exact (encode_join_two (hsix w (by simp)) (hsix x (by simp)) hspare).symm
    · cases hgiven
  · rename_i w x y
    split at hgiven
    · rename_i hspare
      cases hgiven
      exact (encode_join_three (hsix w (by simp)) (hsix x (by simp)) (hsix y (by simp))
        hspare).symm
    · cases hgiven
  · rename_i w x y z
    cases hgiven
    exact (encode_join_four (hsix w (by simp)) (hsix x (by simp)) (hsix y (by simp))
      (hsix z (by simp)) []).symm
  · rename_i htwo hthree hfour
    rw [List.length_map] at hsize
    match values with
    | [] | [_] => simp at hcount
    | [w, x] => exact absurd rfl (htwo w x)
    | [w, x, y] => exact absurd rfl (hthree w x y)
    | [w, x, y, z] => exact absurd rfl (hfour w x y z)
    | _ :: _ :: _ :: _ :: _ :: _ =>
      simp only [List.length_cons] at hsize
      omega

/-- A text that is read is the written form of its bytes. -/
theorem eq_encode_of_decodeFrom (h : alphabet.Lawful) {offset : Nat} {symbols bytes : Bytes}
    (hread : decodeFrom alphabet offset symbols = .ok bytes) : symbols = encode alphabet bytes := by
  induction offset, symbols using decodeFrom.induct alphabet generalizing bytes with
  | case1 offset a b c d e rest ih =>
    rw [decodeFrom] at hread
    obtain ⟨w, hw, hread⟩ := bind_eq_ok_iff.1 hread
    obtain ⟨x, hx, hread⟩ := bind_eq_ok_iff.1 hread
    obtain ⟨y, hy, hread⟩ := bind_eq_ok_iff.1 hread
    obtain ⟨z, hz, hread⟩ := bind_eq_ok_iff.1 hread
    obtain ⟨behind, hrest, hread⟩ := bind_eq_ok_iff.1 hread
    cases hread
    have ha : alphabet.value? a = some w := by
      cases hvalue : alphabet.value? a <;> simp_all only [Except.ok.injEq, reduceCtorEq]
    have hb : alphabet.value? b = some x := by
      cases hvalue : alphabet.value? b <;> simp_all only [Except.ok.injEq, reduceCtorEq]
    have hc : alphabet.value? c = some y := by
      cases hvalue : alphabet.value? c <;> simp_all only [Except.ok.injEq, reduceCtorEq]
    have hd : alphabet.value? d = some z := by
      cases hvalue : alphabet.value? d <;> simp_all only [Except.ok.injEq, reduceCtorEq]
    obtain ⟨hwlt, rfl⟩ := h.of_value? a w ha
    obtain ⟨hxlt, rfl⟩ := h.of_value? b x hb
    obtain ⟨hylt, rfl⟩ := h.of_value? c y hc
    obtain ⟨hzlt, rfl⟩ := h.of_value? d z hd
    rw [encode_join_four hwlt hxlt hylt hzlt, ← ih hrest]
    rfl
  | case2 offset symbols hshort =>
    have hsize : symbols.length ≤ 4 := by
      match symbols with
      | [] | [_] | [_, _] | [_, _, _] | [_, _, _, _] => simp
      | a :: b :: c :: d :: e :: rest => exact (hshort a b c d e rest rfl).elim
    rw [decodeFrom] at hread
    · exact eq_encode_of_decodeGroup h hsize hread
    · exact hshort

/-- A text reads as bytes exactly when it is their written form. -/
theorem decode_eq_ok_iff (h : alphabet.Lawful) {symbols bytes : Bytes} :
    decode alphabet symbols = .ok bytes ↔ symbols = encode alphabet bytes := by
  constructor
  · intro hread
    rw [decode] at hread
    split at hread
    · cases hread
    · exact eq_encode_of_decodeFrom h hread
  · rintro rfl
    have hlast : strayLast? alphabet (encode alphabet bytes) = none := by
      rw [strayLast?, if_neg (length_encode_mod bytes)]
    rw [decode, hlast]
    exact decodeFrom_encode h 0 bytes

/-! ## The written form as a text -/

/-- The symbols of the alphabet for names in addresses are single bytes of a text, and the dot is
none of them. -/
theorem urlSafe_symbol : ∀ value < 64,
    Alphabet.urlSafe.symbol value < 128 ∧ Alphabet.urlSafe.symbol value ≠ 46 := by
  rintro ⟨⟨value⟩⟩
  revert value
  decide +kernel

/-- The symbols of a written form are below 128. -/
theorem lt_of_mem_encode {bytes : Bytes} {symbol : UInt8} (h : symbol ∈ encode .urlSafe bytes) :
    symbol < 128 := by
  obtain ⟨value, hvalue, rfl⟩ := exists_symbol_of_mem_encode h
  exact (urlSafe_symbol value hvalue).1

/-- The bytes of a written form as a text are its symbols. -/
theorem utf8_urlText (bytes : Bytes) : utf8 (urlText bytes) = encode .urlSafe bytes :=
  utf8_asciiText fun _ => lt_of_mem_encode

/-- Different bytes are written as different texts. -/
theorem urlText_injective {first second : Bytes} (h : urlText first = urlText second) :
    first = second := by
  have heq : encode .urlSafe first = encode .urlSafe second := by
    rw [← utf8_urlText, h, utf8_urlText]
  have hread := (decode_eq_ok_iff Alphabet.urlSafe_lawful).2 heq
  rw [(decode_eq_ok_iff Alphabet.urlSafe_lawful).2 rfl] at hread
  exact Except.ok.inj hread

/-- No dot stands in a written form. -/
theorem dot_notMem_encode (bytes : Bytes) : 46 ∉ encode .urlSafe bytes := by
  intro hdot
  obtain ⟨value, hvalue, heq⟩ := exists_symbol_of_mem_encode hdot
  exact (urlSafe_symbol value hvalue).2 heq.symm

/-- No dot stands in the text of a written form. -/
theorem dot_notMem_urlText (bytes : Bytes) : '.' ∉ (urlText bytes).toList := by
  intro hdot
  rw [urlText, Bytes.asciiText, String.toList_ofList] at hdot
  obtain ⟨symbol, hsymbol, heq⟩ := List.mem_map.1 hdot
  have hdot : symbol.toNat = 46 := by
    rw [← toNat_ofNat_byte (lt_of_mem_encode hsymbol), heq]
    rfl
  obtain rfl : symbol = 46 := UInt8.toNat_inj.1 hdot
  exact dot_notMem_encode bytes hsymbol

end Base64

end Gatehouse
