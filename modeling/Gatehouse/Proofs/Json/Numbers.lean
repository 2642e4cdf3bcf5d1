import Gatehouse.Proofs.Json.Reading
import Gatehouse.Proofs.Numerals

/-!
# Whole numbers read back

The decimal form of a whole number is read back as the number. Main statements: digits whose number
fits 64 bits are all taken (`significandDigits_digitBytes`), and every number within the bounds of a
reader reads back (`integer_reads`, `int64_reads`).
-/

namespace Gatehouse.Json.Reader

/-- The bytes of decimal digits. -/
def digitBytes (digits : List Char) : Bytes :=
  digits.map (fun digit => digit.toNat.toUInt8)

/-- A decimal digit is one of ten characters. -/
theorem toNat_of_isDigit {digit : Char} (h : digit.isDigit = true) :
    48 ≤ digit.toNat ∧ digit.toNat ≤ 57 := by
  simp only [Char.isDigit, Bool.and_eq_true, decide_eq_true_eq] at h
  exact ⟨h.1, h.2⟩

/-- Decimal digits are one byte each. -/
theorem utf8_ofList_digits {digits : List Char} (h : ∀ c ∈ digits, c.isDigit = true) :
    utf8 (String.ofList digits) = digitBytes digits := by
  refine utf8_ofList_ascii fun c hc => ?_
  have hrange := toNat_of_isDigit (h c hc)
  omega

/-- The bytes of two texts one after the other. -/
theorem utf8_append (first second : String) :
    utf8 (first ++ second) = utf8 first ++ utf8 second := by
  simp [utf8]

/-- The digits of a natural number are digits. -/
theorem isDigit_toDigits (n : Nat) : ∀ c ∈ Nat.toDigits 10 n, c.isDigit = true :=
  fun _ hc => Nat.isDigit_of_mem_toDigits (by decide) (by decide) hc

/-- A whole number is written with its digits, behind a minus sign if it is negative. -/
theorem integer_eq (value : Int) :
    Write.integer value =
      if 0 ≤ value then digitBytes (Nat.toDigits 10 value.toNat)
      else 45 :: digitBytes (Nat.toDigits 10 (-value).toNat) := by
  have hdigits : ∀ n : Nat, utf8 n.repr = digitBytes (Nat.toDigits 10 n) := fun n => by
    rw [Nat.repr_eq_ofList_toDigits, utf8_ofList_digits (isDigit_toDigits n)]
  rw [Write.integer, Int.toString_eq_repr, Int.repr_eq_if]
  split
  · exact hdigits _
  · rw [utf8_append, hdigits]
    rfl

/-- The byte of a digit counts as a digit, and has the digit's value. -/
theorem isDigit_byte {digit : Char} (h : digit.isDigit = true) :
    isDigit digit.toNat.toUInt8 = true ∧ digit.toNat.toUInt8.toNat = digit.toNat ∧
      48 ≤ digit.toNat ∧ digit.toNat ≤ 57 := by
  have hrange := toNat_of_isDigit h
  have hbyte : digit.toNat.toUInt8.toNat = digit.toNat := by
    simp
    omega
  refine ⟨?_, hbyte, hrange⟩
  simp only [isDigit, Bool.and_eq_true, decide_eq_true_eq, UInt8.le_iff_toNat_le, hbyte]
  exact hrange

/-- What stands behind a value does not go on with its digits. -/
theorem isDigit_head_of_delimited {rest : Bytes} (h : Delimited rest) :
    ∀ byte ∈ rest.head?, isDigit byte = false := by
  intro byte hbyte
  rcases h byte hbyte with rfl | rfl | rfl <;> rfl

/-- Digits whose number fits 64 bits are all taken. -/
theorem significandDigits_digitBytes {digits : List Char} {rest : Bytes} (init count : Nat)
    (hdigits : ∀ c ∈ digits, c.isDigit = true)
    (hfit : Nat.ofDigitChars 10 digits init < 0x10000000000000000) (hrest : Delimited rest) :
    significandDigits init count (digitBytes digits ++ rest) =
      (Nat.ofDigitChars 10 digits init, count + digits.length, rest, false) := by
  -- over the digits, with the number and the count of those that were read
  induction digits generalizing init count with
  | nil =>
    cases rest with
    | nil => rfl
    | cons byte rest =>
      have hbyte : isDigit byte = false := isDigit_head_of_delimited hrest byte (by simp)
      simp [digitBytes, significandDigits, hbyte]
  | cons digit digits ih =>
    obtain ⟨hdigit, hvalue, hlow, -⟩ := isDigit_byte (hdigits digit (by simp))
    rw [Nat.ofDigitChars_cons] at hfit ⊢
    -- the number read so far is no larger than the whole, so it fits as well
    have hgrown : ¬ 0x10000000000000000 ≤ 10 * init + (digit.toNat - 48) :=
      Nat.not_le.2 (Nat.lt_of_le_of_lt (Text.le_ofDigitChars digits _) hfit)
    have hrec := ih (10 * init + (digit.toNat - 48)) (count + 1)
      (fun c hc => hdigits c (List.mem_cons_of_mem _ hc)) hfit
    rw [digitBytes, List.map_cons, List.cons_append, significandDigits, if_pos hdigit, hvalue,
      if_neg hgrown]
    refine Eq.trans hrec ?_
    rw [List.length_cons]
    congr 2
    omega

/-- The first digit of a positive number is not zero. -/
theorem exists_toDigits_eq_cons {n : Nat} (h : 0 < n) :
    ∃ digit digits, Nat.toDigits 10 n = digit :: digits ∧ digit ≠ '0' := by
  induction n using Nat.strongRecOn with
  | ind n ih =>
    rw [Nat.toDigits_eq_if (by decide)]
    split
    · refine ⟨_, _, rfl, ?_⟩
      rw [ne_eq, Nat.digitChar_eq_zero]
      omega
    · obtain ⟨digit, digits, heq, hdigit⟩ := ih (n / 10) (by omega) (by omega)
      exact ⟨digit, digits ++ [Nat.digitChar (n % 10)], by rw [heq, List.cons_append], hdigit⟩

/-- Behind the digits of a whole number nothing more belongs to the number. -/
theorem afterDigits_delimited {rest : Bytes} (hrest : Delimited rest) (negative : Bool)
    (value : Nat) (power : Int) (number : Number) :
    afterDigits negative value power (some number) rest = .ok number rest := by
  have hpoint : rest.head? ≠ some 46 := fun h => by
    simpa using hrest 46 (by simp [h])
  have hlower : rest.head? ≠ some 101 := fun h => by
    simpa using hrest 101 (by simp [h])
  have hupper : rest.head? ≠ some 69 := fun h => by
    simpa using hrest 69 (by simp [h])
  have hpeek : peek rest = .ok rest.head? rest := rfl
  rw [afterDigits, bind_ok hpeek]
  simp only [hpoint, hlower, hupper, if_false, or_self]
  rfl

/-- The digits of a number that fits 64 bits are read behind its sign. -/
theorem unsigned_toDigits {rest : Bytes} {number : Number} (n : Nat) (negative : Bool)
    (hfit : n < 0x10000000000000000) (hexact : exactNumber? negative n = some number)
    (hrest : Delimited rest) :
    unsigned negative (digitBytes (Nat.toDigits 10 n) ++ rest) = .ok number rest := by
  -- zero is the only number that is written with a leading zero
  rcases Nat.eq_zero_or_pos n with rfl | hpos
  · have hdigit : rest.head?.any isDigit = false := by
      cases rest with
      | nil => rfl
      | cons byte rest => simpa using isDigit_head_of_delimited hrest byte (by simp)
    have hpeek : peek rest = .ok rest.head? rest := rfl
    rw [Nat.toDigits_zero]
    change (peek >>= fun digit => if digit.any isDigit then failNext .invalidNumber
      else afterDigits negative 0 0 (exactNumber? negative 0)) rest = _
    rw [bind_ok hpeek, hdigit, hexact]
    exact afterDigits_delimited hrest negative 0 0 number
  · obtain ⟨digit, digits, heq, hzero⟩ := exists_toDigits_eq_cons hpos
    have hall := isDigit_toDigits n
    have hvalue : Nat.ofDigitChars 10 (digit :: digits) 0 = n := by
      rw [← heq, Nat.ofDigitChars_ten_toDigits]
    rw [heq] at hall
    obtain ⟨hdigit, hbyte, hlow, -⟩ := isDigit_byte (hall digit (by simp))
    rw [Nat.ofDigitChars_cons] at hvalue
    have hstart : digit.toNat.toUInt8.toNat - 48 = 10 * 0 + (digit.toNat - '0'.toNat) := by
      rw [hbyte]
      simp
    have hsignificand : significand (digit.toNat.toUInt8.toNat - 48) (digitBytes digits ++ rest) =
        .ok (n, digits.length, false) rest := by
      rw [hstart, significand, significandDigits_digitBytes _ 0
        (fun c hc => hall c (List.mem_cons_of_mem _ hc)) (by rw [hvalue]; exact hfit) hrest,
        hvalue, Nat.zero_add]
    have hne : digit.toNat.toUInt8 ≠ 48 := by
      intro h
      apply hzero
      have : digit.toNat = 48 := by rw [← hbyte, h]; rfl
      exact Char.ext (UInt32.toNat_inj.1 this)
    rw [heq]
    change (if digit.toNat.toUInt8 = 48 then _ else if isDigit digit.toNat.toUInt8 then
      significand (digit.toNat.toUInt8.toNat - 48) >>= _
      else _ : Reader Number) (digitBytes digits ++ rest) = _
    rw [if_neg hne, if_pos hdigit, bind_ok hsignificand]
    change afterDigits negative n 0 (exactNumber? negative n) rest = _
    rw [hexact]
    exact afterDigits_delimited hrest negative n 0 number

/-- A written whole number starts with a minus sign or a digit. -/
theorem exists_integer_eq_cons (value : Int) :
    ∃ byte rest, Write.integer value = byte :: rest ∧ (byte = 45 ∨ isDigit byte = true) := by
  rw [integer_eq]
  split
  · have hne : Nat.toDigits 10 value.toNat ≠ [] := Nat.toDigits_ne_nil
    obtain ⟨digit, digits, heq⟩ := List.exists_cons_of_ne_nil hne
    have hdigit := isDigit_toDigits value.toNat digit (by simp [heq])
    rw [heq]
    exact ⟨_, _, rfl, Or.inr (isDigit_byte hdigit).1⟩
  · exact ⟨_, _, rfl, Or.inl rfl⟩

/-- A minus sign or a digit is not blank. -/
theorem isBlank_of_number {byte : UInt8} (h : byte = 45 ∨ isDigit byte = true) :
    isBlank byte = false := by
  rcases h with rfl | h
  · rfl
  · simp only [isDigit, Bool.and_eq_true, decide_eq_true_eq, UInt8.le_iff_toNat_le] at h
    have hne : ∀ blank : UInt8, blank.toNat < 48 → (byte == blank) = false := by
      intro blank hblank
      rw [beq_eq_false_iff_ne]
      rintro rfl
      exact absurd h.1 (by simpa using hblank)
    simp [isBlank, hne 32 (by decide), hne 10 (by decide), hne 9 (by decide), hne 13 (by decide)]

/-- The number that a whole number of 64 bits is read as. -/
def exactNumber (value : Int) : Number :=
  if 0 ≤ value then .natural value.toNat else .negative value

/-- A written whole number of 64 bits is read as that number. -/
theorem number_integer {value : Int} {rest : Bytes} (hlow : -0x8000000000000000 ≤ value)
    (hhigh : value < 0x10000000000000000) (hrest : Delimited rest) :
    number (Write.integer value ++ rest) = .ok (exactNumber value) rest := by
  rw [integer_eq, exactNumber]
  split
  · rename_i hsign
    have hunsigned := unsigned_toDigits value.toNat false (by omega)
      (show exactNumber? false value.toNat = some (.natural value.toNat) from rfl) hrest
    have hpeek : peek (digitBytes (Nat.toDigits 10 value.toNat) ++ rest) =
        .ok (digitBytes (Nat.toDigits 10 value.toNat) ++ rest).head?
          (digitBytes (Nat.toDigits 10 value.toNat) ++ rest) := rfl
    -- the first digit is not a minus sign
    have hminus : (digitBytes (Nat.toDigits 10 value.toNat) ++ rest).head? ≠ some 45 := by
      obtain ⟨digit, digits, heq⟩ :=
        List.exists_cons_of_ne_nil (Nat.toDigits_ne_nil (n := value.toNat) (b := 10))
      have hdigit := (isDigit_byte (isDigit_toDigits value.toNat digit (by simp [heq]))).1
      rw [heq]
      intro h
      rw [show digit.toNat.toUInt8 = 45 from Option.some.inj h] at hdigit
      exact absurd hdigit (by decide)
    rw [number, bind_ok hpeek, if_neg hminus]
    exact hunsigned
  · rename_i hsign
    have hexact : exactNumber? true (-value).toNat = some (.negative value) := by
      have hzero : ¬ ((-value).toNat = 0 ∨ 0x8000000000000000 < (-value).toNat) := by omega
      have hback : -((-value).toNat : Int) = value := by omega
      simp only [exactNumber?, Bool.not_true, Bool.false_eq_true, if_false, if_neg hzero, hback]
    exact unsigned_toDigits (-value).toNat true (by omega) hexact hrest

/-- A whole number within the bounds of a reader reads back. -/
theorem integer_reads {least largest value : Int} (expected : String)
    (hlow : -0x8000000000000000 ≤ value) (hhigh : value < 0x10000000000000000)
    (hbounds : least ≤ value ∧ value ≤ largest) :
    Reads (integer least largest expected) (Write.integer value) value := by
  intro rest hrest
  obtain ⟨byte, tail, heq, hbyte⟩ := exists_integer_eq_cons value
  have hnumber := number_integer hlow hhigh hrest
  rw [heq, List.cons_append] at hnumber ⊢
  apply value_cons (isBlank_of_number hbyte)
  rw [if_pos hbyte, bind_ok hnumber, exactNumber]
  split
  · rename_i hsign
    have hcast : ((value.toNat : Nat) : Int) = value := Int.toNat_of_nonneg hsign
    simp only [hcast, if_pos hbounds]
    rfl
  · simp only [if_pos hbounds]
    rfl

/-- A signed number of 64 bits reads back. -/
theorem int64_reads (value : Int64) : Reads int64 (Write.integer value.toInt) value := by
  have hlow := Int64.le_toInt value
  have hhigh := Int64.toInt_lt value
  have hbounds : -0x8000000000000000 ≤ value.toInt ∧ value.toInt ≤ 0x7FFFFFFFFFFFFFFF := by omega
  have hreads := (integer_reads "i64" hlow (by omega) hbounds).bind_pure Int64.ofInt
  rwa [Int64.ofInt_toInt] at hreads

end Gatehouse.Json.Reader
