import Gatehouse.Text.Integer

/-!
# Which texts are whole numbers

A text is read as a whole number exactly if it is a numeral of it: digits, perhaps behind a plus
sign, whose value lies in the range. Main statements: what is read from a text
(`natural_eq_ok_iff`), and that the decimal form of a number is read back as the number
(`natural_toString`, `signed_toString`).
-/

namespace Gatehouse.Text

/-- A text is a numeral: one or more decimal digits, perhaps behind a plus sign. -/
def Numeral (text : String) (value : Nat) : Prop :=
  ∃ digits : List Char, (text.toList = digits ∨ text.toList = '+' :: digits) ∧ digits ≠ [] ∧
    (∀ c ∈ digits, c.isDigit = true) ∧ Nat.ofDigitChars 10 digits 0 = value

variable {limit value : Nat} {excess : IntegerFault}

/-- Digits only add to what was read before them. -/
theorem le_ofDigitChars (digits : List Char) (init : Nat) :
    init ≤ Nat.ofDigitChars 10 digits init := by
  induction digits generalizing init with
  | nil => simp
  | cons digit digits ih =>
    rw [Nat.ofDigitChars_cons]
    exact Nat.le_trans (by omega) (ih _)

/-- Digits are read on exactly if they are digits and their number does not leave the limit. -/
theorem digitsFrom_eq_ok_iff {letters : List Char} {init : Nat} (hinit : init ≤ limit) :
    digitsFrom limit excess init letters = .ok value ↔
      (∀ c ∈ letters, c.isDigit = true) ∧ Nat.ofDigitChars 10 letters init = value ∧
        value ≤ limit := by
  -- over the letters, with the number of those that were read
  induction letters generalizing init with
  | nil =>
    rw [digitsFrom, Except.ok.injEq, Nat.ofDigitChars_nil]
    constructor
    · rintro rfl
      exact ⟨by simp, rfl, hinit⟩
    · exact fun h => h.2.1
  | cons letter letters ih =>
    rw [digitsFrom, List.forall_mem_cons, Nat.ofDigitChars_cons]
    by_cases hdigit : letter.isDigit = true
    · rw [hdigit, Bool.not_true, if_neg Bool.false_ne_true]
      by_cases hgrown : limit < 10 * init + (letter.toNat - 48)
      -- later digits do not bring a number back into the limit
      · rw [if_pos hgrown]
        refine iff_of_false (by rintro ⟨⟩) ?_
        rintro ⟨-, rfl, hle⟩
        exact absurd (Nat.le_trans (le_ofDigitChars letters _) hle) (Nat.not_le_of_lt hgrown)
      · rw [if_neg hgrown, ih (Nat.le_of_not_lt hgrown), and_iff_right rfl]
        rfl
    · rw [if_pos (by simp [hdigit])]
      exact iff_of_false (by rintro ⟨⟩) fun h => hdigit h.1.1

/-- Digits are read exactly if there are some and their number does not leave the limit. -/
theorem digits_eq_ok_iff {letters : List Char} :
    digits limit excess letters = .ok value ↔
      letters ≠ [] ∧ (∀ c ∈ letters, c.isDigit = true) ∧ Nat.ofDigitChars 10 letters 0 = value ∧
        value ≤ limit := by
  cases letters with
  | nil => exact iff_of_false (by rintro ⟨⟩) fun h => h.1 rfl
  | cons letter letters =>
    rw [digits, digitsFrom_eq_ok_iff (Nat.zero_le limit)]
    exact (and_iff_right (List.cons_ne_nil letter letters)).symm

/-- A whole number is read from a text exactly if the text is a numeral of it and it is not too
large. -/
theorem natural_eq_ok_iff {text : String} :
    natural limit text = .ok value ↔ Numeral text value ∧ value ≤ limit := by
  rw [natural, Numeral]
  split
  · rename_i hnil
    rw [hnil]
    refine iff_of_false (by rintro ⟨⟩) ?_
    rintro ⟨⟨digits, rfl | ⟨⟨⟩⟩, hne, -⟩, -⟩
    exact hne rfl
  · rename_i rest hplus
    rw [hplus, digits_eq_ok_iff]
    constructor
    · rintro ⟨hne, hdigits, hvalue, hle⟩
      exact ⟨⟨rest, .inr rfl, hne, hdigits, hvalue⟩, hle⟩
    · rintro ⟨⟨digits, rfl | ⟨⟨⟩⟩, hne, hdigits, hvalue⟩, hle⟩
      -- a plus sign is no digit
      · exact absurd (hdigits '+' List.mem_cons_self) (by decide)
      · exact ⟨hne, hdigits, hvalue, hle⟩
  · rename_i hplus
    rw [digits_eq_ok_iff]
    constructor
    · rintro ⟨hne, hdigits, hvalue, hle⟩
      exact ⟨⟨text.toList, .inl rfl, hne, hdigits, hvalue⟩, hle⟩
    · rintro ⟨⟨digits, rfl | h, hne, hdigits, hvalue⟩, hle⟩
      · exact ⟨hne, hdigits, hvalue, hle⟩
      · exact absurd h (hplus digits)

/-- The letters of the decimal form of a number are digits. -/
theorem isDigit_of_mem_toString {c : Char} (h : c ∈ (toString value).toList) :
    c.isDigit = true := by
  rw [Nat.toString_eq_ofList_toDigits, String.toList_ofList] at h
  exact Nat.isDigit_of_mem_toDigits (by decide) (by decide) h

/-- The decimal form of a number is a numeral of it. -/
theorem numeral_toString (value : Nat) : Numeral (toString value) value := by
  refine ⟨(toString value).toList, .inl rfl, ?_, fun c hc => isDigit_of_mem_toString hc, ?_⟩
  all_goals rw [Nat.toString_eq_ofList_toDigits, String.toList_ofList]
  · exact Nat.toDigits_ne_nil
  · exact Nat.ofDigitChars_ten_toDigits

/-- The decimal form of a number that is not too large is read back as the number. -/
theorem natural_toString (h : value ≤ limit) : natural limit (toString value) = .ok value :=
  natural_eq_ok_iff.2 ⟨numeral_toString value, h⟩

/-- A whole number that has no minus sign is read as one that has no sign at all. -/
theorem signed_eq_natural {text : String} (lowest : Nat) (h : text.toList.head? ≠ some '-') :
    signed lowest limit text = (natural limit text).map (fun size => (size : Int)) := by
  rw [signed, natural]
  split
  · rename_i hnil
    rw [hnil]
    rfl
  · rename_i hminus
    rw [hminus] at h
    exact absurd rfl h
  · rename_i hplus
    rw [hplus]
    rfl
  · rename_i hnil _ hplus
    split
    · exact absurd ‹_› hnil
    · exact absurd ‹_› (hplus _)
    · rfl

/-- The decimal form of a number is read back as the number where a sign may stand too. -/
theorem signed_toString (lowest : Nat) (h : value ≤ limit) :
    signed lowest limit (toString value) = .ok (value : Int) := by
  have hhead : (toString value).toList.head? ≠ some '-' := by
    intro hminus
    exact absurd (isDigit_of_mem_toString (List.mem_of_mem_head? hminus)) (by decide)
  rw [signed_eq_natural lowest hhead, natural_toString h]
  rfl

end Gatehouse.Text
