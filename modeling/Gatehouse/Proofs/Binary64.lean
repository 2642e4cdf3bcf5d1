import Gatehouse.Binary64
import Mathlib.Algebra.Order.Field.Power
import Mathlib.Data.Rat.Cast.Order
import Mathlib.Tactic.FieldSimp
import Mathlib.Tactic.Linarith
import Mathlib.Tactic.NormNum
import Mathlib.Tactic.Positivity
import Mathlib.Tactic.Ring

/-!
# Rounding errors

How far the numbers of the format are from what they stand for, over ratios of moderate size. One
rounding is off by a fraction of `ulp` at most (`exists_ofRatio`), and errors add up
(`near_ofRatio`).
-/

namespace Gatehouse.Binary64

/-- The size of a number. -/
def size (x : Binary64) : ℚ := x.mantissa * (2 : ℚ) ^ x.exponent

/-- The fraction of a number by which the next one is larger, at most. -/
def ulp : ℚ := 1 / 4503599627370496

/-- A number is off by some fractions of `ulp` at most. -/
def Near (x : Binary64) (exact : ℚ) (errors : ℕ) : Prop := |x.size - exact| ≤ errors * ulp * exact

/-- Numbers that the format holds with full precision, like those between them. -/
def Moderate (exact : ℚ) : Prop :=
  exact = 0 ∨ 1 / 1000000000 ≤ exact ∧ exact ≤ 1000000000000000000000000000

/-- A number is the ratio that it is taken for. -/
theorem toRatio_spec (x : Binary64) :
    0 < x.toRatio.2 ∧ (x.toRatio.1 : ℚ) / x.toRatio.2 = x.size := by
  rw [toRatio, size]
  split
  · rename_i hexponent
    obtain ⟨power, hpower⟩ := Int.eq_ofNat_of_zero_le hexponent
    simp [hpower]
  · rename_i hexponent
    obtain ⟨power, hpower⟩ := Int.eq_ofNat_of_zero_le (show 0 ≤ -x.exponent by omega)
    have hnegative : x.exponent = -(power : ℤ) := by omega
    simp [hnegative, div_eq_mul_inv]

/-- Dividing a ratio by a power of two. -/
theorem scaleDown_spec (num : ℕ) {den : ℕ} (hden : 0 < den) (power : ℤ) :
    0 < (scaleDown num den power).2 ∧
      ((scaleDown num den power).1 : ℚ) / (scaleDown num den power).2 =
        num / den / (2 : ℚ) ^ power := by
  rw [scaleDown]
  split
  · rename_i hpower
    obtain ⟨n, rfl⟩ := Int.eq_ofNat_of_zero_le hpower
    simp [hden, div_div]
  · rename_i hpower
    obtain ⟨n, hn⟩ := Int.eq_ofNat_of_zero_le (show 0 ≤ -power by omega)
    obtain rfl : power = -(n : ℤ) := by omega
    simp [hden]
    ring

/-- The powers of two around a positive whole number. -/
theorem zpow_log2 {n : ℕ} (hn : 0 < n) :
    (2 : ℚ) ^ (n.log2 : ℤ) ≤ n ∧ (n : ℚ) < (2 : ℚ) ^ ((n.log2 : ℤ) + 1) := by
  constructor
  · rw [zpow_natCast]
    exact_mod_cast Nat.log2_self_le hn.ne'
  · have hnext : ((n.log2 : ℤ) + 1) = ((n.log2 + 1 : ℕ) : ℤ) := by push_cast; ring
    rw [hnext, zpow_natCast]
    exact_mod_cast Nat.lt_log2_self

/-- A positive ratio lies between two powers of two. -/
theorem floorLog2_spec {num den : ℕ} (hnum : 0 < num) (hden : 0 < den) :
    (2 : ℚ) ^ floorLog2 num den ≤ num / den ∧
      (num : ℚ) / den < (2 : ℚ) ^ (floorLog2 num den + 1) := by
  obtain ⟨hnumLow, hnumHigh⟩ := zpow_log2 hnum
  obtain ⟨hdenLow, hdenHigh⟩ := zpow_log2 hden
  have hpositive : (0 : ℚ) < den := by exact_mod_cast hden
  rw [floorLog2]
  generalize (num.log2 : ℤ) = a at hnumLow hnumHigh ⊢
  generalize (den.log2 : ℤ) = b at hdenLow hdenHigh ⊢
  -- the guess is off by one at most
  have hlow : (2 : ℚ) ^ (a - b - 1) ≤ num / den := by
    rw [le_div_iff₀ hpositive]
    calc (2 : ℚ) ^ (a - b - 1) * den ≤ (2 : ℚ) ^ (a - b - 1) * (2 : ℚ) ^ (b + 1) := by gcongr
      _ = (2 : ℚ) ^ a := by rw [← zpow_add₀ two_ne_zero]; congr 1; ring
      _ ≤ num := hnumLow
  have hhigh : (num : ℚ) / den < (2 : ℚ) ^ (a - b + 1) := by
    rw [div_lt_iff₀ hpositive]
    calc (num : ℚ) < (2 : ℚ) ^ (a + 1) := hnumHigh
      _ = (2 : ℚ) ^ (a - b + 1) * (2 : ℚ) ^ b := by
        rw [← zpow_add₀ two_ne_zero]; congr 1; ring
      _ ≤ (2 : ℚ) ^ (a - b + 1) * den := by gcongr
  obtain ⟨hscaled, hratio⟩ := scaleDown_spec num hden (a - b)
  generalize scaleDown num den (a - b) = scaled at hscaled hratio
  have hpower : (0 : ℚ) < (2 : ℚ) ^ (a - b) := by positivity
  have hscaledCast : (0 : ℚ) < scaled.2 := by exact_mod_cast hscaled
  have hreaches : scaled.2 ≤ scaled.1 ↔ (2 : ℚ) ^ (a - b) ≤ num / den := by
    rw [← Nat.cast_le (α := ℚ), ← one_le_div hscaledCast, hratio, one_le_div hpower]
  dsimp only
  split
  · rename_i hle
    exact ⟨hreaches.1 hle, hhigh⟩
  · rename_i hlt
    rw [hreaches, not_le] at hlt
    refine ⟨hlow, ?_⟩
    rwa [sub_add_cancel]

/-- Rounding to a whole number is off by a half at most. -/
theorem abs_roundDiv_sub_le (num : ℕ) {den : ℕ} (hden : 0 < den) :
    |(roundDiv num den : ℚ) - num / den| ≤ 1 / 2 := by
  have hpositive : (0 : ℚ) < den := by exact_mod_cast hden
  have hdivision : (num : ℚ) / den = (num / den : ℕ) + (num % den : ℕ) / den := by
    rw [div_eq_iff hpositive.ne', add_mul, div_mul_cancel₀ _ hpositive.ne']
    exact_mod_cast (Nat.div_add_mod' num den).symm
  have hlow : (0 : ℚ) ≤ (num % den : ℕ) / den := by positivity
  have hhigh : ((num % den : ℕ) : ℚ) / den ≤ 1 := by
    rw [div_le_one hpositive]
    exact_mod_cast (Nat.mod_lt num hden).le
  have hbelow (h : 2 * (num % den) ≤ den) : ((num % den : ℕ) : ℚ) / den ≤ 1 / 2 := by
    rw [div_le_div_iff₀ hpositive two_pos]
    exact_mod_cast (by omega : num % den * 2 ≤ 1 * den)
  have habove (h : den ≤ 2 * (num % den)) : 1 / 2 ≤ ((num % den : ℕ) : ℚ) / den := by
    rw [div_le_div_iff₀ two_pos hpositive]
    exact_mod_cast (by omega : 1 * den ≤ num % den * 2)
  rw [roundDiv, hdivision, abs_le]
  split
  · have hrest := hbelow (by omega)
    constructor <;> linarith
  · split
    · have hrest := habove (by omega)
      constructor <;> push_cast <;> linarith
    · have hrest := hbelow (by omega)
      have hrest' := habove (by omega)
      split
      · constructor <;> linarith
      · constructor <;> push_cast <;> linarith

/-- The exponent of a ratio of moderate size is far from the ends of the format. -/
theorem floorLog2_moderate {num den : ℕ} (hnum : 0 < num) (hden : 0 < den)
    (hlow : 1 / 1000000000000 ≤ (num : ℚ) / den)
    (hhigh : (num : ℚ) / den ≤ 1000000000000000000000000000000) :
    -45 < floorLog2 num den ∧ floorLog2 num den < 101 := by
  obtain ⟨hpowerLow, hpowerHigh⟩ := floorLog2_spec hnum hden
  constructor
  · by_contra hsmall
    have hpower : (2 : ℚ) ^ (floorLog2 num den + 1) ≤ (2 : ℚ) ^ (-44 : ℤ) :=
      zpow_le_zpow_right₀ one_le_two (by omega)
    norm_num at hpower hlow
    linarith
  · by_contra hlarge
    have hpower : (2 : ℚ) ^ (101 : ℤ) ≤ (2 : ℚ) ^ floorLog2 num den :=
      zpow_le_zpow_right₀ one_le_two (by omega)
    norm_num at hpower hhigh
    linarith

/-- Rounding a ratio to a multiple of a power of two is off by half of the power at most. -/
theorem abs_roundDiv_scaleDown_sub_le (num : ℕ) {den : ℕ} (hden : 0 < den) (power : ℤ) :
    |(roundDiv (scaleDown num den power).1 (scaleDown num den power).2 : ℚ) * (2 : ℚ) ^ power -
      num / den| ≤ 1 / 2 * (2 : ℚ) ^ power := by
  obtain ⟨hscaled, hratio⟩ := scaleDown_spec num hden power
  generalize scaleDown num den power = scaled at hscaled hratio ⊢
  have hround := abs_roundDiv_sub_le scaled.1 hscaled
  rw [hratio] at hround
  have hpower : (0 : ℚ) < (2 : ℚ) ^ power := by positivity
  calc |(roundDiv scaled.1 scaled.2 : ℚ) * (2 : ℚ) ^ power - num / den|
      = |(roundDiv scaled.1 scaled.2 : ℚ) - num / den / (2 : ℚ) ^ power| * (2 : ℚ) ^ power := by
        rw [← abs_of_pos hpower, ← abs_mul, abs_of_pos hpower, sub_mul,
          div_mul_cancel₀ _ hpower.ne']
    _ ≤ 1 / 2 * (2 : ℚ) ^ power := by gcongr

/-- A ratio of moderate size is rounded to a number that is off by half of `ulp` at most. -/
theorem exists_ofRatio (num : ℕ) {den : ℕ} (hden : 0 < den)
    (hlow : 1 / 1000000000000 ≤ (num : ℚ) / den)
    (hhigh : (num : ℚ) / den ≤ 1000000000000000000000000000000) :
    ∃ x, ofRatio? num den = some x ∧ |x.size - num / den| ≤ ulp / 2 * (num / den) := by
  have hnum : 0 < num := by
    rcases Nat.eq_zero_or_pos num with rfl | hpos
    · norm_num at hlow
    · exact hpos
  obtain ⟨hpowerLow, -⟩ := floorLog2_spec hnum hden
  obtain ⟨hfloorLow, hfloorHigh⟩ := floorLog2_moderate hnum hden hlow hhigh
  rw [ofRatio?, if_neg hnum.ne']
  generalize floorLog2 num den = floor at hpowerLow hfloorLow hfloorHigh
  have hexponent : max leastExponent (floor - 52) = floor - 52 := by
    rw [leastExponent]
    omega
  rw [hexponent]
  dsimp only
  have hround := abs_roundDiv_scaleDown_sub_le num hden (floor - 52)
  generalize scaleDown num den (floor - 52) = scaled at hround ⊢
  have hulp : (2 : ℚ) ^ (floor - 52) = ulp * (2 : ℚ) ^ floor := by
    rw [zpow_sub₀ two_ne_zero, ulp]
    norm_num
    ring
  have herror : |(roundDiv scaled.1 scaled.2 : ℚ) * (2 : ℚ) ^ (floor - 52) - num / den| ≤
      ulp / 2 * (num / den) := by
    calc |(roundDiv scaled.1 scaled.2 : ℚ) * (2 : ℚ) ^ (floor - 52) - num / den|
        ≤ 1 / 2 * (2 : ℚ) ^ (floor - 52) := hround
      _ = ulp / 2 * (2 : ℚ) ^ floor := by rw [hulp]; ring
      _ ≤ ulp / 2 * (num / den) := by
          have hpositive : (0 : ℚ) < ulp := by norm_num [ulp]
          gcongr
  -- a mantissa that is rounded up to a power of two takes the next exponent
  by_cases hcarry : roundDiv scaled.1 scaled.2 = Nat.pow 2 53
  · rw [if_pos hcarry]
    refine ⟨_, if_neg (by rw [largestExponent]; dsimp only; omega), ?_⟩
    have hsize : size ⟨false, Nat.pow 2 52, floor - 52 + 1⟩ =
        (roundDiv scaled.1 scaled.2 : ℚ) * (2 : ℚ) ^ (floor - 52) := by
      rw [hcarry, size, zpow_add_one₀ two_ne_zero]
      norm_num
      ring
    rwa [hsize]
  · rw [if_neg hcarry]
    refine ⟨_, if_neg (by rw [largestExponent]; dsimp only; omega), ?_⟩
    exact herror

/-- A ratio that is off by some errors is rounded to a number that is off by one more. -/
theorem near_ofRatio {num den : ℕ} {exact : ℚ} {errors : ℕ} (hden : 0 < den) (hfew : errors ≤ 1000)
    (hclose : |(num : ℚ) / den - exact| ≤ errors * ulp * exact) (hexact : Moderate exact) :
    ∃ x, ofRatio? num den = some x ∧ x.Near exact (errors + 1) := by
  have hulp : ulp = 1 / 4503599627370496 := rfl
  have herrors : (errors : ℚ) ≤ 1000 := by exact_mod_cast hfew
  have hnonneg : (0 : ℚ) ≤ errors := by positivity
  rcases hexact with rfl | ⟨hlow, hhigh⟩
  · have hzero : (num : ℚ) / den = 0 := by simpa using hclose
    have hnum : num = 0 := by
      have hpositive : (den : ℚ) ≠ 0 := by exact_mod_cast hden.ne'
      simpa [hpositive] using hzero
    refine ⟨zero, by rw [ofRatio?, if_pos hnum], ?_⟩
    simp [Near, size, zero]
  · have hsmall : errors * ulp * exact ≤ exact / 2 := by
      rw [hulp]
      nlinarith
    have hrange := abs_le.1 hclose
    obtain ⟨x, hx, herror⟩ := exists_ofRatio num hden (by linarith) (by linarith)
    refine ⟨x, hx, ?_⟩
    have hlast : ulp / 2 * (num / den) ≤ ulp * exact := by
      rw [hulp]
      linarith
    calc |x.size - exact| ≤ |x.size - num / den| + |num / den - exact| := abs_sub_le _ _ _
      _ ≤ ulp * exact + errors * ulp * exact := add_le_add (herror.trans hlast) hclose
      _ = (errors + 1 : ℕ) * ulp * exact := by push_cast; ring

/-- Whole numbers up to 10¹⁸ are of moderate size, and so are they divided by a million. -/
theorem moderate_natCast {n : ℕ} (h : n ≤ 1000000000000000000) :
    Moderate n ∧ Moderate ((n : ℚ) / 1000000) := by
  rcases Nat.eq_zero_or_pos n with rfl | hpos
  · exact ⟨.inl (by norm_num), .inl (by norm_num)⟩
  · have hone : (1 : ℚ) ≤ n := by exact_mod_cast hpos
    have hlarge : (n : ℚ) ≤ 1000000000000000000 := by exact_mod_cast h
    exact ⟨.inr ⟨by linarith, by linarith⟩, .inr ⟨by linarith, by linarith⟩⟩

/-- A whole number is off by one error at most. -/
theorem near_ofNat {n : ℕ} (h : n ≤ 1000000000000000000) : (ofNat n).Near n 1 := by
  have hexact : |(n : ℚ) / (1 : ℕ) - n| ≤ (0 : ℕ) * ulp * n := by simp
  obtain ⟨x, hx, hnear⟩ := near_ofRatio one_pos (Nat.zero_le _) hexact (moderate_natCast h).1
  rw [ofNat, hx]
  exact hnear

variable {x y : Binary64} {first second : ℚ} {errors : ℕ}

/-- What is off by some errors is off by more at most. -/
theorem Near.mono {more : ℕ} (h : x.Near first errors) (hfirst : 0 ≤ first) (hle : errors ≤ more) :
    x.Near first more := by
  have hmore : (errors : ℚ) ≤ more := by exact_mod_cast hle
  have hulp : (0 : ℚ) ≤ ulp := by norm_num [ulp]
  refine le_trans h ?_
  gcongr

/-- A sum is off by one more error than its parts. -/
theorem Near.add (hfirst : x.Near first errors) (hsecond : y.Near second errors)
    (hfew : errors ≤ 1000) (hsum : Moderate (first + second)) :
    ∃ z, x.add? y = some z ∧ z.Near (first + second) (errors + 1) := by
  obtain ⟨hx, hxsize⟩ := x.toRatio_spec
  obtain ⟨hy, hysize⟩ := y.toRatio_spec
  rw [add?]
  dsimp only
  refine near_ofRatio (Nat.mul_pos hx hy) hfew ?_ hsum
  have hxne : (x.toRatio.2 : ℚ) ≠ 0 := by exact_mod_cast hx.ne'
  have hyne : (y.toRatio.2 : ℚ) ≠ 0 := by exact_mod_cast hy.ne'
  have hratio : ((x.toRatio.1 * y.toRatio.2 + y.toRatio.1 * x.toRatio.2 : ℕ) : ℚ) /
      (x.toRatio.2 * y.toRatio.2 : ℕ) = x.size + y.size := by
    rw [← hxsize, ← hysize, div_add_div _ _ hxne hyne]
    push_cast
    ring
  rw [hratio]
  calc |x.size + y.size - (first + second)| = |(x.size - first) + (y.size - second)| := by ring_nf
    _ ≤ |x.size - first| + |y.size - second| := abs_add_le _ _
    _ ≤ errors * ulp * first + errors * ulp * second := add_le_add hfirst hsecond
    _ = errors * ulp * (first + second) := by ring

/-- A product with a number that is exact is off by one more error. -/
theorem Near.mul (h : x.Near first errors) (hsecond : y.size = second) (hpos : 0 < second)
    (hfew : errors ≤ 1000) (hproduct : Moderate (first * second)) :
    ∃ z, x.mul? y = some z ∧ z.Near (first * second) (errors + 1) := by
  obtain ⟨hx, hxsize⟩ := x.toRatio_spec
  obtain ⟨hy, hysize⟩ := y.toRatio_spec
  rw [mul?]
  dsimp only
  refine near_ofRatio (Nat.mul_pos hx hy) hfew ?_ hproduct
  have hratio : ((x.toRatio.1 * y.toRatio.1 : ℕ) : ℚ) / (x.toRatio.2 * y.toRatio.2 : ℕ) =
      x.size * second := by
    rw [← hsecond, ← hxsize, ← hysize, div_mul_div_comm]
    push_cast
    rfl
  rw [hratio, ← sub_mul, abs_mul, abs_of_pos hpos, ← mul_assoc]
  exact mul_le_mul_of_nonneg_right h hpos.le

/-- A quotient by a number that is exact is off by one more error. -/
theorem Near.div (h : x.Near first errors) (hsecond : y.size = second) (hpos : 0 < second)
    (hfew : errors ≤ 1000) (hquotient : Moderate (first / second)) :
    ∃ z, x.div? y = some z ∧ z.Near (first / second) (errors + 1) := by
  obtain ⟨hx, hxsize⟩ := x.toRatio_spec
  obtain ⟨hy, hysize⟩ := y.toRatio_spec
  have hnum : 0 < y.toRatio.1 := by
    rcases Nat.eq_zero_or_pos y.toRatio.1 with hzero | hnum
    · rw [hzero, Nat.cast_zero, zero_div, hsecond] at hysize
      exact absurd hysize hpos.ne
    · exact hnum
  rw [div?]
  dsimp only
  refine near_ofRatio (Nat.mul_pos hx hnum) hfew ?_ hquotient
  have hratio : ((x.toRatio.1 * y.toRatio.2 : ℕ) : ℚ) / (x.toRatio.2 * y.toRatio.1 : ℕ) =
      x.size / second := by
    rw [← hsecond, ← hxsize, ← hysize, div_div_div_eq]
    push_cast
    rfl
  rw [hratio, ← sub_div, abs_div, abs_of_pos hpos, mul_div_assoc']
  gcongr
  exact h

/-- A ratio that is off by less than a half is rounded to the whole number. -/
theorem roundDiv_of_near {num den n : ℕ} (hden : 0 < den) (h : |(num : ℚ) / den - n| < 1 / 2) :
    roundDiv num den = n := by
  have hround := abs_roundDiv_sub_le num hden
  have hclose : |(roundDiv num den : ℚ) - n| < 1 := by
    calc |(roundDiv num den : ℚ) - n|
        ≤ |(roundDiv num den : ℚ) - num / den| + |(num : ℚ) / den - n| := abs_sub_le _ _ _
      _ < 1 := by linarith
  have hsame : |(roundDiv num den : ℤ) - n| < 1 := by exact_mod_cast hclose
  have hequal := Int.abs_lt_one_iff.1 hsame
  omega

end Gatehouse.Binary64
