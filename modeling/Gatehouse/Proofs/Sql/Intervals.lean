import Gatehouse.Proofs.Binary64
import Gatehouse.Proofs.Sql.Entries

/-!
# Intervals

A lifetime goes to a database as a floating-point number of seconds, and the database makes whole
microseconds of it. Main statement: up to seventeen years, the microseconds are those of the
lifetime (`interval?_secondsOf`), so that such a lifetime can be represented in a database and in
memory (`Clock.represents_of_lt`).
-/

namespace Gatehouse

namespace Sql

open Binary64

/-- The nanoseconds of a second are exact. -/
theorem size_nanosPerSecond : (ofNat Duration.nanosPerSecond).size = 1000000000 := by
  have hnumber : ofNat Duration.nanosPerSecond = ⟨false, 8388608000000000, -23⟩ := by
    decide +kernel
  rw [hnumber, size]
  norm_num

/-- The microseconds of a second are exact. -/
theorem size_microsPerSecond : (ofNat microsPerSecond).size = 1000000 := by
  have hnumber : ofNat microsPerSecond = ⟨false, 8589934592000000, -33⟩ := by
    decide +kernel
  rw [hnumber, size]
  norm_num

/-- The seconds of a lifetime of whole microseconds are off by three errors at most. -/
theorem near_secondsOf {span : ℕ} (h : span < 0x2000000000000) :
    (secondsOf ⟨1000 * span⟩).Near (span / 1000000) 3 := by
  have hseconds : (⟨1000 * span⟩ : Duration).seconds = span / 1000000 := by
    show 1000 * span / 1000000000 = span / 1000000
    omega
  have hnanos : 1000 * span % Duration.nanosPerSecond = 1000 * (span % 1000000) := by
    rw [Duration.nanosPerSecond]
    omega
  have hrest : span % 1000000 < 1000000 := Nat.mod_lt _ (by decide)
  -- the whole seconds, the fraction, and their sum
  have hwhole := near_ofNat (n := span / 1000000) (by omega)
  have hmicros := near_ofNat (n := 1000 * (span % 1000000)) (by omega)
  have hquotient : ((1000 * (span % 1000000) : ℕ) : ℚ) / 1000000000 =
      ((span % 1000000 : ℕ) : ℚ) / 1000000 := by
    push_cast
    ring
  obtain ⟨fraction, hfraction, hfractionNear⟩ := hmicros.div size_nanosPerSecond (by norm_num)
    (by decide) (by rw [hquotient]; exact (moderate_natCast (by omega)).2)
  rw [hquotient] at hfractionNear
  have hsum : ((span / 1000000 : ℕ) : ℚ) + ((span % 1000000 : ℕ) : ℚ) / 1000000 =
      span / 1000000 := by
    rw [eq_div_iff (by norm_num), add_mul, div_mul_cancel₀ _ (by norm_num)]
    exact_mod_cast Nat.div_add_mod' span 1000000
  obtain ⟨sum, hsumIs, hsumNear⟩ := (hwhole.mono (by positivity) one_le_two).add hfractionNear
    (by decide) (by rw [hsum]; exact (moderate_natCast (by omega)).2)
  rw [hsum] at hsumNear
  rw [secondsOf, hseconds, hnanos, hfraction]
  dsimp only [Option.getD_some]
  rw [hsumIs]
  exact hsumNear

/-- A database makes of a lifetime of whole microseconds the same microseconds. -/
theorem interval?_secondsOf {span : ℕ} (h : span < 0x2000000000000) :
    interval? (secondsOf ⟨1000 * span⟩) = some span := by
  have hproduct : (span : ℚ) / 1000000 * 1000000 = span := div_mul_cancel₀ _ (by norm_num)
  obtain ⟨micros, hmicros, hnear⟩ := (near_secondsOf h).mul size_microsPerSecond (by norm_num)
    (by decide) (by rw [hproduct]; exact (moderate_natCast (by omega)).1)
  rw [hproduct] at hnear
  rw [interval?, hmicros, Option.map_some]
  obtain ⟨hpos, hsize⟩ := micros.toRatio_spec
  refine congrArg some (roundDiv_of_near hpos ?_)
  rw [hsize]
  refine lt_of_le_of_lt hnear ?_
  have hlarge : (span : ℚ) < 0x2000000000000 := by exact_mod_cast h
  rw [ulp]
  norm_num
  linarith

end Sql

/-- Lifetimes of whole microseconds up to seventeen years can be represented, if the clock can show
their ends. -/
theorem Clock.represents_of_lt {clock : Clock} {span : ℕ} (hspan : span < 0x2000000000000)
    (hclock : (clock.instant.plus? ⟨1000 * span⟩).isSome) : clock.Represents ⟨1000 * span⟩ :=
  ⟨hclock, span, Sql.interval?_secondsOf hspan, rfl⟩

end Gatehouse
