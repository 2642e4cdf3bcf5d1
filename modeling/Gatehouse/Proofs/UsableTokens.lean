import Gatehouse.Proofs.Token
import Gatehouse.Settings

/-!
# Lifetimes of access tokens

Which settings are accepted, and which of them issue access tokens that can be used. Settings are
checked by the exact length of a token's lifetime, while tokens count whole seconds. Main statement:
under accepted settings a token is verified when it is issued, with a positive lifetime, exactly if
its lifetime is a second or longer, and has expired by then otherwise (`tokens_usable`).
-/

namespace Gatehouse

/-- A lifetime has a whole second exactly if it is a second or longer. -/
theorem Duration.seconds_pos_iff {duration : Duration} :
    0 < duration.seconds ↔ nanosPerSecond ≤ duration.nanos := by
  rw [seconds, Nat.div_pos_iff]
  exact and_iff_right (by decide)

/-- A token that is issued before the last second of the clock lives on exactly if its lifetime has
a whole second. -/
theorem Token.Issuer.lt_expiry_iff {issuer : Issuer} {now : Int64}
    (hnow : now.toInt < largestSeconds) :
    now < issuer.expiry now ↔ 0 < issuer.lifetime.seconds := by
  rw [Int64.lt_iff_toInt_lt, toInt_expiry]
  -- an expiry that is cut off is the last second of the clock, which is later than now
  rw [largestSeconds] at hnow ⊢
  omega

namespace Settings

variable {settings : Settings}

/-- Settings are accepted if the secret is long enough, every length of time that has to be positive
is, and so is the number of rows that are deleted at once. -/
theorem check_eq_ok_iff :
    settings.check = .ok () ↔ shortestSecret ≤ settings.secret.length ∧
      (∀ named ∈ settings.durations, 0 < named.2.nanos) ∧ settings.sweep.batchSize ≠ 0 := by
  rw [check]
  split
  · rename_i hshort
    exact iff_of_false (by rintro ⟨⟩) fun h => absurd h.1 (Nat.not_le_of_lt hshort)
  · rename_i hlong
    rw [Nat.not_lt] at hlong
    split
    · rename_i name duration hzero
      refine iff_of_false (by rintro ⟨⟩) fun h => ?_
      have hpositive : 0 < duration.nanos :=
        h.2.1 (name, duration) (List.mem_of_find?_eq_some hzero)
      have hnone := List.find?_some hzero
      simp only [Duration.isZero, beq_iff_eq] at hnone
      omega
    · rename_i hpositive
      have hpositive : ∀ named ∈ settings.durations, 0 < named.2.nanos := fun named hmem => by
        have hnamed := List.find?_eq_none.1 hpositive named hmem
        simp only [Duration.isZero, beq_iff_eq] at hnamed
        omega
      split
      · rename_i hbatch
        exact iff_of_false (by rintro ⟨⟩) fun h => h.2.2 hbatch
      · rename_i hbatch
        exact iff_of_true rfl ⟨hlong, hpositive, hbatch⟩

/-- Under accepted settings, a token that is issued before the last second of the clock is verified
at once and has a positive lifetime in seconds, if its lifetime is a second or longer. The only
other accepted lifetimes are fractions of a second, and then the token has expired at once and its
lifetime in seconds is zero. -/
theorem tokens_usable (hcheck : settings.check = .ok ()) (context : Context)
    (entropy : Token.Entropy) {now : Int64} (hnow : now.toInt < Token.largestSeconds) :
    let issued := settings.issuer.issue context now entropy
    let verified := settings.issuer.verify issued.token now
    (Duration.nanosPerSecond ≤ settings.accessTtl.nanos ∧
        verified = .ok issued.claims ∧ 0 < issued.expiresIn) ∨
      (0 < settings.accessTtl.nanos ∧ settings.accessTtl.nanos < Duration.nanosPerSecond ∧
        verified = .error .expired ∧ issued.expiresIn = 0) := by
  intro issued verified
  have hpositive : 0 < settings.accessTtl.nanos :=
    (check_eq_ok_iff.1 hcheck).2.1 ("access token TTL", settings.accessTtl) List.mem_cons_self
  have hverified : verified = if now < settings.issuer.expiry now then .ok issued.claims
      else .error .expired :=
    settings.issuer.verify_issue settings.issuer.lifetime context now entropy now
  -- the check reads the exact lifetime, and the token its whole seconds
  have hlife : now < settings.issuer.expiry now ↔ 0 < issued.expiresIn :=
    Token.Issuer.lt_expiry_iff hnow
  have hseconds : 0 < issued.expiresIn ↔ Duration.nanosPerSecond ≤ settings.accessTtl.nanos :=
    Duration.seconds_pos_iff
  rw [hverified]
  by_cases hlong : Duration.nanosPerSecond ≤ settings.accessTtl.nanos
  · have hlives := hseconds.2 hlong
    exact .inl ⟨hlong, if_pos (hlife.2 hlives), hlives⟩
  · have hdies := mt hseconds.1 hlong
    exact .inr ⟨hpositive, Nat.lt_of_not_le hlong, if_neg (mt hlife.1 hdies),
      Nat.eq_zero_of_not_pos hdies⟩

/-- Settings with a lifetime for access tokens, and all else as usual. -/
def plainLasting (lifetime : Duration) : Settings :=
  { secret := List.replicate 32 7, accessTtl := lifetime }

/-- With a lifetime of one second, a token that is issued a second before the clock's last can be
used. -/
theorem tokens_usable_second :
    let settings := plainLasting (.ofSeconds 1)
    let issued := settings.issuer.issue ⟨7, .staff, "ana", some .stylist, .empty⟩
      0x7FFFFFFFFFFFFFFE []
    settings.check = .ok () ∧
      settings.issuer.verify issued.token 0x7FFFFFFFFFFFFFFE = .ok issued.claims ∧
      0 < issued.expiresIn := by
  intro settings issued
  have hcheck : settings.check = .ok () := rfl
  have hnow : (0x7FFFFFFFFFFFFFFE : Int64).toInt < Token.largestSeconds := by decide
  rcases tokens_usable hcheck ⟨7, .staff, "ana", some .stylist, .empty⟩ [] hnow with
    ⟨-, h⟩ | ⟨-, hshort, -⟩
  · exact ⟨hcheck, h⟩
  · exact absurd hshort (by decide)

/-- A lifetime of half a second is accepted, and the token has expired when it is issued. -/
theorem half_second_unusable :
    let settings := plainLasting (.ofMillis 500)
    let issued := settings.issuer.issue ⟨7, .staff, "ana", some .stylist, .empty⟩ 1700000000 []
    settings.check = .ok () ∧
      settings.issuer.verify issued.token 1700000000 = .error .expired ∧ issued.expiresIn = 0 := by
  intro settings issued
  refine ⟨rfl, ?_, by decide⟩
  exact (settings.issuer.verify_issue settings.issuer.lifetime _ _ _ _).trans (if_neg (by decide))

end Settings

end Gatehouse
