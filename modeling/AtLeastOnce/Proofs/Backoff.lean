import AtLeastOnce.Backoff
import AtLeastOnce.Proofs.Number.Rounding

/-!
# There is always a delay

The cap bounds the growth, whatever the multiplier does to it: an infinity, a negative
number or no number at all.  The spread then stays within a finite range, so a delay
can be drawn after every failure and fits a duration.
-/

namespace AtLeastOnce

namespace Double

/-- The number is at most `2 ^ bits` units, with no bound below. -/
inductive AtMost (bits : Nat) : Double → Prop where
  | below : AtMost bits (.infinite true)
  | negative (units : Nat) : AtMost bits (.finite true units)
  | positive {units : Nat} (few : units ≤ 2 ^ bits) : AtMost bits (.finite false units)

section

variable {bits : Nat} {left right value range sample : Double}

theorem Fits.atMost (fits : value.Fits bits) : value.AtMost bits := by
  obtain ⟨negative, units, rfl, few⟩ := fits
  cases negative with
  | true => exact .negative units
  | false => exact .positive few

theorem AtMost.mono {more : Nat} (most : value.AtMost bits) (fewer : bits ≤ more) :
    value.AtMost more := by
  cases most with
  | below => exact .below
  | negative units => exact .negative units
  | positive few =>
      exact .positive (Nat.le_trans few (Nat.pow_le_pow_right Nat.two_pos fewer))

theorem atMost_min (fits : right.Fits bits) : (left.min right).AtMost bits := by
  obtain ⟨sign, cap, rfl, few⟩ := fits
  have atCap : AtMost bits (.finite sign cap) := Fits.atMost ⟨sign, cap, rfl, few⟩
  cases left with
  | nan => exact atCap
  | infinite negative =>
      cases negative with
      | true => exact .below
      | false => exact atCap
  | finite negative units =>
      cases smaller : Double.le (.finite negative units) (.finite sign cap) with
      | false => simpa [Double.min, isNaN, smaller] using atCap
      | true =>
          have picked : Double.min (.finite negative units) (.finite sign cap) =
              .finite negative units := by simp [Double.min, isNaN, smaller]
          rw [picked]
          cases negative with
          | true => exact .negative units
          | false =>
              apply AtMost.positive
              simp only [le, signedUnits, Bool.false_eq_true, if_false, decide_eq_true_eq]
                at smaller
              cases sign with
              | true => simp at smaller; omega
              | false => simp at smaller; omega

theorem ofUnits_le_zero (numerator denominator : Nat) :
    (ofUnits true numerator denominator).le .zero = true := by
  unfold ofUnits
  dsimp only
  split
  · simp [le, zero, signedUnits]
  · rfl

theorem zero_le_of_not_le_zero (finite : value.isFinite = true)
    (above : value.le .zero = false) : zero.le value = true := by
  cases value with
  | nan | infinite => cases finite
  | finite negative units =>
      simp only [le, zero, decide_eq_false_iff_not, decide_eq_true_eq] at above ⊢
      omega

/-- A sample between a finite range and its opposite. -/
theorem fits_of_between (fits : range.Fits bits) (low : range.neg.le sample = true)
    (high : sample.le range = true) : sample.Fits bits := by
  obtain ⟨sign, units, rfl, few⟩ := fits
  cases sample with
  | nan => cases high
  | infinite negative =>
      cases negative with
      | true => cases low
      | false => cases high
  | finite negative amount =>
      refine ⟨negative, amount, rfl, Nat.le_trans ?_ few⟩
      simp only [le, neg, decide_eq_true_eq] at low high
      cases sign <;> cases negative <;> simp [signedUnits] at low high <;> omega

end

end Double

open Double

theorem ofNat_nanosecondsPerSecond :
    Double.ofNat Duration.nanosecondsPerSecond =
      .finite false (Duration.nanosecondsPerSecond * unitsPerOne) := by
  decide +kernel

theorem Duration.fits_toDouble {duration : Duration} (short : duration.seconds ≤ 2 ^ 55) :
    duration.toDouble.Fits 1130 := by
  have whole : (Double.ofNat duration.seconds).Fits (55 + 1074) := fits_ofNat (by decide) short
  have fraction : (Double.ofNat duration.subsecond).Fits (30 + 1074) := by
    apply fits_ofNat (by decide)
    have below : duration.subsecond < nanosecondsPerSecond := Nat.mod_lt _ (by decide)
    simp only [nanosecondsPerSecond] at below
    omega
  have quotient : ((Double.ofNat duration.subsecond).div
      (Double.ofNat nanosecondsPerSecond)).Fits (55 + 1074) := by
    rw [ofNat_nanosecondsPerSecond]
    exact (fraction.div false (by decide) (Nat.le_mul_of_pos_left _ (by decide))).mono (by decide)
  exact whole.add (by decide) quotient

namespace Duration

theorem lt_secondsLimit {units bits : Nat} (few : units ≤ 2 ^ bits) (short : bits < 64 + 1074) :
    units < secondsLimit * unitsPerOne := by
  have limit : secondsLimit = 2 ^ 64 := by decide
  rw [limit, unitsPerOne_eq]
  generalize 1074 = exponent at *
  rw [← Nat.pow_add]
  exact Nat.lt_of_le_of_lt few (Nat.pow_lt_pow_right Nat.one_lt_two short)

theorem ofDouble?_finite {negative : Bool} {units : Nat} (some_sign : negative = true → units = 0)
    (few : units < secondsLimit * unitsPerOne) :
    (ofDouble? (.finite negative units)).isSome = true := by
  cases negative with
  | true =>
      obtain rfl := some_sign rfl
      simp [ofDouble?, Nat.ne_of_gt few]
  | false => simp [ofDouble?, few]

/-- A number that is not too large, raised to zero, fits a duration. -/
theorem ofDouble?_isSome {seconds : Double} {bits : Nat} (most : seconds.AtMost bits)
    (short : bits < 64 + 1074) : (ofDouble? (seconds.max .zero)).isSome = true := by
  have nothing : 0 < secondsLimit * unitsPerOne := lt_secondsLimit (Nat.zero_le (2 ^ bits)) short
  cases most with
  | below => exact ofDouble?_finite (by simp) nothing
  | negative units =>
      by_cases zero : units = 0
      · subst zero
        exact ofDouble?_finite (fun _ => rfl) nothing
      · have raised : Double.max (.finite true units) .zero = .zero := by
          simp [Double.max, Double.zero, isNaN, le, signedUnits, zero]
        rw [raised]
        exact ofDouble?_finite (by simp) nothing
  | @positive units few =>
      have kept : Double.max (.finite false units) .zero = .finite false units := by
        simp [Double.max, Double.zero, isNaN, le, signedUnits]
      rw [kept]
      exact ofDouble?_finite (by simp) (lt_secondsLimit few short)

end Duration

namespace Backoff

variable {policy : Backoff} {sampler : Sampler} {share bits : Nat} {delay : Double}

theorem Sampler.fair_id : Sampler.Fair fun range => range := by
  intro range finite positive
  cases range with
  | nan | infinite => cases finite
  | finite negative units =>
      cases negative with
      | true =>
          simp [Double.le, Double.zero, Double.neg, Double.signedUnits] at positive ⊢
          omega
      | false => simp [Double.le, Double.neg, Double.signedUnits]

/-- A spread is left out, or drawn from a finite range. -/
theorem spread?_atMost (fair : sampler.Fair) (finite : bits + 1 < 2098)
    (most : delay.AtMost bits) (some_share : 0 < share) (part : share ≤ unitsPerOne) :
    ∃ seconds, spread? sampler delay (.finite false share) = some seconds ∧
      seconds.AtMost (bits + 1) := by
  cases unspread : (delay.mul (.finite false share)).le .zero with
  | true =>
      exact ⟨delay, by simp [spread?, unspread], most.mono (Nat.le_succ bits)⟩
  | false =>
      cases most with
      | below =>
          have range : (infinite true).mul (.finite false share) = .infinite true := by
            simp [mul, Nat.ne_of_gt some_share]
          rw [range] at unspread
          cases unspread
      | negative units =>
          have range := ofUnits_le_zero (units * share) unitsPerOne
          exact absurd (range.symm.trans unspread) (by decide)
      | @positive units few =>
          have fits : (Double.finite false units).Fits bits := ⟨false, units, rfl, few⟩
          have range := fits.mul false (by omega) part
          have sampled := fair _ range.isFinite (zero_le_of_not_le_zero range.isFinite unspread)
          have sample := fits_of_between range sampled.1 sampled.2
          have drawn := (range.add finite range).isFinite
          exact ⟨_, by simp [spread?, unspread, drawn], (fits.add finite sample).atMost⟩

theorem seconds?_atMost (fair : sampler.Fair)
    (jitterShare : policy.jitterShare = .finite false share)
    (some_share : 0 < share) (part : share ≤ unitsPerOne) (short : policy.cap.seconds ≤ 2 ^ 55)
    (attempt : Nat) :
    ∃ seconds, policy.seconds? sampler attempt = some seconds ∧ seconds.AtMost 1131 := by
  have capped : (policy.cappedSeconds attempt).AtMost 1130 :=
    atMost_min (Duration.fits_toDouble short)
  cases spread : policy.jitter with
  | true =>
      simp only [seconds?, spread, jitterShare, if_true]
      exact spread?_atMost fair (by decide) capped some_share part
  | false => exact ⟨_, by simp [seconds?, spread], capped.mono (by decide)⟩

/-- After every failure there is a delay, unless the cap or the spread is out of
bounds. -/
theorem delay?_isSome (fair : sampler.Fair) (jitterShare : policy.jitterShare = .finite false share)
    (some_share : 0 < share) (part : share ≤ unitsPerOne) (short : policy.cap.seconds ≤ 2 ^ 55)
    (attempt : Nat) : (policy.delay? sampler attempt).isSome = true := by
  obtain ⟨seconds, drawn, most⟩ :=
    seconds?_atMost fair jitterShare some_share part short attempt
  rw [delay?, drawn, Option.bind_some]
  exact Duration.ofDouble?_isSome most (by decide)

end Backoff

end AtLeastOnce
