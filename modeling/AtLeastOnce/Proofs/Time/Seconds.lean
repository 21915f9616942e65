import AtLeastOnce.Proofs.Backoff
import AtLeastOnce.Proofs.Number.Accuracy

/-!
# Durations as seconds and back

The seconds of a duration as a double are rounded twice, as parts and as a sum; below
`2 ^ 23` seconds the duration comes back from them as it was.  A duration made from seconds
is the nearest one, so it grows with them.
-/

namespace AtLeastOnce

open Double

namespace Duration

variable {duration : Duration}

/-- The duration as an exact number of seconds. -/
def inSeconds (duration : Duration) : ℚ := duration.nanoseconds / 10 ^ 9

theorem inSeconds_nonneg (duration : Duration) : 0 ≤ duration.inSeconds := by
  unfold inSeconds
  positivity

theorem inSeconds_eq (duration : Duration) :
    duration.inSeconds = duration.seconds + (duration.subsecond : ℚ) / 10 ^ 9 := by
  have parts : duration.seconds * 10 ^ 9 + duration.subsecond = duration.nanoseconds :=
    Nat.div_add_mod' duration.nanoseconds nanosecondsPerSecond
  have parts' : (duration.seconds * 10 ^ 9 + duration.subsecond : ℚ) = duration.nanoseconds := by
    exact_mod_cast parts
  rw [inSeconds, ← parts']
  ring

theorem subsecond_lt (duration : Duration) : duration.subsecond < 10 ^ 9 :=
  Nat.mod_lt _ (by decide)

theorem scaled_pos : 0 < nanosecondsPerSecond * unitsPerOne :=
  Nat.mul_pos (by decide) unitsPerOne_pos

theorem subsecond_div_le (duration : Duration) : (duration.subsecond : ℚ) / 10 ^ 9 ≤ 1 := by
  rw [div_le_one (by positivity)]
  exact_mod_cast (subsecond_lt duration).le

theorem inSeconds_le (duration : Duration) : duration.inSeconds ≤ duration.seconds + 1 := by
  rw [inSeconds_eq]
  linarith [subsecond_div_le duration]

theorem mul_slack_pow_lt {count : ℕ} {exact : ℚ} (few : count ≤ 2 ^ 52)
    (small : exact ≤ 2 ^ 65) : exact * slack ^ count < 2 ^ 200 := by
  calc exact * slack ^ count ≤ 2 ^ 65 * 2 :=
        mul_le_mul small (slack_pow_le_two few) (slack_pow_pos count).le (by positivity)
    _ < 2 ^ 200 := by norm_num

theorem nanosecondsPerSecond_cast : (nanosecondsPerSecond : ℚ) = 10 ^ 9 := by
  norm_num [nanosecondsPerSecond]

/-- The whole nanoseconds are exact, so the fraction of a second is rounded only once. -/
theorem fraction_eq (duration : Duration) :
    (Double.ofNat duration.subsecond).div (Double.ofNat nanosecondsPerSecond) =
      ofUnits false (duration.subsecond * unitsPerOne * unitsPerOne)
        (nanosecondsPerSecond * unitsPerOne) := by
  have whole : Double.ofNat duration.subsecond =
      .finite false (duration.subsecond * unitsPerOne) :=
    ofNat_of_lt ((subsecond_lt duration).trans (by decide))
  rw [whole, ofNat_nanosecondsPerSecond, div_finite scaled_pos]

theorem exists_fraction (duration : Duration) :
    ∃ units, (Double.ofNat duration.subsecond).div (Double.ofNat nanosecondsPerSecond) =
        .finite false units ∧
      Close 1 (amount units) ((duration.subsecond : ℚ) / 10 ^ 9) := by
  have normalized : Normalized (duration.subsecond * unitsPerOne * unitsPerOne)
      (nanosecondsPerSecond * unitsPerOne) := by
    rcases Nat.eq_zero_or_pos duration.subsecond with zero | positive
    · left
      rw [zero, Nat.zero_mul, Nat.zero_mul]
    · right
      have hundred : 2 ^ 100 ≤ unitsPerOne := two_pow_le_unitsPerOne (by decide)
      have enough : nanosecondsPerSecond * 2 ^ 52 ≤ 2 ^ 100 := by decide
      rw [Nat.mul_right_comm]
      apply Nat.mul_le_mul_right
      exact enough.trans (hundred.trans (Nat.le_mul_of_pos_left _ positive))
  have quotient : ((duration.subsecond * unitsPerOne * unitsPerOne : ℕ) : ℚ) /
      (nanosecondsPerSecond * unitsPerOne : ℕ) / unitsPerOne =
        (duration.subsecond : ℚ) / 10 ^ 9 := by
    have := unitsPerOne_cast_pos
    push_cast
    rw [nanosecondsPerSecond_cast]
    field_simp
  rw [fraction_eq]
  apply (Tracks.ofUnits scaled_pos normalized _).exists_close
  · exact mul_slack_pow_lt (by decide) ((subsecond_div_le duration).trans (by norm_num))
  · rw [quotient]
    exact .refl _

/-- The seconds of a duration as a double. -/
theorem exists_toDouble (short : duration.seconds < 2 ^ 64) :
    ∃ units, duration.toDouble = .finite false units ∧
      Close 2 (amount units) duration.inSeconds := by
  have below : (duration.seconds : ℚ) ≤ 2 ^ 64 := by exact_mod_cast short.le
  obtain ⟨units, whole, close⟩ := (tracks_ofNat duration.seconds).exists_close
    (mul_slack_pow_lt (by decide) (below.trans (by norm_num)))
  obtain ⟨units', fraction, close'⟩ := exists_fraction duration
  have normal : Normalized (units + units') 1 := by
    have first := zero_or_many 52 close (substantial_natCast _) (by decide) (by decide)
    have second := zero_or_many 52 close' (substantial_div _) (by decide) (by decide)
    unfold Normalized
    omega
  have sum : Close 1 (((units + units' : ℕ) : ℚ) / (1 : ℕ) / unitsPerOne)
      duration.inSeconds := by
    rw [amount_add_amount, inSeconds_eq]
    exact close.add close'
  rw [toDouble, whole, fraction, add_finite]
  apply (Tracks.ofUnits Nat.one_pos normal sum).exists_close
  apply mul_slack_pow_lt (by decide)
  linarith [inSeconds_le duration]

theorem fraction_le_one (duration : Duration) :
    ((Double.ofNat duration.subsecond).div (Double.ofNat nanosecondsPerSecond)).le one =
      true := by
  have below : duration.subsecond ≤ nanosecondsPerSecond := (subsecond_lt duration).le
  have unit : one = ofUnits false unitsPerOne 1 := by decide +kernel
  rw [fraction_eq, unit]
  apply ofUnits_le_ofUnits scaled_pos Nat.one_pos
  rw [Nat.mul_one, Nat.mul_comm unitsPerOne]
  exact Nat.mul_le_mul_right _ (Nat.mul_le_mul_right _ below)

/-- Seconds that are not among the last thousand before the limit stay below it. -/
theorem toDouble_lt (short : duration.seconds < 2 ^ 64 - 2 ^ 10) {units : ℕ}
    (made : duration.toDouble = .finite false units) : units < secondsLimit * unitsPerOne := by
  have greatest : Double.ofNat (2 ^ 64 - 2 ^ 10 - 1) =
      .finite false ((2 ^ 64 - 2 ^ 11) * unitsPerOne) := by
    decide +kernel
  have sum : ofUnits false ((2 ^ 64 - 2 ^ 11 + 1) * unitsPerOne) 1 =
      .finite false ((2 ^ 64 - 2 ^ 11) * unitsPerOne) := by
    decide +kernel
  have below : (duration.seconds : ℚ) ≤ 2 ^ 64 := by
    exact_mod_cast (short.trans (by decide)).le
  obtain ⟨whole, isWhole, -⟩ := (tracks_ofNat duration.seconds).exists_close
    (mul_slack_pow_lt (by decide) (below.trans (by norm_num)))
  obtain ⟨fraction, isFraction, -⟩ := exists_fraction duration
  have wholeLe := ofNat_le_ofNat (Nat.le_sub_one_of_lt short)
  have fractionLe := fraction_le_one duration
  rw [isWhole, greatest, finite_le_iff] at wholeLe
  rw [isFraction, one, finite_le_iff] at fractionLe
  rw [toDouble, isWhole, isFraction, add_finite] at made
  have bounded : (ofUnits false (whole + fraction) 1).le
      (ofUnits false ((2 ^ 64 - 2 ^ 11 + 1) * unitsPerOne) 1) = true := by
    apply ofUnits_le_ofUnits Nat.one_pos Nat.one_pos
    rw [Nat.mul_one, Nat.mul_one, Nat.succ_mul]
    exact Nat.add_le_add wholeLe fractionLe
  rw [made, sum, finite_le_iff] at bounded
  apply bounded.trans_lt
  exact Nat.mul_lt_mul_of_pos_right (by decide) unitsPerOne_pos

/-- A double below one has a fraction that is rounded by at most half of a small step. -/
theorem fraction_within_half {step exponent fraction : ℕ} (power : step = 2 ^ exponent)
    (unit : unitsPerOne = 2 ^ 53 * step)
    (made : (Double.ofNat duration.subsecond).div (Double.ofNat nanosecondsPerSecond) =
      .finite false fraction) :
    2 * (duration.subsecond * unitsPerOne) ≤
        2 * (nanosecondsPerSecond * fraction) + nanosecondsPerSecond * step ∧
      2 * (nanosecondsPerSecond * fraction) ≤
        2 * (duration.subsecond * unitsPerOne) + nanosecondsPerSecond * step := by
  have below : duration.subsecond < nanosecondsPerSecond := subsecond_lt duration
  rw [fraction_eq] at made
  have rounded := eq_roundUnits_of_finite made
  have quotient : duration.subsecond * unitsPerOne * unitsPerOne /
      (nanosecondsPerSecond * unitsPerOne) < 2 ^ (53 + exponent) := by
    rw [Nat.pow_add, ← power, ← unit, Nat.div_lt_iff_lt_mul scaled_pos,
      Nat.mul_comm unitsPerOne]
    apply Nat.mul_lt_mul_of_pos_right _ unitsPerOne_pos
    exact Nat.mul_lt_mul_of_pos_right below unitsPerOne_pos
  have few : 2 ^ excessBits (duration.subsecond * unitsPerOne * unitsPerOne /
      (nanosecondsPerSecond * unitsPerOne)) ≤ step := by
    rw [power]
    exact Nat.pow_le_pow_right Nat.two_pos (excessBits_le_of_lt quotient)
  have halves := roundUnits_within_half (duration.subsecond * unitsPerOne * unitsPerOne) scaled_pos
  rw [← rounded] at halves
  have steps : nanosecondsPerSecond * unitsPerOne * 2 ^ excessBits
      (duration.subsecond * unitsPerOne * unitsPerOne /
        (nanosecondsPerSecond * unitsPerOne)) ≤
      nanosecondsPerSecond * unitsPerOne * step := Nat.mul_le_mul_left _ few
  constructor
  · apply Nat.le_of_mul_le_mul_left _ unitsPerOne_pos
    linarith [halves.1]
  · apply Nat.le_of_mul_le_mul_left _ unitsPerOne_pos
    linarith [halves.2]

theorem exists_step :
    ∃ step exponent : ℕ, step = 2 ^ exponent ∧ unitsPerOne = 2 ^ 53 * step := by
  obtain ⟨exponent, bits⟩ : ∃ exponent, 53 + exponent = 1074 := ⟨1021, rfl⟩
  refine ⟨2 ^ exponent, exponent, rfl, ?_⟩
  rw [unitsPerOne_eq, ← bits, Nat.pow_add]

/-- The duration nearest to a number of units. -/
def nearest (units : ℕ) : Duration :=
  ⟨nearestEven (units * nanosecondsPerSecond) unitsPerOne⟩

/-- A short duration comes back from its seconds. -/
theorem nearest_toDouble (short : duration.seconds < 2 ^ 23) {units : ℕ}
    (made : duration.toDouble = .finite false units) : nearest units = duration := by
  obtain ⟨step, exponent, power, unit⟩ := exists_step
  have some_step : 0 < step := by
    rw [power]
    exact Nat.two_pow_pos exponent
  have whole : Double.ofNat duration.seconds = .finite false (duration.seconds * unitsPerOne) :=
    ofNat_of_lt (short.trans (by decide))
  obtain ⟨fraction, isFraction, -⟩ := exists_fraction duration
  have near := fraction_within_half power unit isFraction
  rw [toDouble, whole, isFraction, add_finite] at made
  have rounded := eq_roundUnits_of_finite made
  have halves := roundUnits_within_half (duration.seconds * unitsPerOne + fraction) Nat.one_pos
  rw [← rounded, Nat.div_one, Nat.one_mul, Nat.one_mul] at halves
  -- The sum is less than `2 ^ 23`, so a step of its last bits is less than two nanoseconds.
  have fractionLess : fraction < unitsPerOne := by
    have below : duration.subsecond + 1 ≤ nanosecondsPerSecond := subsecond_lt duration
    have scaled := Nat.mul_le_mul_right unitsPerOne below
    rw [Nat.succ_mul] at scaled
    unfold nanosecondsPerSecond at near scaled
    omega
  have wholeLess : (duration.seconds + 1) * unitsPerOne ≤ 2 ^ 23 * unitsPerOne :=
    Nat.mul_le_mul_right _ short
  have sumLess : duration.seconds * unitsPerOne + fraction < 2 ^ (53 + (exponent + 23)) := by
    have bits : 2 ^ (53 + (exponent + 23)) = 2 ^ 23 * unitsPerOne := by
      rw [unit, power]
      ring
    rw [bits]
    rw [Nat.succ_mul] at wholeLess
    omega
  have few : 2 ^ excessBits (duration.seconds * unitsPerOne + fraction) ≤ 2 ^ 23 * step := by
    rw [power, ← Nat.pow_add, Nat.add_comm 23]
    exact Nat.pow_le_pow_right Nat.two_pos (excessBits_le_of_lt sumLess)
  have parts : unitsPerOne * duration.nanoseconds =
      nanosecondsPerSecond * (duration.seconds * unitsPerOne) +
        duration.subsecond * unitsPerOne := by
    have split : duration.seconds * nanosecondsPerSecond + duration.subsecond =
        duration.nanoseconds :=
      Nat.div_add_mod' duration.nanoseconds nanosecondsPerSecond
    rw [← split]
    ring
  have back : nearestEven (units * nanosecondsPerSecond) unitsPerOne = duration.nanoseconds := by
    unfold nanosecondsPerSecond at near parts ⊢
    apply nearestEven_eq unitsPerOne_pos
    · rw [parts]
      omega
    · rw [parts]
      omega
  rw [nearest, back]

/-! ## From seconds -/

section

variable {units units' : ℕ} {value : Double}

theorem nearest_mono (less : units ≤ units') :
    (nearest units).nanoseconds ≤ (nearest units').nanoseconds := by
  unfold nearest
  have positive := unitsPerOne_pos
  generalize unitsPerOne = denominator at *
  apply nearestEven_mono positive positive
  exact Nat.mul_le_mul_right _ (Nat.mul_le_mul_right _ less)

theorem nearest_within_half (units : ℕ) :
    |((nearest units).nanoseconds : ℚ) - amount units * 10 ^ 9| ≤ 1 / 2 := by
  have halves := nearestEven_within_half (units * nanosecondsPerSecond) unitsPerOne_pos
  have positive := unitsPerOne_cast_pos
  unfold nearest amount
  generalize nearestEven (units * nanosecondsPerSecond) unitsPerOne = whole at *
  generalize unitsPerOne = denominator at *
  obtain ⟨low, high⟩ := halves
  have lower : (2 * (units * 10 ^ 9) : ℚ) ≤ 2 * (denominator * whole) + denominator := by
    rw [← nanosecondsPerSecond_cast]
    exact_mod_cast low
  have upper : (2 * (denominator * whole) : ℚ) ≤ 2 * (units * 10 ^ 9) + denominator := by
    rw [← nanosecondsPerSecond_cast]
    exact_mod_cast high
  rw [div_mul_eq_mul_div, abs_le]
  constructor
  · rw [neg_le_sub_iff_le_add, div_le_iff₀ positive]
    linarith
  · rw [sub_le_iff_le_add, ← sub_le_iff_le_add', le_div_iff₀ positive]
    linarith

theorem ofDouble?_finite_max (few : units < secondsLimit * unitsPerOne) :
    ofDouble? ((Double.finite false units).max .zero) = some (nearest units) := by
  have kept : (Double.finite false units).max .zero = .finite false units := by
    simp [Double.max, Double.zero, isNaN, le, signedUnits]
  rw [kept]
  simp [ofDouble?, Nat.not_le.mpr few, nearest]

/-- What is at most a number of units becomes at most the duration nearest to it. -/
theorem ofDouble?_of_le (most : value.le (.finite false units) = true)
    (few : units < secondsLimit * unitsPerOne) :
    ∃ made, ofDouble? (value.max .zero) = some made ∧
      made.nanoseconds ≤ (nearest units).nanoseconds := by
  have nothing : 0 < secondsLimit * unitsPerOne := Nat.lt_of_le_of_lt (Nat.zero_le _) few
  have least : (nearest 0).nanoseconds ≤ (nearest units).nanoseconds :=
    nearest_mono (Nat.zero_le _)
  have raised : ofDouble? .zero = some (nearest 0) := by
    simp [ofDouble?, Double.zero, nearest, Nat.ne_of_gt nothing]
  cases value with
  | nan => cases most
  | infinite negative =>
      cases negative with
      | false => cases most
      | true => exact ⟨nearest 0, raised, least⟩
  | finite negative amount =>
      cases negative with
      | false =>
          have less : amount ≤ units := finite_le_iff.mp most
          exact ⟨nearest amount, ofDouble?_finite_max (less.trans_lt few), nearest_mono less⟩
      | true =>
          refine ⟨nearest 0, ?_, least⟩
          by_cases zero : amount = 0
          · subst zero
            simp [Double.max, Double.zero, isNaN, le, signedUnits, ofDouble?, nearest,
              Nat.ne_of_gt nothing]
          · have lifted : (Double.finite true amount).max .zero = .zero := by
              simp [Double.max, Double.zero, isNaN, le, signedUnits, zero]
            rw [lifted, raised]

end

end Duration

end AtLeastOnce
