import AtLeastOnce.Proofs.Time.Seconds
import AtLeastOnce.Settings

/-!
# How long a delay can be

The seconds of the cap bound the delay, and the largest spread bounds what comes on top.
Each step keeps the order, so the bound is computed as the delay is, and is off by as many
roundings.  A cap of less than `2 ^ 23` seconds is never exceeded without a spread; the
seconds of a longer one may already be rounded up.
-/

namespace AtLeastOnce

namespace Double

variable {units range : ℕ} {delay sample value : Double}

theorem zero_le_ofUnits (numerator denominator : ℕ) :
    zero.le (ofUnits false numerator denominator) = true := by
  rcases ofUnits_cases numerator denominator with finite | ⟨infinite, _⟩
  · rw [finite]
    exact finite_le_iff.mpr (Nat.zero_le _)
  · rw [infinite]
    rfl

/-- A sample from a range adds at most the range. -/
theorem add_sample_le (low : (finite false range).neg.le sample = true)
    (high : sample.le (.finite false range) = true) :
    ((finite false units).add sample).le (ofUnits false (units + range) 1) = true := by
  cases sample with
  | nan => cases high
  | infinite negative => cases negative <;> contradiction
  | finite negative drawn =>
      simp only [le, decide_eq_true_eq] at high
      simp only [add]
      split
      · exact zero_le_ofUnits _ _
      · cases sign : decide (signedUnits false units + signedUnits negative drawn < 0) with
        | true => exact le_trans (ofUnits_le_zero _ _) (zero_le_ofUnits _ _)
        | false =>
            apply ofUnits_le_ofUnits Nat.one_pos Nat.one_pos
            rw [decide_eq_false_iff_not] at sign
            simp only [signedUnits, Bool.false_eq_true, if_false] at high sign ⊢
            omega

end Double

open Double

namespace Backoff

variable {units share : ℕ} {delay seconds : Double} {sampler : Sampler}

/-- A delay that is bounded stays so, or a spread comes on top that is bounded by a share
of the bound. -/
theorem spread?_le (fair : sampler.Fair) (most : delay.le (.finite false units) = true)
    (drawn : spread? sampler delay (.finite false share) = some seconds) :
    seconds.le (.finite false units) = true ∨
      seconds.le (ofUnits false (units + roundUnits (units * share) unitsPerOne) 1) = true := by
  cases unspread : (delay.mul (.finite false share)).le .zero with
  | true =>
      left
      simp only [spread?, unspread, if_true, Option.some.injEq] at drawn
      rwa [← drawn]
  | false =>
      simp only [spread?, unspread, Bool.false_eq_true, if_false, Option.ite_none_right_eq_some,
        Option.some.injEq] at drawn
      obtain ⟨bounded, rfl⟩ := drawn
      cases delay with
      | nan => cases most
      | infinite negative =>
          by_cases zero : share = 0
          · simp [mul, zero, add, isFinite] at bounded
          · simp [mul, zero, add, isFinite] at bounded
      | finite negative units' =>
          cases negative with
          | true =>
              have range := ofUnits_le_zero (units' * share) unitsPerOne
              exact absurd (range.symm.trans unspread) (by decide)
          | false =>
              right
              have less : units' ≤ units := finite_le_iff.mp most
              rw [mul_finite] at unspread bounded ⊢
              rcases ofUnits_cases (units' * share) unitsPerOne with finite | ⟨infinite, _⟩
              · rw [finite] at unspread ⊢
                have sampled := fair _ rfl (zero_le_of_not_le_zero rfl unspread)
                apply le_trans (add_sample_le sampled.1 sampled.2)
                apply ofUnits_le_ofUnits Nat.one_pos Nat.one_pos
                rw [Nat.mul_one, Nat.mul_one]
                apply Nat.add_le_add less
                apply roundUnits_mono unitsPerOne_pos unitsPerOne_pos
                exact Nat.mul_le_mul_right _ (Nat.mul_le_mul_right _ less)
              · rw [infinite] at bounded
                cases bounded

end Backoff

namespace Duration

variable {duration : Duration} {units share : ℕ}

theorem inSeconds_mul (duration : Duration) :
    duration.inSeconds * 10 ^ 9 = duration.nanoseconds :=
  div_mul_cancel₀ _ (by norm_num)

theorem inSeconds_le_of_short (short : duration.seconds ≤ 2 ^ 55) :
    duration.inSeconds ≤ 2 ^ 56 := by
  have below : (duration.seconds : ℚ) ≤ 2 ^ 55 := by exact_mod_cast short
  linarith [inSeconds_le duration]

theorem amount_quarter (quarters : unitsPerOne = 4 * share) : amount share = 1 / 4 := by
  have positive := unitsPerOne_cast_pos
  have cast : (unitsPerOne : ℚ) = 4 * share := by exact_mod_cast quarters
  rw [amount, div_eq_div_iff positive.ne' (by norm_num), cast]
  ring

/-- The cap and the largest spread together are a quarter more than the cap. -/
theorem exists_spread (short : duration.seconds ≤ 2 ^ 55) (quarters : unitsPerOne = 4 * share)
    (close : Close 2 (amount units) duration.inSeconds) :
    ∃ total, ofUnits false (units + roundUnits (units * share) unitsPerOne) 1 =
        .finite false total ∧
      Close 4 (amount total) (5 / 4 * duration.inSeconds) := by
  have most := inSeconds_le_of_short short
  have least := inSeconds_nonneg duration
  have many : units = 0 ∨ 2 ^ 54 ≤ units :=
    zero_or_many 54 close (substantial_div _) (by decide) (by decide)
  have normal : Normalized (units * share) unitsPerOne := by
    rcases many with rfl | many
    · left
      exact Nat.zero_mul _
    · right
      calc unitsPerOne * 2 ^ 52 = 2 ^ 54 * share := by
            rw [quarters]
            ring
        _ ≤ units * share := Nat.mul_le_mul_right share many
  have range : Tracks 3 (duration.inSeconds / 4) (ofUnits false (units * share) unitsPerOne) := by
    apply Tracks.ofUnits unitsPerOne_pos normal
    rw [amount_mul_amount, amount_quarter quarters, mul_one_div]
    exact close.div (by norm_num)
  obtain ⟨spread, made, close'⟩ := range.exists_close
    (mul_slack_pow_lt (by decide) (by linarith))
  rw [← eq_roundUnits_of_finite made]
  have normal' : Normalized (units + spread) 1 := by
    rcases many with rfl | many
    · left
      rw [eq_roundUnits_of_finite made, Nat.zero_mul, roundUnits_zero]
    · right
      omega
  have sum : Close 3 (((units + spread : ℕ) : ℚ) / (1 : ℕ) / unitsPerOne)
      (5 / 4 * duration.inSeconds) := by
    have parts : 5 / 4 * duration.inSeconds = duration.inSeconds + duration.inSeconds / 4 := by
      ring
    rw [amount_add_amount, parts]
    exact (close.mono (by decide) (amount_nonneg units) least).add close'
  exact (Tracks.ofUnits Nat.one_pos normal' sum).exists_close
    (mul_slack_pow_lt (by decide) (by linarith))

/-- A number of seconds that is close to an exact one becomes a number of nanoseconds that
is at most as much too large, and half a nanosecond. -/
theorem nearest_le {count : ℕ} {exact factor : ℚ} (close : Close count (amount units) exact)
    (some_seconds : 0 ≤ exact) (most : slack ^ count ≤ factor) :
    ((nearest units).nanoseconds : ℚ) ≤ exact * 10 ^ 9 * factor + 1 / 2 := by
  have half := (abs_le.mp (nearest_within_half units)).2
  have scaled : amount units ≤ exact * factor :=
    close.le.trans (mul_le_mul_of_nonneg_left most some_seconds)
  linarith

theorem lt_limit_of_close {count : ℕ} {exact : ℚ} (close : Close count (amount units) exact)
    (few : count ≤ 2 ^ 52) (small : exact ≤ 2 ^ 60) (some_seconds : 0 ≤ exact) :
    units < secondsLimit * unitsPerOne := by
  have most : amount units ≤ exact * 2 :=
    close.le.trans (mul_le_mul_of_nonneg_left (slack_pow_le_two few) some_seconds)
  have below : (units : ℚ) / unitsPerOne < secondsLimit := by
    have limit : (secondsLimit : ℚ) = 2 ^ 64 := by norm_num [secondsLimit]
    unfold amount at most
    linarith
  rw [div_lt_iff₀ unitsPerOne_cast_pos] at below
  exact_mod_cast below

end Duration

namespace Backoff

variable {policy : Backoff} {sampler : Sampler}

theorem four_quarters : unitsPerOne = 4 * (unitsPerOne / 4) := by
  obtain ⟨step, _, _, unit⟩ := Duration.exists_step
  have whole : 4 ∣ unitsPerOne := ⟨2 ^ 51 * step, by rw [unit]; omega⟩
  exact (Nat.mul_div_cancel' whole).symm

theorem cappedSeconds_le {units : ℕ} (made : policy.cap.toDouble = .finite false units)
    (attempt : ℕ) : (policy.cappedSeconds attempt).le (.finite false units) = true := by
  rw [cappedSeconds, made]
  exact min_le_finite _ _ _

theorem seconds?_of_plain (plain : policy.jitter = false) (attempt : ℕ) :
    policy.seconds? sampler attempt = some (policy.cappedSeconds attempt) := by
  simp [seconds?, plain]

theorem delay?_of_seconds? {attempt : ℕ} {seconds : Double}
    (computed : policy.seconds? sampler attempt = some seconds) :
    policy.delay? sampler attempt = Duration.ofDouble? (seconds.max .zero) := by
  rw [delay?, computed, Option.bind_some]

theorem delay?_le_cap (plain : policy.jitter = false) (short : policy.cap.seconds ≤ 2 ^ 55)
    (attempt : ℕ) :
    ∃ delay, policy.delay? sampler attempt = some delay ∧
      (delay.nanoseconds : ℚ) ≤ policy.cap.nanoseconds * (1 + 1 / 2 ^ 51) + 1 / 2 ∧
      (policy.cap.seconds < 2 ^ 23 → delay.nanoseconds ≤ policy.cap.nanoseconds) := by
  have limited : policy.cap.seconds < 2 ^ 64 := by omega
  obtain ⟨units, made, close⟩ := Duration.exists_toDouble limited
  have some_seconds := policy.cap.inSeconds_nonneg
  have few := Duration.lt_limit_of_close close (by decide)
    ((Duration.inSeconds_le_of_short short).trans (by norm_num)) some_seconds
  obtain ⟨delay, drawn, most⟩ := Duration.ofDouble?_of_le (cappedSeconds_le made attempt) few
  refine ⟨delay, (delay?_of_seconds? (seconds?_of_plain plain attempt)).trans drawn, ?_, ?_⟩
  · have rounded := Duration.nearest_le close some_seconds
      (show slack ^ 2 ≤ 1 + 1 / 2 ^ 51 by norm_num [slack])
    rw [Duration.inSeconds_mul] at rounded
    exact (Nat.cast_le.mpr most).trans rounded
  · intro exact_seconds
    rwa [Duration.nearest_toDouble exact_seconds made] at most

theorem delay?_le_spread (fair : sampler.Fair) (share : policy.jitterShare = quarter)
    (short : policy.cap.seconds ≤ 2 ^ 55) (attempt : ℕ) :
    ∃ delay, policy.delay? sampler attempt = some delay ∧
      (delay.nanoseconds : ℚ) ≤ 5 / 4 * policy.cap.nanoseconds * (1 + 1 / 2 ^ 50) + 1 / 2 := by
  have some_share : 0 < unitsPerOne / 4 := by
    have := four_quarters
    have := unitsPerOne_pos
    omega
  have some_seconds := policy.cap.inSeconds_nonneg
  have least := Duration.inSeconds_le_of_short short
  have limited : policy.cap.seconds < 2 ^ 64 := by omega
  obtain ⟨units, made, close⟩ := Duration.exists_toDouble limited
  obtain ⟨total, spread, close'⟩ := Duration.exists_spread short four_quarters close
  have few := Duration.lt_limit_of_close close (by decide) (least.trans (by norm_num))
    some_seconds
  have few' := Duration.lt_limit_of_close close' (by decide) (by linarith) (by linarith)
  obtain ⟨seconds, sampled, -⟩ :=
    seconds?_atMost fair share some_share (Nat.div_le_self _ _) short attempt
  have capped := cappedSeconds_le made attempt
  have bounded : seconds.le (.finite false units) = true ∨
      seconds.le (.finite false total) = true := by
    cases spreads : policy.jitter with
    | true =>
        simp only [seconds?, spreads, if_true, share, quarter] at sampled
        have bounds := spread?_le fair capped sampled
        rwa [spread] at bounds
    | false =>
        left
        rw [seconds?_of_plain spreads, Option.some.injEq] at sampled
        subst sampled
        exact capped
  rw [delay?_of_seconds? sampled]
  have some_nanoseconds : (0 : ℚ) ≤ policy.cap.nanoseconds := Nat.cast_nonneg _
  rcases bounded with bounded | bounded
  · have rounded := Duration.nearest_le close some_seconds
      (show slack ^ 2 ≤ 1 + 1 / 2 ^ 50 by norm_num [slack])
    rw [Duration.inSeconds_mul] at rounded
    obtain ⟨delay, drawn, most⟩ := Duration.ofDouble?_of_le bounded few
    refine ⟨delay, drawn, (Nat.cast_le.mpr most).trans ?_⟩
    linarith
  · have rounded := Duration.nearest_le close' (by linarith)
      (show slack ^ 4 ≤ 1 + 1 / 2 ^ 50 by norm_num [slack])
    rw [mul_assoc (5 / 4), Duration.inSeconds_mul] at rounded
    obtain ⟨delay, drawn, most⟩ := Duration.ofDouble?_of_le bounded few'
    exact ⟨delay, drawn, (Nat.cast_le.mpr most).trans rounded⟩

end Backoff

namespace Settings

variable {settings : Settings}

theorem cap_seconds_le (few : settings.retry.maxMilliseconds < 2 ^ 64) :
    settings.backoff.cap.seconds ≤ 2 ^ 55 := by
  show settings.retry.maxMilliseconds * 1000000 / 1000000000 ≤ 2 ^ 55
  omega

/-- Whatever the other settings, there is a delay after every failure.  With the spread it
is at most a quarter more than the cap, and without it the cap, up to the roundings; a cap
of less than `2 ^ 23` seconds is kept exactly. -/
theorem delays_bounded (few : settings.retry.maxMilliseconds < 2 ^ 64)
    {sampler : Backoff.Sampler} (fair : sampler.Fair) (attempt : ℕ) :
    (∃ delay, settings.backoff.delay? sampler attempt = some delay ∧
      (delay.nanoseconds : ℚ) ≤
        5 / 4 * settings.backoff.cap.nanoseconds * (1 + 1 / 2 ^ 50) + 1 / 2) ∧
    ∃ delay, settings.backoff.withoutJitter.delay? sampler attempt = some delay ∧
      (delay.nanoseconds : ℚ) ≤
        settings.backoff.cap.nanoseconds * (1 + 1 / 2 ^ 51) + 1 / 2 ∧
      (settings.backoff.cap.seconds < 2 ^ 23 →
        delay.nanoseconds ≤ settings.backoff.cap.nanoseconds) := by
  have short := cap_seconds_le few
  constructor
  · exact Backoff.delay?_le_spread fair rfl short attempt
  · have plain : settings.backoff.withoutJitter.jitter = false := rfl
    exact Backoff.delay?_le_cap plain short attempt

/-- The longest delays that can be set. -/
def longest : Settings :=
  { standard with retry := ⟨8, 2 ^ 64 - 1, 2 ^ 64 - 1, Backoff.two⟩ }

theorem delays_bounded_longest :
    longest.retry.maxMilliseconds < 2 ^ 64 ∧
      Backoff.Sampler.Fair (fun range => range) ∧
      (∃ delay, longest.backoff.delay? (fun range => range) 3 = some delay ∧
        (delay.nanoseconds : ℚ) ≤
          5 / 4 * longest.backoff.cap.nanoseconds * (1 + 1 / 2 ^ 50) + 1 / 2) ∧
      ∃ delay, longest.backoff.withoutJitter.delay? (fun range => range) 3 = some delay ∧
        (delay.nanoseconds : ℚ) ≤
          longest.backoff.cap.nanoseconds * (1 + 1 / 2 ^ 51) + 1 / 2 ∧
        (longest.backoff.cap.seconds < 2 ^ 23 →
          delay.nanoseconds ≤ longest.backoff.cap.nanoseconds) := by
  have few : longest.retry.maxMilliseconds < 2 ^ 64 := by decide
  exact ⟨few, Backoff.Sampler.fair_id, delays_bounded few Backoff.Sampler.fair_id 3⟩

/-- The seconds of the longest cap are rounded up, so that a delay without a spread is more
than a third of a second longer than its cap. -/
theorem longest_exceeded :
    longest.backoff.withoutJitter.delay? (fun range => range) 0 =
        some (.ofSeconds 18446744073709552) ∧
      longest.backoff.cap.nanoseconds + 385000000 =
        (Duration.ofSeconds 18446744073709552).nanoseconds := by
  decide +kernel

end Settings

end AtLeastOnce
