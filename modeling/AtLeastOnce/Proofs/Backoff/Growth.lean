import AtLeastOnce.Proofs.Backoff.Range
import AtLeastOnce.Proofs.Number.Power

/-!
# How delays grow

Without a spread, and with a multiplier that is at least one, delays follow the formula
`initial · multiplier ^ attempt`, up to the cap, with one rounding for every factor and
three more.  They never become shorter from one attempt to the next, since neither the power
nor the product nor the cap does.
-/

namespace AtLeastOnce

namespace Double

/-- A product of a number of units and a positive number. -/
theorem mul_cases {value : Double} (units : ℕ) (positive : value.Positive) :
    (finite false units).mul value = .nan ∨
      (finite false units).mul value = .infinite false ∨
      ∃ units', (finite false units).mul value = .finite false units' := by
  cases positive with
  | infinite =>
      by_cases zero : units = 0
      · left
        simp [mul, zero]
      · right
        left
        simp [mul, zero]
  | @finite factor =>
      right
      rw [mul_finite]
      rcases ofUnits_cases (units * factor) unitsPerOne with finite | ⟨infinite, _⟩
      · exact .inr ⟨_, finite⟩
      · exact .inl infinite

end Double

open Double

namespace Backoff

variable {policy : Backoff} {sampler : Sampler} {multiplier attempt later : ℕ}

/-- Delays without a spread that do not shrink, up to a cap that is not among the last
thousand seconds that a duration holds. -/
structure Growing (policy : Backoff) (multiplier : ℕ) : Prop where
  plain : policy.jitter = false
  isMultiplier : policy.multiplier = .finite false multiplier
  grown : unitsPerOne ≤ multiplier
  initial : policy.initial.seconds < 2 ^ 64
  cap : policy.cap.seconds < 2 ^ 64 - 2 ^ 10

/-- The exact number of seconds that the delay grows to. -/
def grownSeconds (policy : Backoff) (multiplier attempt : ℕ) : ℚ :=
  policy.initial.inSeconds * amount multiplier ^ attempt

/-- The exact number of seconds by the formula. -/
def exactSeconds (policy : Backoff) (multiplier attempt : ℕ) : ℚ :=
  min (policy.grownSeconds multiplier attempt) policy.cap.inSeconds

/-- The factor by which the delay has grown. -/
def growth (policy : Backoff) (attempt : ℕ) : Double :=
  policy.multiplier.power (Min.min attempt greatestExponent)

theorem cappedSeconds_eq (policy : Backoff) (attempt : ℕ) :
    policy.cappedSeconds attempt =
      (policy.initial.toDouble.mul (policy.growth attempt)).min policy.cap.toDouble := rfl

/-- The roundings of a delay are too few to add up. -/
theorem roundings_le (few : attempt ≤ greatestExponent) : attempt + 5 ≤ 2 ^ 52 := by
  unfold greatestExponent at few
  omega

namespace Growing

theorem exists_initial (growing : policy.Growing multiplier) :
    ∃ units, policy.initial.toDouble = .finite false units ∧
      Close 2 (amount units) policy.initial.inSeconds :=
  Duration.exists_toDouble growing.initial

theorem exists_cap (growing : policy.Growing multiplier) :
    ∃ units, policy.cap.toDouble = .finite false units ∧
      Close 2 (amount units) policy.cap.inSeconds ∧
      units < Duration.secondsLimit * unitsPerOne := by
  have limited : policy.cap.seconds < 2 ^ 64 := growing.cap.trans (by decide)
  obtain ⟨units, made, close⟩ := Duration.exists_toDouble limited
  exact ⟨units, made, close, Duration.toDouble_lt growing.cap made⟩

theorem one_le_multiplier (growing : policy.Growing multiplier) :
    one.le policy.multiplier = true := by
  rw [growing.isMultiplier, one_le_finite]
  exact growing.grown

theorem growth_positive (growing : policy.Growing multiplier) (attempt : ℕ) :
    (policy.growth attempt).Positive :=
  one_positive.of_le (one_le_power growing.one_le_multiplier _)

theorem growth_mono (growing : policy.Growing multiplier) (less : attempt ≤ later) :
    (policy.growth attempt).le (policy.growth later) = true :=
  power_mono growing.one_le_multiplier (min_le_min_right _ less)

theorem tracks_growth (growing : policy.Growing multiplier) (few : attempt ≤ greatestExponent) :
    Tracks attempt (amount multiplier ^ attempt) (policy.growth attempt) := by
  rw [growth, growing.isMultiplier, Nat.min_eq_left few]
  exact tracks_power growing.grown attempt

/-- The capped delay is a number of units that is not above the cap's. -/
theorem exists_capped (growing : policy.Growing multiplier) {cap : ℕ}
    (isCap : policy.cap.toDouble = .finite false cap) (attempt : ℕ) :
    ∃ units ≤ cap, policy.cappedSeconds attempt = .finite false units := by
  obtain ⟨initial, isInitial, -⟩ := growing.exists_initial
  rw [cappedSeconds_eq, isInitial, isCap]
  rcases mul_cases initial (growing.growth_positive attempt) with product | product | product
  · rw [product]
    exact ⟨cap, le_rfl, rfl⟩
  · rw [product, infinite_min]
    exact ⟨cap, le_rfl, rfl⟩
  · obtain ⟨units, product⟩ := product
    rw [product, min_finite]
    exact ⟨_, Nat.min_le_right _ _, rfl⟩

/-- Without a first delay nothing grows, until the factor has left the finite range; then
the product with it is no number, and the cap is what is left. -/
theorem cappedSeconds_of_zero (growing : policy.Growing multiplier) {cap : ℕ}
    (isInitial : policy.initial.toDouble = .finite false 0)
    (isCap : policy.cap.toDouble = .finite false cap) (attempt : ℕ) :
    policy.cappedSeconds attempt =
      if (policy.growth attempt).isFinite then .finite false 0 else .finite false cap := by
  have positive := growing.growth_positive attempt
  rw [cappedSeconds_eq, isInitial, isCap]
  generalize policy.growth attempt = factor at *
  cases positive with
  | infinite => rfl
  | @finite factor =>
      rw [mul_finite, Nat.zero_mul, ofUnits_zero, min_finite, Nat.zero_min]
      rfl

theorem cappedSeconds_mono (growing : policy.Growing multiplier) (less : attempt ≤ later) :
    (policy.cappedSeconds attempt).le (policy.cappedSeconds later) = true := by
  obtain ⟨initial, isInitial, -⟩ := growing.exists_initial
  obtain ⟨cap, isCap, -⟩ := growing.exists_cap
  have growths := growing.growth_mono less
  have positive := growing.growth_positive attempt
  rcases Nat.eq_zero_or_pos initial with rfl | some_initial
  · have nothing := growing.cappedSeconds_of_zero isInitial isCap
    have positive' := growing.growth_positive later
    rw [nothing attempt, nothing later]
    generalize policy.growth attempt = factor at *
    generalize policy.growth later = factor' at *
    cases positive' with
    | infinite =>
        cases positive with
        | infinite => exact finite_le_iff.mpr le_rfl
        | finite => exact finite_le_iff.mpr (Nat.zero_le _)
    | finite =>
        cases positive with
        | infinite => cases growths
        | finite => exact finite_le_iff.mpr le_rfl
  · have initialPositive : (Double.finite false initial).Positive := .finite some_initial
    rw [cappedSeconds_eq, cappedSeconds_eq, isInitial, isCap]
    apply min_finite_mono
    exact mul_le_mul initialPositive positive initialPositive.le_refl growths

theorem cap_le (growing : policy.Growing multiplier) : policy.cap.inSeconds ≤ 2 ^ 65 := by
  have below : (policy.cap.seconds : ℚ) ≤ 2 ^ 64 := by
    exact_mod_cast (growing.cap.trans (by decide)).le
  linarith [policy.cap.inSeconds_le]

/-- The product has been computed with one rounding for every factor and three more, or it
has left the finite range and is far beyond every cap. -/
theorem product_cases (growing : policy.Growing multiplier)
    (some_initial : 0 < policy.initial.nanoseconds) (few : attempt ≤ greatestExponent) :
    (∃ units, policy.initial.toDouble.mul (policy.growth attempt) = .finite false units ∧
        Close (attempt + 3) (amount units) (policy.grownSeconds multiplier attempt)) ∨
      policy.initial.toDouble.mul (policy.growth attempt) = .infinite false ∧
        2 ^ 66 ≤ policy.grownSeconds multiplier attempt := by
  obtain ⟨initial, isInitial, close⟩ := growing.exists_initial
  have fewer := roundings_le few
  have least : 1 / 10 ^ 9 ≤ policy.initial.inSeconds := by
    apply div_le_div_of_nonneg_right _ (by positivity)
    exact_mod_cast some_initial
  have many : 2 ^ 52 ≤ initial := two_pow_le_of_close close (by decide) least (by decide)
  have powers : 0 ≤ amount multiplier ^ attempt := pow_nonneg (amount_nonneg multiplier) attempt
  have some_seconds := policy.initial.inSeconds_nonneg
  have grown : one.le (policy.growth attempt) = true := one_le_power growing.one_le_multiplier _
  have tracks := growing.tracks_growth few
  rw [isInitial, grownSeconds]
  generalize policy.growth attempt = factor at *
  cases tracks with
  | beyond large =>
      right
      have some_units : 0 < initial := (Nat.two_pow_pos 52).trans_le many
      have beyond := two_pow_le_of_slack large (by omega) powers
      have product := mul_le_mul least beyond (by positivity) some_seconds
      constructor
      · exact (Positive.finite some_units).mul_infinite
      · linarith
  | @finite units close' =>
      have product : Tracks (2 + attempt + 1)
          (policy.initial.inSeconds * amount multiplier ^ attempt)
          (ofUnits false (initial * units) unitsPerOne) := by
        apply Tracks.ofUnits unitsPerOne_pos
        · right
          rw [Nat.mul_comm]
          exact Nat.mul_le_mul many (one_le_finite.mp grown)
        · rw [amount_mul_amount]
          exact close.mul close' (amount_nonneg initial) some_seconds (amount_nonneg units) powers
      have count : 2 + attempt + 1 = attempt + 3 := by omega
      rw [mul_finite]
      rw [count] at product
      generalize ofUnits false (initial * units) unitsPerOne = value at *
      cases product with
      | finite close => exact .inl ⟨_, rfl, close⟩
      | beyond large =>
          right
          have beyond := two_pow_le_of_slack large (by omega) (mul_nonneg some_seconds powers)
          constructor
          · rfl
          · linarith

/-- So the capped delay is close to the formula. -/
theorem exists_close (growing : policy.Growing multiplier)
    (some_initial : 0 < policy.initial.nanoseconds) (few : attempt ≤ greatestExponent) :
    ∃ units, policy.cappedSeconds attempt = .finite false units ∧
      Close (attempt + 3) (amount units) (policy.exactSeconds multiplier attempt) := by
  obtain ⟨cap, isCap, close, -⟩ := growing.exists_cap
  have closeCap : Close (attempt + 3) (amount cap) policy.cap.inSeconds :=
    close.mono (by omega) (amount_nonneg cap) policy.cap.inSeconds_nonneg
  rw [cappedSeconds_eq, isCap, exactSeconds]
  rcases growing.product_cases some_initial few with ⟨units, product, close'⟩ | ⟨product, large⟩
  · rw [product, min_finite]
    refine ⟨_, rfl, ?_⟩
    rw [amount_min]
    exact close'.min closeCap
  · have above : policy.cap.inSeconds ≤ policy.grownSeconds multiplier attempt := by
      linarith [growing.cap_le]
    rw [product, infinite_min, min_eq_right above]
    exact ⟨cap, rfl, closeCap⟩

/-- A delay that has grown to twice the cap is the cap. -/
theorem cappedSeconds_of_twice (growing : policy.Growing multiplier)
    (some_initial : 0 < policy.initial.nanoseconds) (few : attempt ≤ greatestExponent)
    (twice : 2 * policy.cap.inSeconds ≤ policy.grownSeconds multiplier attempt) :
    policy.cappedSeconds attempt = policy.cap.toDouble := by
  obtain ⟨cap, isCap, close, -⟩ := growing.exists_cap
  rw [cappedSeconds_eq, isCap]
  rcases growing.product_cases some_initial few with ⟨units, product, close'⟩ | ⟨product, -⟩
  · have both : slack ^ (attempt + 3) * slack ^ 2 ≤ 2 := by
      rw [← pow_add]
      apply slack_pow_le_two
      have fewer := roundings_le few
      omega
    have less : amount cap ≤ amount units := by
      have doubled : 2 * amount cap ≤ amount units * 2 := by
        calc 2 * amount cap ≤ 2 * (policy.cap.inSeconds * slack ^ 2) := by linarith [close.le]
          _ = 2 * policy.cap.inSeconds * slack ^ 2 := by ring
          _ ≤ amount units * slack ^ (attempt + 3) * slack ^ 2 :=
              mul_le_mul_of_nonneg_right (twice.trans close'.ge) (slack_pow_pos 2).le
          _ = amount units * (slack ^ (attempt + 3) * slack ^ 2) := by ring
          _ ≤ amount units * 2 := mul_le_mul_of_nonneg_left both (amount_nonneg units)
      linarith
    have less' : cap ≤ units := by
      rw [amount, amount, div_le_div_iff_of_pos_right unitsPerOne_cast_pos] at less
      exact_mod_cast less
    rw [product, min_finite, Nat.min_eq_right less']
  · rw [product, infinite_min]

/-- There is always a delay: the duration nearest to the capped seconds. -/
theorem delay?_eq (growing : policy.Growing multiplier) {units : ℕ}
    (capped : policy.cappedSeconds attempt = .finite false units) :
    policy.delay? sampler attempt = some (.nearest units) := by
  obtain ⟨cap, isCap, -, few⟩ := growing.exists_cap
  obtain ⟨units', less, capped'⟩ := growing.exists_capped isCap attempt
  rw [capped] at capped'
  cases capped'
  rw [delay?_of_seconds? (seconds?_of_plain growing.plain attempt), capped]
  exact Duration.ofDouble?_finite_max (less.trans_lt few)

end Growing

/-- The delay by the formula, and where the computed one can be told from it.  Without a
first delay the formula is nothing; it is kept as long as the factor is finite. -/
structure Follows (policy : Backoff) (multiplier attempt : ℕ) (delay : Duration) : Prop where
  near : 0 < policy.initial.nanoseconds ∨ (policy.growth attempt).isFinite = true →
    |(delay.nanoseconds : ℚ) - policy.exactSeconds multiplier attempt * 10 ^ 9| ≤
      policy.exactSeconds multiplier attempt * 10 ^ 9 * ((attempt + 3) / 2 ^ 52) + 1 / 2
  /-- A whole number of nanoseconds that is not too large is exactly the delay. -/
  whole : 0 < policy.initial.nanoseconds ∨ (policy.growth attempt).isFinite = true →
    ∀ whole : ℕ, policy.exactSeconds multiplier attempt * 10 ^ 9 = whole →
      whole * (attempt + 3) < 2 ^ 51 → delay.nanoseconds = whole
  nothing : policy.initial.nanoseconds = 0 → (policy.growth attempt).isFinite = true →
    delay.nanoseconds = 0
  capped : 0 < policy.initial.nanoseconds →
    2 * policy.cap.inSeconds ≤ policy.grownSeconds multiplier attempt →
    policy.cap.seconds < 2 ^ 23 → delay = policy.cap
  /-- The product of nothing and an infinity is no number, which the cap replaces. -/
  replaced : policy.initial.nanoseconds = 0 → (policy.growth attempt).isFinite = false →
    policy.cap.seconds < 2 ^ 23 → delay = policy.cap

theorem grownSeconds_nonneg (policy : Backoff) (multiplier attempt : ℕ) :
    0 ≤ policy.grownSeconds multiplier attempt :=
  mul_nonneg policy.initial.inSeconds_nonneg (pow_nonneg (amount_nonneg multiplier) attempt)

theorem exactSeconds_nonneg (policy : Backoff) (multiplier attempt : ℕ) :
    0 ≤ policy.exactSeconds multiplier attempt :=
  le_min (grownSeconds_nonneg policy multiplier attempt) policy.cap.inSeconds_nonneg

theorem exactSeconds_of_nothing (nothing : policy.initial.nanoseconds = 0) :
    policy.exactSeconds multiplier attempt = 0 := by
  rw [exactSeconds, grownSeconds, Duration.inSeconds, nothing, Nat.cast_zero, zero_div, zero_mul]
  exact min_eq_left policy.cap.inSeconds_nonneg

/-- The nearest duration to seconds that are close to exact ones. -/
theorem nearest_near {count units : ℕ} {exact : ℚ} (close : Close count (amount units) exact)
    (few : count ≤ 2 ^ 52) (positive : 0 ≤ exact) :
    |((Duration.nearest units).nanoseconds : ℚ) - exact * 10 ^ 9| ≤
      exact * 10 ^ 9 * (count / 2 ^ 52) + 1 / 2 := by
  have half := abs_le.mp (Duration.nearest_within_half units)
  have share := abs_le.mp (close.within few (amount_nonneg units) positive)
  rw [abs_le]
  constructor
  · linarith
  · linarith

/-- An error that stays below one leaves a whole number alone. -/
theorem eq_of_near {number whole count : ℕ} (few : whole * count < 2 ^ 51)
    (near : |(number : ℚ) - whole| ≤ whole * (count / 2 ^ 52) + 1 / 2) : number = whole := by
  have small : (whole * count : ℚ) < 2 ^ 51 := by exact_mod_cast few
  have less : |((number : ℤ) - whole : ℚ)| < 1 := by
    push_cast
    apply near.trans_lt
    linarith
  have zero : |(number : ℤ) - whole| < 1 := by exact_mod_cast less
  rw [Int.abs_lt_one_iff] at zero
  omega

namespace Growing

theorem initial_of_nothing (growing : policy.Growing multiplier)
    (nothing : policy.initial.nanoseconds = 0) :
    policy.initial.toDouble = .finite false 0 := by
  obtain ⟨initial, isInitial, close⟩ := growing.exists_initial
  rw [Duration.inSeconds, nothing, Nat.cast_zero, zero_div] at close
  rw [isInitial, eq_zero_of_close close]

/-- As long as the formula has a number for it, the capped delay is close to the formula. -/
theorem exists_near (growing : policy.Growing multiplier)
    (some_number : 0 < policy.initial.nanoseconds ∨ (policy.growth attempt).isFinite = true)
    (few : attempt ≤ greatestExponent) :
    ∃ units, policy.cappedSeconds attempt = .finite false units ∧
      Close (attempt + 3) (amount units) (policy.exactSeconds multiplier attempt) := by
  rcases Nat.eq_zero_or_pos policy.initial.nanoseconds with nothing | some_initial
  · obtain ⟨cap, isCap, -⟩ := growing.exists_cap
    have finite := some_number.resolve_left (by omega)
    have capped := growing.cappedSeconds_of_zero (growing.initial_of_nothing nothing) isCap attempt
    rw [if_pos finite] at capped
    refine ⟨0, capped, ?_⟩
    rw [exactSeconds_of_nothing nothing, amount, Nat.cast_zero, zero_div]
    exact (Close.refl 0).mono (Nat.zero_le _) le_rfl le_rfl
  · exact growing.exists_close some_initial few

theorem near (growing : policy.Growing multiplier) (few : attempt ≤ greatestExponent)
    (some_number : 0 < policy.initial.nanoseconds ∨ (policy.growth attempt).isFinite = true)
    {delay : Duration} (drawn : policy.delay? sampler attempt = some delay) :
    |(delay.nanoseconds : ℚ) - policy.exactSeconds multiplier attempt * 10 ^ 9| ≤
      policy.exactSeconds multiplier attempt * 10 ^ 9 * ((attempt + 3) / 2 ^ 52) + 1 / 2 := by
  obtain ⟨units, capped, close⟩ := growing.exists_near some_number few
  rw [growing.delay?_eq capped, Option.some.injEq] at drawn
  have fewer := roundings_le few
  have error := nearest_near close (by omega) (exactSeconds_nonneg policy multiplier attempt)
  rw [← drawn]
  push_cast at error
  exact error

theorem eq_cap (growing : policy.Growing multiplier) (short : policy.cap.seconds < 2 ^ 23)
    (capped : policy.cappedSeconds attempt = policy.cap.toDouble) {delay : Duration}
    (drawn : policy.delay? sampler attempt = some delay) : delay = policy.cap := by
  obtain ⟨cap, isCap, -⟩ := growing.exists_cap
  rw [growing.delay?_eq (capped.trans isCap), Option.some.injEq] at drawn
  rw [← drawn]
  exact Duration.nearest_toDouble short isCap

theorem follows (growing : policy.Growing multiplier) (few : attempt ≤ greatestExponent)
    {delay : Duration} (drawn : policy.delay? sampler attempt = some delay) :
    policy.Follows multiplier attempt delay where
  near some_number := growing.near few some_number drawn
  whole some_number whole exact small := by
    have error := growing.near few some_number drawn
    rw [exact] at error
    apply eq_of_near small
    push_cast
    exact error
  nothing nothing finite := by
    have error := growing.near few (.inr finite) drawn
    rw [exactSeconds_of_nothing nothing, zero_mul, zero_mul] at error
    have less : (delay.nanoseconds : ℚ) < 1 := by linarith [(abs_le.mp error).2]
    have zero : delay.nanoseconds < 1 := by exact_mod_cast less
    omega
  capped some_initial twice short :=
    growing.eq_cap short (growing.cappedSeconds_of_twice some_initial few twice) drawn
  replaced nothing overflow short := by
    obtain ⟨cap, isCap, -⟩ := growing.exists_cap
    have capped := growing.cappedSeconds_of_zero (growing.initial_of_nothing nothing) isCap attempt
    rw [overflow, if_neg (by decide), ← isCap] at capped
    exact growing.eq_cap short capped drawn

theorem exists_later (growing : policy.Growing multiplier) (less : attempt ≤ later)
    {delay : Duration} (drawn : policy.delay? sampler attempt = some delay) :
    ∃ delay', policy.delay? sampler later = some delay' ∧
      delay.nanoseconds ≤ delay'.nanoseconds := by
  obtain ⟨cap, isCap, -⟩ := growing.exists_cap
  obtain ⟨units, -, capped⟩ := growing.exists_capped isCap attempt
  obtain ⟨units', -, capped'⟩ := growing.exists_capped isCap later
  have seconds := growing.cappedSeconds_mono less
  rw [capped, capped', finite_le_iff] at seconds
  rw [growing.delay?_eq capped, Option.some.injEq] at drawn
  refine ⟨_, growing.delay?_eq capped', ?_⟩
  rw [← drawn]
  exact Duration.nearest_mono seconds

/-- The delay exists, follows the formula, and is at most any later one. -/
theorem delay_follows (growing : policy.Growing multiplier) (few : attempt ≤ greatestExponent) :
    ∃ delay, policy.delay? sampler attempt = some delay ∧
      policy.Follows multiplier attempt delay ∧
      ∀ later, attempt ≤ later → ∃ delay', policy.delay? sampler later = some delay' ∧
        delay.nanoseconds ≤ delay'.nanoseconds := by
  obtain ⟨cap, isCap, -⟩ := growing.exists_cap
  obtain ⟨units, -, capped⟩ := growing.exists_capped isCap attempt
  have drawn : policy.delay? sampler attempt = some (.nearest units) := growing.delay?_eq capped
  exact ⟨_, drawn, growing.follows few drawn, fun later less => growing.exists_later less drawn⟩

end Growing

/-- Half a second, doubling up to five. -/
def doubling : Backoff := (of 3 (.ofMilliseconds 500) (.ofSeconds 5) two).withoutJitter

theorem doubling_growing : doubling.Growing (2 * unitsPerOne) where
  plain := rfl
  isMultiplier := rfl
  grown := Nat.le_mul_of_pos_left _ Nat.two_pos
  initial := by decide
  cap := by decide

theorem delay_follows_doubling :
    doubling.Growing (2 * unitsPerOne) ∧ 3 ≤ greatestExponent ∧
      ∃ delay, doubling.delay? (fun range => range) 3 = some delay ∧
        doubling.Follows (2 * unitsPerOne) 3 delay ∧
        ∀ later, 3 ≤ later → ∃ delay', doubling.delay? (fun range => range) later = some delay' ∧
          delay.nanoseconds ≤ delay'.nanoseconds := by
  have few : 3 ≤ greatestExponent := by decide
  exact ⟨doubling_growing, few, Growing.delay_follows doubling_growing few⟩

/-- The formula is left in two ways: after enough attempts the cap takes the place of
nothing, and the longest delay is rounded up to more seconds than a duration holds. -/
theorem delay_departs :
    (of 3 (.ofSeconds 0) (.ofSeconds 1) two).withoutJitter.delay? (fun range => range) 1024 =
        some (.ofSeconds 1) ∧
      (of 3 (.ofSeconds 18446744073709551615) (.ofSeconds 18446744073709551615)
        two).withoutJitter.delay? (fun range => range) 0 = none := by
  decide +kernel

end Backoff

end AtLeastOnce
