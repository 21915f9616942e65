import AtLeastOnce.Proofs.Number.Accuracy

/-!
# Powers by repeated squaring

The powers of a number that is at least one do not decrease, although each product is
rounded on its own way: up to the lowest digit that two neighbouring exponents share, one
of them only squares what the other also multiplies.  A power takes as many roundings as
its exponent says.
-/

namespace AtLeastOnce.Double

variable {product product' base : Double}

/-! ## The digits of the exponent -/

theorem mulPower_zero (product base : Double) : mulPower product base 0 = product := by
  rw [mulPower]
  simp

theorem mulPower_double (product base : Double) (half : ℕ) :
    mulPower product base (2 * half) = mulPower product (base.mul base) half := by
  rw [mulPower]
  have even : 2 * half % 2 ≠ 1 := by omega
  have halved : 2 * half / 2 = half := by omega
  simp only [even, if_false, halved]
  split
  next zero => rw [zero, mulPower_zero]
  next => rfl

theorem mulPower_double_succ (product base : Double) (half : ℕ) :
    mulPower product base (2 * half + 1) =
      mulPower (product.mul base) (base.mul base) half := by
  rw [mulPower]
  have odd : (2 * half + 1) % 2 = 1 := by omega
  have halved : (2 * half + 1) / 2 = half := by omega
  simp only [odd, if_true, halved]
  split
  next zero => rw [zero, mulPower_zero]
  next => rfl

/-! ## Growth -/

theorem one_positive : one.Positive := .finite unitsPerOne_pos

theorem one_le_mul (grown : one.le product = true) (grown' : one.le base = true) :
    one.le (product.mul base) = true := by
  have unit : one.mul one = one := by decide +kernel
  have products := mul_le_mul one_positive one_positive grown grown'
  rwa [unit] at products

/-- What has been rounded is not changed by a product with one. -/
theorem one_mul_ofUnits {denominator : ℕ} (positive : 0 < denominator) (numerator : ℕ) :
    one.mul (ofUnits false numerator denominator) = ofUnits false numerator denominator := by
  have again : roundUnits (unitsPerOne * roundUnits numerator denominator) unitsPerOne =
      roundUnits numerator denominator := by
    conv_rhs => rw [← roundUnits_roundUnits positive]
    apply Nat.le_antisymm
    · apply roundUnits_mono unitsPerOne_pos Nat.one_pos
      rw [Nat.mul_one, Nat.mul_comm]
    · apply roundUnits_mono Nat.one_pos unitsPerOne_pos
      rw [Nat.mul_one, Nat.mul_comm]
  rcases ofUnits_cases numerator denominator with finite | ⟨infinite, _⟩
  · rw [finite]
    change ofUnits false (unitsPerOne * roundUnits numerator denominator) unitsPerOne = _
    rw [ofUnits] at finite ⊢
    rw [again]
    exact finite
  · rw [infinite]
    exact one_positive.mul_infinite

theorem one_mul_mul (positive : product.Positive) (positive' : base.Positive) :
    one.mul (product.mul base) = product.mul base := by
  cases positive with
  | infinite => rw [positive'.infinite_mul, one_positive.mul_infinite]
  | finite some_units =>
      cases positive' with
      | infinite => rw [(Positive.finite some_units).mul_infinite, one_positive.mul_infinite]
      | finite =>
          rw [mul_finite]
          exact one_mul_ofUnits unitsPerOne_pos _

theorem mulPower_le_mulPower {exponent : ℕ} (grown : one.le product = true)
    (grownBase : one.le base = true) (less : product.le product' = true) :
    (mulPower product base exponent).le (mulPower product' base exponent) = true := by
  induction exponent using Nat.strongRecOn generalizing product product' base with
  | ind exponent induction =>
      have positive := one_positive.of_le grown
      obtain ⟨half, rfl | rfl⟩ := Nat.even_or_odd' exponent
      · by_cases zero : half = 0
        · subst zero
          rw [mulPower_zero, mulPower_zero]
          exact less
        · rw [mulPower_double, mulPower_double]
          exact induction half (by omega) grown (one_le_mul grownBase grownBase) less
      · rw [mulPower_double_succ, mulPower_double_succ]
        apply induction half (by omega) (one_le_mul grown grownBase)
          (one_le_mul grownBase grownBase)
        have basePositive := one_positive.of_le grownBase
        exact mul_le_mul positive basePositive less basePositive.le_refl

/-- What has been multiplied so far is at most the base, so one more in the exponent does
not make the power smaller. -/
theorem mulPower_le_mulPower_succ {exponent : ℕ} (grown : one.le product = true)
    (less : product.le base = true) (rounded : one.mul base = base) :
    (mulPower product base exponent).le (mulPower one base (exponent + 1)) = true := by
  induction exponent using Nat.strongRecOn generalizing product base with
  | ind exponent induction =>
      have positive := one_positive.of_le grown
      have basePositive := positive.of_le less
      have grownBase := le_trans grown less
      obtain ⟨half, rfl | rfl⟩ := Nat.even_or_odd' exponent
      · rw [mulPower_double, mulPower_double_succ, rounded]
        exact mulPower_le_mulPower grown (one_le_mul grownBase grownBase) less
      · have next : 2 * half + 1 + 1 = 2 * (half + 1) := by omega
        rw [next, mulPower_double_succ, mulPower_double]
        apply induction half (by omega) (one_le_mul grown grownBase)
        · exact mul_le_mul positive basePositive less basePositive.le_refl
        · exact one_mul_mul basePositive basePositive

theorem power_le_power_succ (grown : one.le base = true) (exponent : ℕ) :
    (base.power exponent).le (base.power (exponent + 1)) = true := by
  have positive := one_positive.of_le grown
  have first : one.le (one.mul base) = true := one_le_mul one_positive.le_refl grown
  unfold power
  obtain ⟨half, rfl | rfl⟩ := Nat.even_or_odd' exponent
  · rw [mulPower_double, mulPower_double_succ]
    exact mulPower_le_mulPower one_positive.le_refl (one_le_mul grown grown) first
  · have next : 2 * half + 1 + 1 = 2 * (half + 1) := by omega
    rw [next, mulPower_double_succ, mulPower_double]
    apply mulPower_le_mulPower_succ first
    · exact mul_le_mul one_positive positive grown positive.le_refl
    · exact one_mul_mul positive positive

theorem one_le_power (grown : one.le base = true) (exponent : ℕ) :
    one.le (base.power exponent) = true := by
  induction exponent with
  | zero =>
      rw [power, mulPower_zero]
      exact one_positive.le_refl
  | succ exponent induction =>
      exact le_trans induction (power_le_power_succ grown exponent)

theorem power_mono (grown : one.le base = true) {exponent exponent' : ℕ}
    (less : exponent ≤ exponent') :
    (base.power exponent).le (base.power exponent') = true := by
  have positive := one_positive.of_le (one_le_power grown exponent)
  induction exponent', less using Nat.le_induction with
  | base => exact positive.le_refl
  | succ exponent' _ induction =>
      exact le_trans induction (power_le_power_succ grown exponent')

/-! ## Accuracy -/

theorem Tracks.mulPower {first second exponent : ℕ} {exact exact' : ℚ}
    (tracks : Tracks first exact product) (tracks' : Tracks second exact' base)
    (grown : one.le product = true) (grown' : one.le base = true) (above : 1 ≤ exact)
    (above' : 1 ≤ exact') :
    Tracks (first + exponent * (second + 1)) (exact * exact' ^ exponent)
      (mulPower product base exponent) := by
  induction exponent using Nat.strongRecOn generalizing product base first second exact exact' with
  | ind exponent induction =>
      have squared := tracks'.mul tracks' grown' grown' above' above'
      have grownSquare := one_le_mul grown' grown'
      have aboveSquare := one_le_mul_of_one_le_of_one_le above' above'
      obtain ⟨half, rfl | rfl⟩ := Nat.even_or_odd' exponent
      · by_cases zero : half = 0
        · subst zero
          rw [mulPower_zero]
          simpa using tracks
        · have raised := induction half (by omega) tracks squared grown grownSquare above
            aboveSquare
          rw [mulPower_double]
          convert raised using 1
          · ring
          · ring
      · have multiplied := tracks.mul tracks' grown grown' above above'
        have raised := induction half (by omega) multiplied squared (one_le_mul grown grown')
          grownSquare (one_le_mul_of_one_le_of_one_le above above') aboveSquare
        rw [mulPower_double_succ]
        convert raised using 1
        · ring
        · ring

/-- A power takes as many roundings as its exponent says. -/
theorem tracks_power {units : ℕ} (grown : unitsPerOne ≤ units) (exponent : ℕ) :
    Tracks exponent (amount units ^ exponent) (power (.finite false units) exponent) := by
  have unit : Tracks 0 1 one := by
    apply Tracks.finite
    rw [amount, div_self unitsPerOne_cast_pos.ne']
    exact .refl 1
  have base : Tracks 0 (amount units) (.finite false units) := .finite (.refl (amount units))
  have raised : Tracks (0 + exponent * (0 + 1)) (1 * amount units ^ exponent)
      (one.mulPower (.finite false units) exponent) :=
    unit.mulPower base one_positive.le_refl (one_le_finite.mpr grown) le_rfl
      (one_le_amount grown)
  rw [Nat.zero_add, Nat.zero_add, Nat.mul_one, one_mul] at raised
  exact raised

end AtLeastOnce.Double
