import AtLeastOnce.Proofs.Number.Ordering
import Mathlib.Algebra.Order.Ring.Rat
import Mathlib.Data.Nat.Cast.Order.Ring
import Mathlib.Tactic.FieldSimp
import Mathlib.Tactic.Linarith
import Mathlib.Tactic.Positivity

/-!
# What rounding can change

One rounding of a number that is not too small changes it by a factor of at most
`1 + 2⁻⁵³`, up or down.  Two numbers are close when some roundings can take one for the
other; what is close to a product, a sum or the smaller of two numbers follows from its
parts.
-/

namespace AtLeastOnce

/-- The largest factor by which one rounding changes a number. -/
def slack : ℚ := 1 + 1 / 2 ^ 53

theorem slack_pos : 0 < slack := by
  norm_num [slack]

theorem one_le_slack : 1 ≤ slack := by
  norm_num [slack]

theorem one_le_slack_pow (count : ℕ) : 1 ≤ slack ^ count := one_le_pow₀ one_le_slack

theorem slack_pow_pos (count : ℕ) : 0 < slack ^ count := pow_pos slack_pos count

/-- As many roundings as there are take one number at most to the other. -/
structure Close (count : ℕ) (left right : ℚ) : Prop where
  le : left ≤ right * slack ^ count
  ge : right ≤ left * slack ^ count

namespace Close

variable {count more first second : ℕ} {left right middle left' right' : ℚ}

theorem refl (value : ℚ) : Close 0 value value := by
  constructor <;> simp

theorem mono (close : Close count left right) (fewer : count ≤ more) (leftPositive : 0 ≤ left)
    (rightPositive : 0 ≤ right) : Close more left right := by
  have powers : slack ^ count ≤ slack ^ more := pow_le_pow_right₀ one_le_slack fewer
  constructor
  · exact close.le.trans (mul_le_mul_of_nonneg_left powers rightPositive)
  · exact close.ge.trans (mul_le_mul_of_nonneg_left powers leftPositive)

theorem trans (close : Close first left middle) (close' : Close second middle right) :
    Close (first + second) left right := by
  constructor
  · calc left ≤ middle * slack ^ first := close.le
      _ ≤ right * slack ^ second * slack ^ first :=
          mul_le_mul_of_nonneg_right close'.le (slack_pow_pos first).le
      _ = right * slack ^ (first + second) := by ring
  · calc right ≤ middle * slack ^ second := close'.ge
      _ ≤ left * slack ^ first * slack ^ second :=
          mul_le_mul_of_nonneg_right close.ge (slack_pow_pos second).le
      _ = left * slack ^ (first + second) := by ring

theorem mul (close : Close first left right) (close' : Close second left' right')
    (leftPositive : 0 ≤ left) (rightPositive : 0 ≤ right) (leftPositive' : 0 ≤ left')
    (rightPositive' : 0 ≤ right') : Close (first + second) (left * left') (right * right') := by
  have firstPositive := (slack_pow_pos first).le
  have secondPositive := (slack_pow_pos second).le
  constructor
  · calc left * left' ≤ right * slack ^ first * (right' * slack ^ second) :=
          mul_le_mul close.le close'.le leftPositive' (by positivity)
      _ = right * right' * slack ^ (first + second) := by ring
  · calc right * right' ≤ left * slack ^ first * (left' * slack ^ second) :=
          mul_le_mul close.ge close'.ge rightPositive' (by positivity)
      _ = left * left' * slack ^ (first + second) := by ring

theorem add (close : Close count left right) (close' : Close count left' right') :
    Close count (left + left') (right + right') := by
  constructor
  · rw [add_mul]
    exact add_le_add close.le close'.le
  · rw [add_mul]
    exact add_le_add close.ge close'.ge

theorem min (close : Close count left right) (close' : Close count left' right') :
    Close count (Min.min left left') (Min.min right right') := by
  have positive := (slack_pow_pos count).le
  constructor
  · rw [min_mul_of_nonneg _ _ positive]
    exact min_le_min close.le close'.le
  · rw [min_mul_of_nonneg _ _ positive]
    exact min_le_min close.ge close'.ge

theorem scale (close : Close count left right) {factor : ℚ} (nonneg : 0 ≤ factor) :
    Close count (left * factor) (right * factor) := by
  constructor
  · rw [mul_right_comm]
    exact mul_le_mul_of_nonneg_right close.le nonneg
  · rw [mul_right_comm]
    exact mul_le_mul_of_nonneg_right close.ge nonneg

theorem div (close : Close count left right) {divisor : ℚ} (positive : 0 < divisor) :
    Close count (left / divisor) (right / divisor) := by
  simpa only [div_eq_mul_inv] using close.scale (inv_nonneg.mpr positive.le)

end Close

theorem Close.eq_zero_iff {count : ℕ} {left right : ℚ} (close : Close count left right)
    (leftPositive : 0 ≤ left) (rightPositive : 0 ≤ right) : left = 0 ↔ right = 0 := by
  constructor
  · rintro rfl
    exact le_antisymm (by simpa using close.ge) rightPositive
  · rintro rfl
    exact le_antisymm (by simpa using close.le) leftPositive

/-- Some roundings change a number by little more than that many times `2⁻⁵³`. -/
theorem slack_pow_le {count : ℕ} (few : count ≤ 2 ^ 52) :
    slack ^ count ≤ 1 + count / 2 ^ 52 := by
  induction count with
  | zero => simp
  | succ count induction =>
      have before := induction (Nat.le_of_succ_le few)
      have small : (count : ℚ) / 2 ^ 52 ≤ 1 := by
        rw [div_le_one (by positivity)]
        exact_mod_cast Nat.le_of_succ_le few
      rw [pow_succ]
      calc slack ^ count * slack ≤ (1 + count / 2 ^ 52) * slack :=
            mul_le_mul_of_nonneg_right before slack_pos.le
        _ = 1 + count / 2 ^ 52 + (1 + count / 2 ^ 52) / 2 ^ 53 := by
            unfold slack
            ring
        _ ≤ 1 + count / 2 ^ 52 + (1 + 1) / 2 ^ 53 := by
            have := div_le_div_of_nonneg_right (add_le_add_right small 1)
              (show (0 : ℚ) ≤ 2 ^ 53 by positivity)
            linarith
        _ = 1 + ((count + 1 : ℕ) : ℚ) / 2 ^ 52 := by
            push_cast
            ring

theorem slack_pow_le_two {count : ℕ} (few : count ≤ 2 ^ 52) : slack ^ count ≤ 2 := by
  have share : (count : ℚ) / 2 ^ 52 ≤ 1 := by
    rw [div_le_one (by positivity)]
    exact_mod_cast few
  linarith [slack_pow_le few]

theorem Close.within {count : ℕ} {left right : ℚ} (close : Close count left right)
    (few : count ≤ 2 ^ 52) (leftPositive : 0 ≤ left) (rightPositive : 0 ≤ right) :
    |left - right| ≤ right * (count / 2 ^ 52) := by
  have share : (0 : ℚ) ≤ count / 2 ^ 52 := by positivity
  have factor := slack_pow_le few
  rw [abs_le]
  constructor
  · rcases le_total right left with more | less
    · have := mul_nonneg rightPositive share
      linarith
    · have scaled := mul_le_mul_of_nonneg_left factor leftPositive
      have shares := mul_le_mul_of_nonneg_right less share
      linarith [close.ge]
  · have scaled := mul_le_mul_of_nonneg_left factor rightPositive
    linarith [close.le]

namespace Double

section

variable {numerator denominator : ℕ}

/-- Rounding to a whole number goes no further than a half. -/
theorem nearestEven_within_half (numerator : ℕ) (positive : 0 < denominator) :
    2 * numerator ≤
        2 * (denominator * nearestEven numerator denominator) + denominator ∧
      2 * (denominator * nearestEven numerator denominator) ≤
        2 * numerator + denominator := by
  have parts := Nat.div_add_mod numerator denominator
  rcases nearestEven_cases numerator denominator with ⟨value, _⟩ | ⟨value, more⟩
  · rw [value]
    omega
  · have rest := Nat.mod_lt numerator positive
    have next : denominator * (numerator / denominator + 1) =
        denominator * (numerator / denominator) + denominator := Nat.mul_succ _ _
    rw [value, next]
    omega

/-- Rounding to 53 bits goes no further than half of a step. -/
theorem roundUnits_within_half (numerator : ℕ) (positive : 0 < denominator) :
    2 * numerator ≤ 2 * (denominator * roundUnits numerator denominator) +
        denominator * 2 ^ excessBits (numerator / denominator) ∧
      2 * (denominator * roundUnits numerator denominator) ≤
        2 * numerator + denominator * 2 ^ excessBits (numerator / denominator) := by
  have rounded : denominator * roundUnits numerator denominator =
      denominator * 2 ^ excessBits (numerator / denominator) *
        nearestEven numerator (denominator * 2 ^ excessBits (numerator / denominator)) := by
    rw [Nat.mul_assoc, Nat.mul_comm (2 ^ _)]
    rfl
  rw [rounded]
  apply nearestEven_within_half
  exact Nat.mul_pos positive (Nat.two_pow_pos _)

/-- A quotient that rounding leaves 53 bits of, or nothing at all. -/
def Normalized (numerator denominator : ℕ) : Prop :=
  numerator = 0 ∨ denominator * 2 ^ 52 ≤ numerator

theorem roundUnits_near (positive : 0 < denominator)
    (normal : denominator * 2 ^ 52 ≤ numerator) :
    2 ^ 53 * numerator ≤ (2 ^ 53 + 1) * (denominator * roundUnits numerator denominator) ∧
      2 ^ 53 * (denominator * roundUnits numerator denominator) ≤
        (2 ^ 53 + 1) * numerator := by
  have whole : 2 ^ 52 ≤ numerator / denominator :=
    (Nat.le_div_iff_mul_le positive).mpr (by rwa [Nat.mul_comm])
  have some_whole : numerator / denominator ≠ 0 := by omega
  have long : 52 ≤ (numerator / denominator).log2 := (Nat.le_log2 some_whole).mpr whole
  have leading := Nat.mul_le_mul_left denominator
    (two_pow_log2_le_roundUnits positive some_whole)
  have within : denominator * 2 ^ (numerator / denominator).log2 ≤ numerator :=
    Nat.le_trans (Nat.mul_le_mul_left _ (Nat.log2_self_le some_whole))
      (Nat.mul_div_le numerator denominator)
  -- A step is the leading power without its last 52 bits.
  have step : denominator * 2 ^ (numerator / denominator).log2 =
      2 ^ 52 * (denominator * 2 ^ excessBits (numerator / denominator)) := by
    unfold excessBits
    rw [Nat.mul_left_comm, ← Nat.pow_add, Nat.add_sub_cancel' long]
  have halves := roundUnits_within_half numerator positive
  rw [step] at leading within
  omega

theorem roundUnits_zero (denominator : ℕ) : roundUnits 0 denominator = 0 := by
  simp [roundUnits, nearestEven]

theorem close_roundUnits (positive : 0 < denominator) (normal : Normalized numerator denominator) :
    Close 1 (roundUnits numerator denominator) ((numerator : ℚ) / denominator) := by
  rcases normal with rfl | normal
  · rw [roundUnits_zero]
    constructor <;> simp
  · obtain ⟨low, high⟩ := roundUnits_near positive normal
    have lower : (2 ^ 53 * numerator : ℚ) ≤
        (2 ^ 53 + 1) * (denominator * roundUnits numerator denominator) := by
      exact_mod_cast low
    have upper : (2 ^ 53 * (denominator * roundUnits numerator denominator) : ℚ) ≤
        (2 ^ 53 + 1) * numerator := by
      exact_mod_cast high
    have some_parts : (0 : ℚ) < denominator := by exact_mod_cast positive
    constructor
    · rw [pow_one, div_mul_eq_mul_div, le_div_iff₀ some_parts]
      unfold slack
      linarith
    · rw [pow_one, div_le_iff₀ some_parts]
      unfold slack
      linarith

end

/-- The number that some units make. -/
def amount (units : ℕ) : ℚ := units / unitsPerOne

/-- The number has been computed from an exact one with some roundings; what has left the
finite range is very large. -/
inductive Tracks (count : ℕ) (exact : ℚ) : Double → Prop where
  | finite {units : ℕ} (close : Close count (amount units) exact) :
      Tracks count exact (.finite false units)
  | beyond (large : 2 ^ 200 ≤ exact * slack ^ count) : Tracks count exact (.infinite false)

section

variable {numerator denominator units units' count first second : ℕ}
  {exact exact' : ℚ} {left right : Double}

theorem unitsPerOne_cast_pos : (0 : ℚ) < unitsPerOne := by
  exact_mod_cast unitsPerOne_pos

theorem amount_nonneg (units : ℕ) : 0 ≤ amount units :=
  div_nonneg (Nat.cast_nonneg units) unitsPerOne_cast_pos.le

theorem one_le_amount (grown : unitsPerOne ≤ units) : 1 ≤ amount units := by
  rw [amount, one_le_div unitsPerOne_cast_pos]
  exact_mod_cast grown

theorem ofUnits_cases (numerator denominator : ℕ) :
    ofUnits false numerator denominator = .finite false (roundUnits numerator denominator) ∨
      ofUnits false numerator denominator = .infinite false ∧
        unitsOfOverflow ≤ roundUnits numerator denominator := by
  unfold ofUnits
  dsimp only
  split
  next => exact .inl rfl
  next beyond => exact .inr ⟨rfl, Nat.not_lt.mp beyond⟩

theorem eq_roundUnits_of_finite (made : ofUnits false numerator denominator = .finite false units) :
    units = roundUnits numerator denominator := by
  rcases ofUnits_cases numerator denominator with finite | ⟨infinite, _⟩
  · rw [finite] at made
    cases made
    rfl
  · rw [infinite] at made
    cases made

theorem two_pow_mul_unitsPerOne_lt {bits : ℕ} (few : bits + 1074 < 2098) :
    2 ^ bits * unitsPerOne < unitsOfOverflow := by
  rw [unitsPerOne_eq]
  generalize 1074 = exponent at *
  exact lt_unitsOfOverflow (Nat.le_of_eq (Nat.pow_add 2 bits exponent).symm) few

theorem two_pow_le_unitsPerOne {bits : ℕ} (few : bits ≤ 1074) : 2 ^ bits ≤ unitsPerOne := by
  rw [unitsPerOne_eq]
  generalize 1074 = exponent at *
  exact Nat.pow_le_pow_right Nat.two_pos few

theorem large_of_overflow (beyond : unitsOfOverflow ≤ units) : 2 ^ 200 ≤ amount units := by
  have powers : 2 ^ 200 * unitsPerOne < unitsOfOverflow := two_pow_mul_unitsPerOne_lt (by decide)
  rw [amount, le_div_iff₀ unitsPerOne_cast_pos]
  exact_mod_cast powers.le.trans beyond

theorem Tracks.ofUnits (positive : 0 < denominator) (normal : Normalized numerator denominator)
    (close : Close count ((numerator : ℚ) / denominator / unitsPerOne) exact) :
    Tracks (count + 1) exact (ofUnits false numerator denominator) := by
  have rounded := ((close_roundUnits positive normal).div unitsPerOne_cast_pos).trans close
  rw [Nat.add_comm 1] at rounded
  rcases ofUnits_cases numerator denominator with finite | ⟨infinite, overflow⟩
  · rw [finite]
    exact .finite rounded
  · rw [infinite]
    exact .beyond ((large_of_overflow overflow).trans rounded.le)

theorem one_le_finite : one.le (.finite false units) = true ↔ unitsPerOne ≤ units :=
  finite_le_iff

theorem amount_mul_amount (units units' : ℕ) :
    ((units * units' : ℕ) : ℚ) / unitsPerOne / unitsPerOne = amount units * amount units' := by
  have := unitsPerOne_cast_pos
  unfold amount
  push_cast
  field_simp

theorem amount_min (units units' : ℕ) :
    amount (Min.min units units') = Min.min (amount units) (amount units') := by
  unfold amount
  rw [Nat.cast_min, min_div_div_right unitsPerOne_cast_pos.le]

theorem amount_add_amount (units units' : ℕ) :
    ((units + units' : ℕ) : ℚ) / (1 : ℕ) / unitsPerOne = amount units + amount units' := by
  unfold amount
  push_cast
  ring

theorem two_pow_le_of_slack (large : 2 ^ 200 ≤ exact * slack ^ count) (few : count ≤ 2 ^ 52)
    (positive : 0 ≤ exact) : 2 ^ 199 ≤ exact := by
  have twice : exact * slack ^ count ≤ exact * 2 :=
    mul_le_mul_of_nonneg_left (slack_pow_le_two few) positive
  linarith

theorem one_le_mul_slack_pow (above : 1 ≤ exact) : 1 ≤ exact * slack ^ count :=
  one_le_mul_of_one_le_of_one_le above (one_le_slack_pow count)

/-- A product of numbers that are at least one takes one rounding more than its factors
together. -/
theorem Tracks.mul (tracks : Tracks first exact left) (tracks' : Tracks second exact' right)
    (grown : one.le left = true) (grown' : one.le right = true) (above : 1 ≤ exact)
    (above' : 1 ≤ exact') : Tracks (first + second + 1) (exact * exact') (left.mul right) := by
  have onePositive : one.Positive := .finite unitsPerOne_pos
  have split : exact * exact' * slack ^ (first + second + 1) =
      exact * slack ^ first * (exact' * slack ^ second * slack) := by
    ring
  have firstAbove : 1 ≤ exact * slack ^ first := one_le_mul_slack_pow above
  have secondAbove : 1 ≤ exact' * slack ^ second := one_le_mul_slack_pow above'
  cases tracks with
  | beyond large =>
      rw [(onePositive.of_le grown').infinite_mul]
      apply Tracks.beyond
      rw [split]
      apply large.trans
      apply le_mul_of_one_le_right (zero_le_one.trans firstAbove)
      exact one_le_mul_of_one_le_of_one_le secondAbove one_le_slack
  | @finite units close =>
      cases tracks' with
      | beyond large =>
          rw [(onePositive.of_le grown).mul_infinite]
          apply Tracks.beyond
          rw [split]
          apply large.trans
          rw [mul_left_comm]
          apply le_mul_of_one_le_right (zero_le_one.trans secondAbove)
          exact one_le_mul_of_one_le_of_one_le firstAbove one_le_slack
      | @finite units' close' =>
          rw [mul_finite]
          rw [one_le_finite] at grown grown'
          apply Tracks.ofUnits unitsPerOne_pos
          · right
            exact Nat.mul_le_mul grown ((two_pow_le_unitsPerOne (by decide)).trans grown')
          · rw [amount_mul_amount]
            exact close.mul close' (amount_nonneg units) (zero_le_one.trans above)
              (amount_nonneg units') (zero_le_one.trans above')

end

/-! ## Whole numbers -/

section

variable {units units' count : ℕ} {exact exact' : ℚ} {value : Double}

theorem ofUnits_zero (negative : Bool) (denominator : ℕ) :
    ofUnits negative 0 denominator = .finite negative 0 := by
  have inside : 0 < unitsOfOverflow := lt_unitsOfOverflow (Nat.zero_le (2 ^ 0)) (by decide)
  rw [ofUnits, roundUnits_zero]
  exact if_pos inside

theorem add_finite (units units' : ℕ) :
    (finite false units).add (finite false units') = ofUnits false (units + units') 1 := by
  have sum : signedUnits false units + signedUnits false units' =
      ((units + units' : ℕ) : ℤ) := rfl
  have sign : decide (((units + units' : ℕ) : ℤ) < 0) = false :=
    decide_eq_false (Int.not_lt.mpr (Int.natCast_nonneg _))
  simp only [add, sum, sign, Int.natAbs_natCast]
  split
  next nothing =>
    have zero : units + units' = 0 := by exact_mod_cast nothing
    rw [zero, ofUnits_zero]
    rfl
  next => rfl

theorem div_finite (some_units : 0 < units') :
    (finite false units).div (finite false units') =
      ofUnits false (units * unitsPerOne) units' := by
  simp [div, Nat.ne_of_gt some_units]

theorem Tracks.exists_close (tracks : Tracks count exact value)
    (small : exact * slack ^ count < 2 ^ 200) :
    ∃ units, value = .finite false units ∧ Close count (amount units) exact := by
  cases tracks with
  | finite close => exact ⟨_, rfl, close⟩
  | beyond large => exact absurd small (not_lt.mpr large)

theorem normalized_ofNat (number : ℕ) : Normalized (number * unitsPerOne) 1 := by
  by_cases zero : number = 0
  · left
    rw [zero, Nat.zero_mul]
  · right
    rw [Nat.one_mul]
    exact (two_pow_le_unitsPerOne (by decide)).trans
      (Nat.le_mul_of_pos_left _ (Nat.pos_of_ne_zero zero))

theorem ofNat_exact (number : ℕ) :
    ((number * unitsPerOne : ℕ) : ℚ) / (1 : ℕ) / unitsPerOne = number := by
  have := unitsPerOne_cast_pos
  push_cast
  field_simp

theorem tracks_ofNat (number : ℕ) : Tracks 1 number (ofNat number) := by
  apply Tracks.ofUnits Nat.one_pos (normalized_ofNat number)
  rw [ofNat_exact]
  exact .refl _

/-- A whole number that has no more than 53 bits is a double. -/
theorem ofNat_of_lt {number : ℕ} (short : number < 2 ^ 53) :
    ofNat number = .finite false (number * unitsPerOne) := by
  obtain ⟨exponent, power⟩ : ∃ exponent, unitsPerOne = 2 ^ exponent := ⟨1074, unitsPerOne_eq⟩
  have few : excessBits (number * unitsPerOne) ≤ exponent := by
    apply excessBits_le_of_lt
    rw [Nat.pow_add, ← power]
    exact Nat.mul_lt_mul_of_pos_right short unitsPerOne_pos
  have exact : roundUnits (number * unitsPerOne) 1 = number * unitsPerOne := by
    apply roundUnits_of_dvd
    have steps : 2 ^ excessBits (number * unitsPerOne) ∣ unitsPerOne := by
      conv_rhs => rw [power]
      exact Nat.pow_dvd_pow 2 few
    exact Nat.dvd_trans steps (Nat.dvd_mul_left _ _)
  have inside : number * unitsPerOne < unitsOfOverflow :=
    Nat.lt_of_le_of_lt (Nat.mul_le_mul_right _ short.le) (two_pow_mul_unitsPerOne_lt (by decide))
  rw [ofNat, ofUnits, exact]
  exact if_pos inside

theorem ofNat_le_ofNat {number number' : ℕ} (less : number ≤ number') :
    (ofNat number).le (ofNat number') = true := by
  apply ofUnits_le_ofUnits Nat.one_pos Nat.one_pos
  exact Nat.mul_le_mul_right _ (Nat.mul_le_mul_right _ less)

/-- A number that is not far below a nanosecond is a large number of units. -/
theorem two_pow_le_of_close {bits : ℕ} (close : Close count (amount units) exact)
    (few : count ≤ 2 ^ 52) (least : 1 / 10 ^ 9 ≤ exact) (short : bits + 31 ≤ 1074) :
    2 ^ bits ≤ units := by
  have twice : exact ≤ amount units * 2 :=
    close.ge.trans (mul_le_mul_of_nonneg_left (slack_pow_le_two few) (amount_nonneg units))
  have share : (unitsPerOne : ℚ) ≤ units * 2 ^ 31 := by
    have := unitsPerOne_cast_pos
    have below : (1 : ℚ) / 10 ^ 9 ≤ units / unitsPerOne * 2 := least.trans twice
    rw [div_mul_eq_mul_div, div_le_div_iff₀ (by positivity) this] at below
    have : (0 : ℚ) ≤ units := Nat.cast_nonneg units
    linarith
  have enough : 2 ^ bits * 2 ^ 31 ≤ units * 2 ^ 31 := by
    rw [← Nat.pow_add]
    exact (two_pow_le_unitsPerOne short).trans (by exact_mod_cast share)
  exact Nat.le_of_mul_le_mul_right enough (by decide)

theorem eq_zero_of_close (close : Close count (amount units) 0) : units = 0 := by
  have nothing := (close.eq_zero_iff (amount_nonneg units) le_rfl).mpr rfl
  rw [amount, div_eq_zero_iff] at nothing
  exact_mod_cast nothing.resolve_right unitsPerOne_cast_pos.ne'

/-- Nothing at all, or a nanosecond at least. -/
def Substantial (exact : ℚ) : Prop := exact = 0 ∨ 1 / 10 ^ 9 ≤ exact

theorem zero_or_many (bits : ℕ) (close : Close count (amount units) exact)
    (substantial : Substantial exact) (few : count ≤ 2 ^ 52) (short : bits + 31 ≤ 1074) :
    units = 0 ∨ 2 ^ bits ≤ units := by
  rcases substantial with rfl | least
  · exact .inl (eq_zero_of_close close)
  · exact .inr (two_pow_le_of_close close few least short)

theorem substantial_div (number : ℕ) : Substantial ((number : ℚ) / 10 ^ 9) := by
  rcases Nat.eq_zero_or_pos number with rfl | positive
  · left
    simp
  · right
    apply div_le_div_of_nonneg_right _ (by positivity)
    exact_mod_cast positive

theorem substantial_natCast (number : ℕ) : Substantial (number : ℚ) := by
  rcases Nat.eq_zero_or_pos number with rfl | positive
  · left
    simp
  · right
    have : (1 : ℚ) ≤ number := by exact_mod_cast positive
    linarith

end

/-! ## The finite range -/

section

variable {numerator denominator units count : ℕ} {exact : ℚ}

theorem unitsOfOverflow_eq : unitsOfOverflow = 2 ^ 1024 * unitsPerOne := by
  have bits : 2098 = 1024 + 1074 := rfl
  rw [unitsPerOne_eq]
  delta unitsOfOverflow
  rw [bits]
  generalize 1024 = bits
  generalize 1074 = exponent
  exact Nat.pow_add 2 bits exponent

theorem amount_lt_iff : amount units < 2 ^ 1024 ↔ units < unitsOfOverflow := by
  rw [amount, div_lt_iff₀ unitsPerOne_cast_pos, unitsOfOverflow_eq]
  exact_mod_cast Iff.rfl

/-- What stays within the range by all its roundings is finite. -/
theorem ofUnits_of_small (positive : 0 < denominator) (normal : Normalized numerator denominator)
    (close : Close count ((numerator : ℚ) / denominator / unitsPerOne) exact)
    (small : exact * slack ^ (count + 1) < 2 ^ 1024) :
    ∃ units, ofUnits false numerator denominator = .finite false units ∧
      Close (count + 1) (amount units) exact := by
  have rounded := ((close_roundUnits positive normal).div unitsPerOne_cast_pos).trans close
  rw [Nat.add_comm 1] at rounded
  have inside : roundUnits numerator denominator < unitsOfOverflow :=
    amount_lt_iff.mp (rounded.le.trans_lt small)
  rcases ofUnits_cases numerator denominator with finite | ⟨_, overflow⟩
  · exact ⟨_, finite, rounded⟩
  · exact absurd inside (Nat.not_lt.mpr overflow)

/-- What is beyond the range is infinite. -/
theorem ofUnits_of_large (positive : 0 < denominator)
    (large : 2 ^ 1024 ≤ (numerator : ℚ) / denominator / unitsPerOne) :
    ofUnits false numerator denominator = .infinite false := by
  have beyond : unitsOfOverflow * denominator ≤ numerator * 1 := by
    rw [unitsOfOverflow_eq]
    rw [le_div_iff₀ unitsPerOne_cast_pos, le_div_iff₀ (by exact_mod_cast positive)] at large
    rw [Nat.mul_one]
    exact_mod_cast large
  have limit : roundUnits unitsOfOverflow 1 = unitsOfOverflow := by
    apply roundUnits_of_dvd
    delta unitsOfOverflow
    generalize 2098 = exponent
    exact Nat.pow_dvd_pow 2 (excessBits_le (Nat.le_refl _))
  have rounded := roundUnits_mono Nat.one_pos positive beyond
  rw [limit] at rounded
  unfold ofUnits
  dsimp only
  split
  next inside => exact absurd inside (Nat.not_lt.mpr rounded)
  next => rfl

/-- A whole number within the range is one rounding from its double. -/
theorem ofNat_of_small {number : ℕ} (small : (number : ℚ) * slack < 2 ^ 1024) :
    ∃ units, ofNat number = .finite false units ∧ Close 1 (amount units) number := by
  apply ofUnits_of_small Nat.one_pos (normalized_ofNat number)
  · rw [ofNat_exact]
    exact .refl _
  · rwa [Nat.zero_add, pow_one]

end

end Double

end AtLeastOnce
