import AtLeastOnce.Proofs.Json.Numerals
import AtLeastOnce.Proofs.Number.Accuracy

/-!
# The range of numerals

A number within the range of doubles is read and one beyond it is refused.  The digits
are cut, what is kept and the power of ten are rounded, and so is their product; each of
these changes the number by one rounding at most.  That leaves open only what lies
within a few steps of the end of the range.
-/

namespace AtLeastOnce.Json

/-- The number that is written, its sign aside. -/
def Numeral.magnitude (numeral : Numeral) : ℚ :=
  numberOf numeral.digits * 10 ^ numeral.power

def Numeral.ShortExponent (numeral : Numeral) : Prop :=
  ∀ exponent ∈ numeral.exponent?, numberOf exponent.digits ≤ 2147483647

/-- The range of doubles ends at `2 ^ 1024`, and a reader takes what is within it and
nothing beyond.  Four steps of the doubles below the end, where roundings decide, are left
open, and as much above it.  Of an exponent that does not fit 31 bits only the sign
counts. -/
structure ReadsRange (double? : Numeral → Option Double) : Prop where
  within {numeral : Numeral} : numeral.Valid → numeral.ShortExponent →
    numeral.magnitude ≤ (1 - 1 / 2 ^ 51) * 2 ^ 1024 → (double? numeral).isSome = true
  beyond {numeral : Numeral} : numeral.Valid → numeral.ShortExponent →
    (1 + 1 / 2 ^ 51) * 2 ^ 1024 ≤ numeral.magnitude → double? numeral = none
  long {numeral : Numeral} {exponent : Exponent} : numeral.Valid →
    numeral.exponent? = some exponent → 2147483647 < numberOf exponent.digits →
    ((double? numeral).isSome = true ↔ exponent.sign = ['-'] ∨ numberOf numeral.digits = 0)

section Cutting

variable {digits digits' : List Char}

theorem extended_append (value : ℕ) (first second : List Char) :
    extended value (first ++ second) = extended (extended value first) second :=
  List.foldl_append

theorem Digits.append (run : Digits digits) (run' : Digits digits') :
    Digits (digits ++ digits') := by
  intro character member
  rcases List.mem_append.mp member with left | right
  · exact run character left
  · exact run' character right

theorem Digits.extended_bounds (run : Digits digits) (value : ℕ) :
    value * 10 ^ digits.length ≤ extended value digits ∧
      extended value digits ≤ (value + 1) * 10 ^ digits.length := by
  induction digits generalizing value with
  | nil => simp [extended]
  | cons digit digits ih =>
    have small := digitAt_le run.head
    obtain ⟨low, high⟩ := ih run.tail (value * 10 + digitAt digit)
    rw [extended_cons, List.length_cons, Nat.pow_succ', ← Nat.mul_assoc, ← Nat.mul_assoc]
    constructor
    · exact (Nat.mul_le_mul_right _ (Nat.le_add_right _ _)).trans low
    · exact high.trans (Nat.mul_le_mul_right _ (by omega))

/-- The number that goes on from a whole one with digits behind a point. -/
def pointed (whole : ℕ) (digits : List Char) : ℚ := extended whole digits / 10 ^ digits.length

theorem pointed_append (whole : ℕ) (first second : List Char) :
    pointed whole (first ++ second) =
      pointed (extended whole first) second / 10 ^ first.length := by
  rw [pointed, pointed, extended_append, List.length_append, pow_add, mul_comm, div_div]

theorem Digits.le_pointed (run : Digits digits) (whole : ℕ) :
    (whole : ℚ) ≤ pointed whole digits := by
  rw [pointed, le_div_iff₀ (by positivity)]
  exact_mod_cast (run.extended_bounds whole).1

theorem Digits.pointed_le (run : Digits digits) (whole : ℕ) :
    pointed whole digits ≤ (whole : ℚ) + 1 := by
  rw [pointed, div_le_iff₀ (by positivity)]
  exact_mod_cast (run.extended_bounds whole).2

/-- Behind 53 bits, digits no longer matter. -/
theorem Digits.pointed_le_mul_slack (run : Digits digits) (run' : Digits digits') {whole : ℕ}
    (long : 2 ^ 53 ≤ whole) : pointed whole digits ≤ pointed whole digits' * slack := by
  have enough : (2 ^ 53 : ℚ) ≤ whole := by exact_mod_cast long
  calc pointed whole digits ≤ whole + 1 := run.pointed_le whole
    _ ≤ whole * slack := by
        unfold slack
        linarith
    _ ≤ pointed whole digits' * slack :=
        mul_le_mul_of_nonneg_right (run'.le_pointed whole) slack_pos.le

theorem Digits.close_pointed (run : Digits digits) (run' : Digits digits') {whole : ℕ}
    (long : 2 ^ 53 ≤ whole) : Close 1 (pointed whole digits) (pointed whole digits') := by
  constructor
  · simpa using run.pointed_le_mul_slack run' long
  · simpa using run'.pointed_le_mul_slack run long

/-- Nothing is left behind before 53 bits have been taken. -/
theorem Digits.takeDigits_long (run : Digits digits) (value taken : ℕ) :
    (takeDigits value taken digits).rest = [] ∨
      2 ^ 53 ≤ (takeDigits value taken digits).value := by
  induction digits generalizing value taken with
  | nil => exact .inl rfl
  | cons digit digits ih =>
    have small := digitAt_le run.head
    simp only [takeDigits]
    split
    next => exact ih run.tail _ _
    next full =>
      right
      rw [run.head, Bool.true_and, decide_eq_true_eq, Decimal.greatestNat64] at full
      show 2 ^ 53 ≤ value
      omega

theorem takeDigits_le {value : ℕ} (small : value ≤ Decimal.greatestNat64) (taken : ℕ)
    (digits : List Char) : (takeDigits value taken digits).value ≤ Decimal.greatestNat64 := by
  induction digits generalizing value taken with
  | nil => exact small
  | cons digit digits ih =>
    simp only [takeDigits]
    split
    next fits =>
      simp only [Bool.and_eq_true, decide_eq_true_eq] at fits
      exact ih fits.2 _
    next => exact small

/-- The digits that are taken stand behind the point. -/
theorem Digits.exists_front (run : Digits digits) (value : ℕ) :
    ∃ front, Digits front ∧ digits = front ++ (takeDigits value 0 digits).rest ∧
      (takeDigits value 0 digits).value = extended value front ∧
      ((takeDigits value 0 digits).value : ℚ) / 10 ^ (takeDigits value 0 digits).taken =
        pointed value front := by
  obtain ⟨front, split, count, kept⟩ := takeDigits_split value 0 digits
  refine ⟨front, ?_, split, kept, ?_⟩
  · intro character member
    exact run character (split ▸ List.mem_append_left _ member)
  · rw [count, kept, Nat.zero_add, pointed]

theorem Digits.close_taken (run : Digits digits) (value : ℕ) :
    Close 1 ((takeDigits value 0 digits).value / 10 ^ (takeDigits value 0 digits).taken)
      (pointed value digits) := by
  obtain ⟨front, -, split, kept, taken⟩ := run.exists_front value
  rcases run.takeDigits_long value 0 with none_left | long
  · rw [none_left, List.append_nil] at split
    rw [taken, ← split]
    apply (Close.refl _).mono (Nat.zero_le 1) <;>
      exact (Nat.cast_nonneg value).trans (run.le_pointed value)
  · rw [kept] at long
    have none_digits : Digits [] := by simp [Digits]
    have left := run.takeDigits_rest value 0
    rw [taken, ← List.append_nil front, pointed_append]
    conv_rhs => rw [split, pointed_append]
    exact (none_digits.close_pointed left long).div (by positivity)

end Cutting

section Numerals

variable {numeral : Numeral}

theorem Numeral.Valid.fraction_digits (valid : numeral.Valid) : Digits numeral.fraction := by
  unfold Numeral.fraction
  cases written : numeral.fraction? with
  | none => simp [Digits]
  | some digits => exact (valid.fraction digits written).1

theorem Numeral.magnitude_eq (numeral : Numeral) :
    numeral.magnitude =
      pointed (numberOf numeral.whole) numeral.fraction *
        10 ^ numeral.exponent?.elim 0 Exponent.value := by
  rw [magnitude, digits, power, zpow_sub₀ (by norm_num), zpow_natCast, pointed,
    numberOf_eq_extended, extended_append, ← numberOf_eq_extended, mul_div_assoc',
    div_mul_eq_mul_div]

theorem Numeral.cut_le (numeral : Numeral) : numeral.cut.value ≤ Decimal.greatestNat64 :=
  takeDigits_le (takeDigits_le (Nat.zero_le _) 0 _) 0 _

/-- The digits that are given up change the number no more than a rounding. -/
theorem Numeral.Valid.close_cut (valid : numeral.Valid) :
    Close 1 (numeral.cut.value * 10 ^ numeral.cutPower)
      (pointed (numberOf numeral.whole) numeral.fraction) := by
  have run := valid.fraction_digits
  have scaled : (numeral.cut.value : ℚ) * 10 ^ numeral.cutPower =
      numeral.cut.value / 10 ^ numeral.cut.taken *
        10 ^ (takeDigits 0 0 numeral.whole).rest.length := by
    rw [cutPower, zpow_sub₀ (by norm_num), zpow_natCast, zpow_natCast]
    ring
  obtain ⟨front, split, -, kept⟩ := takeDigits_split 0 0 numeral.whole
  have reached : numberOf numeral.whole =
      extended (takeDigits 0 0 numeral.whole).value (takeDigits 0 0 numeral.whole).rest := by
    rw [kept, ← extended_append, ← split, numberOf_eq_extended]
  rw [scaled, cut]
  rcases valid.whole.takeDigits_long 0 0 with none_left | long
  · rw [reached, none_left]
    simpa [extended] using run.close_taken (takeDigits 0 0 numeral.whole).value
  · -- Digits of the fraction may still be taken in after some of the whole part are not.
    obtain ⟨front', front_digits, -, -, taken⟩ :=
      run.exists_front (takeDigits 0 0 numeral.whole).value
    have others := (valid.whole.takeDigits_rest 0 0).append run
    have close := (front_digits.close_pointed others long).scale
      (show (0 : ℚ) ≤ 10 ^ (takeDigits 0 0 numeral.whole).rest.length by positivity)
    rwa [← taken, pointed_append, ← reached, div_mul_cancel₀ _ (by positivity)] at close

end Numerals

section Scaling

open Double

variable {significand power : ℕ} {exact : ℚ}

theorem powerOfTen_eq (few : power ≤ greatestPower) : powerOfTen power = ofNat (10 ^ power) := by
  have small : ¬ (400 : ℤ) < (power : ℤ) := by
    simp only [greatestPower] at few
    omega
  have large : ¬ ((power : ℤ) + ((Nat.log2 1 + 1 : ℕ) : ℤ) < -400) := by omega
  rw [powerOfTen, ofDecimal, if_neg one_ne_zero, if_neg small, if_neg large,
    if_pos (Int.natCast_nonneg power), Int.toNat_natCast, Nat.one_mul]
  rfl

/-- A whole number that is none of the least rounds to no less than one. -/
theorem unitsPerOne_le_of_ofNat {number units : ℕ} (positive : 0 < number)
    (made : ofNat number = .finite false units) : unitsPerOne ≤ units := by
  have least : (ofNat 1).le (ofNat number) = true := ofNat_le_ofNat positive
  rw [ofNat_of_lt (by decide), made, Nat.one_mul] at least
  exact one_le_finite.mp least

theorem ofNat_zero : ofNat 0 = .finite false 0 := by
  rw [ofNat, Nat.zero_mul, ofUnits_zero]

theorem normalized_mul {number number' units units' : ℕ} (positive : 0 < number')
    (made : ofNat number = .finite false units) (made' : ofNat number' = .finite false units') :
    Normalized (units * units') unitsPerOne := by
  rcases Nat.eq_zero_or_pos number with rfl | some_number
  · rw [ofNat_zero] at made
    cases made
    exact .inl (Nat.zero_mul _)
  · right
    exact Nat.mul_le_mul (unitsPerOne_le_of_ofNat some_number made)
      ((two_pow_le_unitsPerOne (by decide)).trans (unitsPerOne_le_of_ofNat positive made'))

theorem mul_slack_lt {number : ℕ} (inside : number * 3 < 2 ^ 1024 * 2) :
    (number : ℚ) * slack < 2 ^ 1024 := by
  have inside' : (number : ℚ) * 3 < 2 ^ 1024 * 2 := by exact_mod_cast inside
  have rounded : (number : ℚ) * slack ≤ number * (3 / 2) :=
    mul_le_mul_of_nonneg_left (by norm_num [slack]) (Nat.cast_nonneg number)
  generalize (2 : ℚ) ^ 1024 = limit at *
  linarith

theorem three_mul_lt (short : significand ≤ Decimal.greatestNat64) :
    significand * 3 < 2 ^ 1024 * 2 :=
  (Nat.mul_le_mul_right 3 short).trans_lt (by decide +kernel)

/-- The product that a reader rounds last is three roundings from the number. -/
theorem exists_product (short : significand ≤ Decimal.greatestNat64)
    (few : power ≤ greatestPower) (close : Close 1 (significand * 10 ^ power) exact) :
    ∃ numerator, (ofNat significand).mul (powerOfTen power) =
        ofUnits false numerator unitsPerOne ∧
      Normalized numerator unitsPerOne ∧
      Close 3 ((numerator : ℚ) / unitsPerOne / unitsPerOne) exact := by
  have tens : 10 ^ power * 3 < 2 ^ 1024 * 2 :=
    (Nat.mul_le_mul_right 3 (Nat.pow_le_pow_right (by decide) few)).trans_lt (by decide +kernel)
  obtain ⟨units, made, close'⟩ := ofNat_of_small (mul_slack_lt (three_mul_lt short))
  obtain ⟨units', made', close''⟩ := ofNat_of_small (mul_slack_lt tens)
  refine ⟨units * units', ?_, normalized_mul (by positivity) made made', ?_⟩
  · rw [powerOfTen_eq few, made, made', mul_finite]
  · rw [amount_mul_amount]
    have product := close'.mul close'' (amount_nonneg _) (Nat.cast_nonneg _) (amount_nonneg _)
      (Nat.cast_nonneg _)
    push_cast at product
    exact product.trans close

theorem scale?_isSome {power : ℤ} (short : significand ≤ Decimal.greatestNat64)
    (close : Close 1 (significand * 10 ^ power) exact)
    (inside : exact ≤ (1 - 1 / 2 ^ 51) * 2 ^ 1024) :
    (scale? significand power).isSome = true := by
  have limit : (0 : ℚ) < 2 ^ 1024 := by positivity
  have ten : (2 : ℚ) ^ 1024 * 2 < 10 ^ 309 := by
    exact_mod_cast (by decide +kernel : 2 ^ 1024 * 2 < 10 ^ 309)
  have four : (1 - 1 / 2 ^ 51 : ℚ) * slack ^ 4 < 1 := by norm_num [slack]
  unfold scale?
  dsimp only
  split
  next => rfl
  next upward =>
    obtain ⟨power, rfl⟩ := Int.eq_ofNat_of_zero_le (Int.not_lt.mp upward)
    rw [zpow_natCast] at close
    rw [Int.toNat_natCast]
    split
    next few =>
      obtain ⟨numerator, product, normal, close'⟩ := exists_product short few close
      have small : exact * slack ^ (3 + 1) < 2 ^ 1024 :=
        calc exact * slack ^ 4 ≤ (1 - 1 / 2 ^ 51) * 2 ^ 1024 * slack ^ 4 :=
              mul_le_mul_of_nonneg_right inside (slack_pow_pos 4).le
          _ = (1 - 1 / 2 ^ 51) * slack ^ 4 * 2 ^ 1024 := mul_right_comm _ _ _
          _ < 2 ^ 1024 := mul_lt_of_lt_one_left limit four
      obtain ⟨units, finite, -⟩ := ofUnits_of_small unitsPerOne_pos normal close' small
      rw [product, finite]
      rfl
    next many =>
      split
      next => rfl
      next some_digits =>
        have digit : (1 : ℚ) ≤ significand := by
          exact_mod_cast Nat.pos_of_ne_zero some_digits
        have tens : (10 : ℚ) ^ 309 ≤ significand * 10 ^ power :=
          (pow_le_pow_right₀ (by norm_num) (Nat.not_le.mp many)).trans
            (le_mul_of_one_le_left (by positivity) digit)
        have inside' := inside.trans (mul_le_of_le_one_left limit.le (by norm_num))
        have twice : exact * slack ^ 1 ≤ 2 ^ 1024 * 2 :=
          (mul_le_mul_of_nonneg_right inside' (slack_pow_pos 1).le).trans
            (mul_le_mul_of_nonneg_left (by norm_num [slack]) limit.le)
        exact absurd (tens.trans (close.le.trans twice)) (not_le.mpr ten)

theorem scale?_eq_none {power : ℤ} (short : significand ≤ Decimal.greatestNat64)
    (close : Close 1 (significand * 10 ^ power) exact)
    (beyond : (1 + 1 / 2 ^ 51) * 2 ^ 1024 ≤ exact) : scale? significand power = none := by
  have limit : (0 : ℚ) < 2 ^ 1024 := by positivity
  have three : slack ^ 3 ≤ (1 + 1 / 2 ^ 51 : ℚ) := by norm_num [slack]
  have reached : 2 ^ 1024 ≤ exact :=
    (le_mul_of_one_le_left limit.le (by norm_num)).trans beyond
  unfold scale?
  dsimp only
  split
  next downward =>
    have less : (significand : ℚ) * 10 ^ power ≤ significand :=
      mul_le_of_le_one_right (Nat.cast_nonneg _) (zpow_le_one_of_nonpos₀ (by norm_num) downward.le)
    have below := close.ge.trans (mul_le_mul_of_nonneg_right less (slack_pow_pos 1).le)
    rw [pow_one] at below
    exact absurd (reached.trans below) (not_le.mpr (mul_slack_lt (three_mul_lt short)))
  next upward =>
    obtain ⟨power, rfl⟩ := Int.eq_ofNat_of_zero_le (Int.not_lt.mp upward)
    rw [zpow_natCast] at close
    rw [Int.toNat_natCast]
    split
    next few =>
      obtain ⟨numerator, product, -, close'⟩ := exists_product short few close
      have large : 2 ^ 1024 ≤ (numerator : ℚ) / unitsPerOne / unitsPerOne := by
        have share := (mul_le_mul_of_nonneg_right three limit.le).trans (beyond.trans close'.ge)
        rw [mul_comm (slack ^ 3)] at share
        exact le_of_mul_le_mul_right share (slack_pow_pos 3)
      rw [product, ofUnits_of_large unitsPerOne_pos large]
      rfl
    next many =>
      split
      next none_digits =>
        have nothing := reached.trans close.ge
        rw [none_digits, Nat.cast_zero, zero_mul, zero_mul] at nothing
        exact absurd limit (not_lt.mpr nothing)
      next => rfl

end Scaling

section Readers

variable {numeral : Numeral}

/-- The power of ten that scales the digits that are kept. -/
def Numeral.scale (numeral : Numeral) : ℤ :=
  numeral.cutPower + numeral.exponent?.elim 0 Exponent.value

theorem Numeral.Valid.close_scale (valid : numeral.Valid) :
    Close 1 (numeral.cut.value * 10 ^ numeral.scale) numeral.magnitude := by
  rw [magnitude_eq, scale, zpow_add₀ (by norm_num), ← mul_assoc]
  exact valid.close_cut.scale (zpow_nonneg (by norm_num) _)

theorem Numeral.ShortExponent.scaled?_eq (short : numeral.ShortExponent) :
    numeral.scaled? =
      (scale? numeral.cut.value numeral.scale).map (signed !numeral.isNegative) := by
  unfold Numeral.scaled? scale
  cases written : numeral.exponent? with
  | none => simp [Json.scaled?]
  | some exponent =>
    have fits : exponent.magnitude ≤ 2147483647 := short exponent written
    simp only [Json.scaled?, scaledBy?, if_pos fits, Option.elim_some, Exponent.value]
    split
    next => rfl
    next => rw [← sub_eq_add_neg]

theorem Numeral.Valid.cut_eq_zero_iff (valid : numeral.Valid) :
    numeral.cut.value = 0 ↔ numberOf numeral.digits = 0 := by
  have powers (power : ℤ) : (0 : ℚ) < 10 ^ power := zpow_pos (by norm_num) power
  have same := valid.close_scale.eq_zero_iff
    (mul_nonneg (Nat.cast_nonneg _) (powers _).le) (mul_nonneg (Nat.cast_nonneg _) (powers _).le)
  simpa [Numeral.magnitude, (powers _).ne'] using same

/-- The reader's range is that of doubles. -/
theorem readsRange_scaled? : ReadsRange Numeral.scaled? where
  within := by
    intro numeral valid short inside
    rw [short.scaled?_eq, Option.isSome_map]
    exact scale?_isSome numeral.cut_le valid.close_scale inside
  beyond := by
    intro numeral valid short beyond
    rw [short.scaled?_eq, scale?_eq_none numeral.cut_le valid.close_scale beyond]
    rfl
  long := by
    intro numeral exponent valid written long
    have large : ¬ exponent.magnitude ≤ 2147483647 := Nat.not_le.mpr long
    rw [← valid.cut_eq_zero_iff]
    simp only [Numeral.scaled?, written, Json.scaled?, scaledBy?, if_neg large]
    by_cases minus : exponent.sign = ['-'] <;> by_cases zero : numeral.cut.value = 0 <;>
      simp [Exponent.isPositive, minus, zero]

end Readers

end AtLeastOnce.Json
