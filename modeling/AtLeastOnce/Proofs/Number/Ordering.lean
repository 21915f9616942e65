import AtLeastOnce.Proofs.Number.Rounding
import Mathlib.Tactic.Ring

/-!
# Rounding keeps the order

The larger of two quotients is not rounded to a smaller number, and what has been rounded
once is not changed by rounding it again.  So a product grows with its factors, as long as
these are positive.
-/

namespace AtLeastOnce.Double

section

variable {numerator denominator bound : Nat}

/-! ## To a whole number -/

theorem nearestEven_cases (numerator denominator : Nat) :
    nearestEven numerator denominator = numerator / denominator ∧
        (2 * (numerator % denominator) < denominator ∨
          2 * (numerator % denominator) = denominator ∧ numerator / denominator % 2 = 0) ∨
      nearestEven numerator denominator = numerator / denominator + 1 ∧
        (denominator < 2 * (numerator % denominator) ∨
          2 * (numerator % denominator) = denominator ∧ numerator / denominator % 2 = 1) := by
  unfold nearestEven
  dsimp only
  split
  · omega
  · split
    · omega
    · split <;> omega

/-- A quotient is rounded to at most a bound if it lies below the half after it, or at
that half and the bound is even. -/
theorem nearestEven_le_iff (positive : 0 < denominator) :
    nearestEven numerator denominator ≤ bound ↔
      2 * numerator < denominator * (2 * bound + 1) ∨
        2 * numerator = denominator * (2 * bound + 1) ∧ bound % 2 = 0 := by
  have parts := Nat.div_add_mod numerator denominator
  have rest := Nat.mod_lt numerator positive
  have half : denominator * (2 * bound + 1) = 2 * (denominator * bound) + denominator := by
    ring
  rw [half]
  rcases Nat.lt_trichotomy (numerator / denominator) bound with less | same | more
  · have next : denominator * (numerator / denominator + 1) ≤ denominator * bound :=
      Nat.mul_le_mul_left denominator less
    rw [Nat.mul_succ] at next
    rcases nearestEven_cases numerator denominator with ⟨value, _⟩ | ⟨value, _⟩ <;> omega
  · rw [same] at parts
    rcases nearestEven_cases numerator denominator with ⟨value, _⟩ | ⟨value, _⟩ <;> omega
  · have next : denominator * (bound + 1) ≤ denominator * (numerator / denominator) :=
      Nat.mul_le_mul_left denominator more
    rw [Nat.mul_succ] at next
    rcases nearestEven_cases numerator denominator with ⟨value, _⟩ | ⟨value, _⟩ <;> omega

theorem le_nearestEven (positive : 0 < denominator) (above : denominator * bound ≤ numerator) :
    bound ≤ nearestEven numerator denominator := by
  have whole : bound ≤ numerator / denominator :=
    (Nat.le_div_iff_mul_le positive).mpr (by rwa [Nat.mul_comm])
  rcases nearestEven_cases numerator denominator with ⟨value, _⟩ | ⟨value, _⟩ <;> omega

theorem nearestEven_eq (positive : 0 < denominator)
    (low : 2 * (denominator * bound) < 2 * numerator + denominator)
    (high : 2 * numerator < 2 * (denominator * bound) + denominator) :
    nearestEven numerator denominator = bound := by
  apply Nat.le_antisymm
  · rw [nearestEven_le_iff positive]
    left
    rw [Nat.mul_succ, Nat.mul_left_comm]
    exact high
  · rcases Nat.eq_zero_or_pos bound with rfl | some_bound
    · exact Nat.zero_le _
    · obtain ⟨previous, rfl⟩ := Nat.exists_eq_succ_of_ne_zero (Nat.ne_of_gt some_bound)
      apply Nat.lt_of_not_le
      rw [nearestEven_le_iff positive, Nat.mul_succ, Nat.mul_left_comm]
      rw [Nat.mul_succ] at low
      omega

theorem nearestEven_mul_self (positive : 0 < denominator) (whole : Nat) :
    nearestEven (denominator * whole) denominator = whole :=
  Nat.le_antisymm (nearestEven_le positive (Nat.le_refl _))
    (le_nearestEven positive (Nat.le_refl _))

section

variable {numerator' denominator' : Nat}

theorem nearestEven_mono (positive : 0 < denominator) (positive' : 0 < denominator')
    (less : numerator * denominator' ≤ numerator' * denominator) :
    nearestEven numerator denominator ≤ nearestEven numerator' denominator' := by
  rw [nearestEven_le_iff positive]
  -- Both quotients are compared with the same half.
  have scaled : 2 * numerator * denominator' ≤ 2 * numerator' * denominator := by
    rw [Nat.mul_assoc, Nat.mul_assoc]
    exact Nat.mul_le_mul_left 2 less
  have swap : ∀ half : Nat,
      denominator' * half * denominator = denominator * half * denominator' := by
    intro half
    ring
  rcases (nearestEven_le_iff positive').mp (Nat.le_refl _) with below | ⟨tie, even⟩
  · left
    apply Nat.lt_of_mul_lt_mul_right (a := denominator')
    apply Nat.lt_of_le_of_lt scaled
    rw [← swap]
    exact Nat.mul_lt_mul_of_pos_right below positive
  · have most : 2 * numerator ≤
        denominator * (2 * nearestEven numerator' denominator' + 1) := by
      apply Nat.le_of_mul_le_mul_right _ positive'
      rw [← swap, ← tie]
      exact scaled
    rcases Nat.lt_or_eq_of_le most with below | same
    · exact .inl below
    · exact .inr ⟨same, even⟩

end

/-! ## To 53 bits -/

theorem two_pow_log2_le_roundUnits (positive : 0 < denominator)
    (some_whole : numerator / denominator ≠ 0) :
    2 ^ (numerator / denominator).log2 ≤ roundUnits numerator denominator := by
  have few : excessBits (numerator / denominator) ≤ (numerator / denominator).log2 :=
    Nat.sub_le _ _
  have steps : 2 ^ (numerator / denominator).log2 =
      2 ^ ((numerator / denominator).log2 - excessBits (numerator / denominator)) *
        2 ^ excessBits (numerator / denominator) := by
    rw [← Nat.pow_add, Nat.sub_add_cancel few]
  have whole : denominator * 2 ^ (numerator / denominator).log2 ≤ numerator := by
    calc denominator * 2 ^ (numerator / denominator).log2
        ≤ denominator * (numerator / denominator) :=
          Nat.mul_le_mul_left _ (Nat.log2_self_le some_whole)
      _ ≤ numerator := Nat.mul_div_le numerator denominator
  rw [steps]
  apply Nat.mul_le_mul_right
  apply le_nearestEven (Nat.mul_pos positive (Nat.two_pow_pos _))
  rw [Nat.mul_assoc, Nat.mul_comm (2 ^ _), ← steps]
  exact whole

theorem excessBits_mono {whole whole' : Nat} (less : whole ≤ whole') :
    excessBits whole ≤ excessBits whole' := by
  unfold excessBits
  have logs : whole.log2 ≤ whole'.log2 := by
    by_cases zero : whole = 0
    · simp [zero]
    · have some_whole : whole' ≠ 0 := by omega
      exact (Nat.le_log2 some_whole).mpr (Nat.le_trans (Nat.log2_self_le zero) less)
  omega

theorem roundUnits_mono {numerator' denominator' : Nat} (positive : 0 < denominator)
    (positive' : 0 < denominator')
    (less : numerator * denominator' ≤ numerator' * denominator) :
    roundUnits numerator denominator ≤ roundUnits numerator' denominator' := by
  have quotients : numerator / denominator ≤ numerator' / denominator' := by
    apply (Nat.le_div_iff_mul_le positive').mpr
    apply Nat.le_of_mul_le_mul_right _ positive
    calc numerator / denominator * denominator' * denominator
        = numerator / denominator * denominator * denominator' := by ring
      _ ≤ numerator * denominator' :=
          Nat.mul_le_mul_right _ (Nat.div_mul_le_self numerator denominator)
      _ ≤ numerator' * denominator := less
  rcases Nat.lt_or_eq_of_le (excessBits_mono quotients) with coarser | same
  · -- A power of two lies between the two, and no rounding passes it.
    have logs : (numerator / denominator).log2 < (numerator' / denominator').log2 := by
      unfold excessBits at coarser
      omega
    have some_whole : numerator' / denominator' ≠ 0 := by
      intro zero
      rw [zero] at logs
      simp at logs
    have below : numerator ≤ denominator * 2 ^ (numerator' / denominator').log2 := by
      have short : numerator / denominator < 2 ^ (numerator' / denominator').log2 := by
        by_cases zero : numerator / denominator = 0
        · rw [zero]
          exact Nat.two_pow_pos _
        · exact (Nat.log2_lt zero).mp logs
      rw [Nat.mul_comm]
      exact Nat.le_of_lt ((Nat.div_lt_iff_lt_mul positive).mp short)
    exact Nat.le_trans (roundUnits_le positive below)
      (two_pow_log2_le_roundUnits positive' some_whole)
  · unfold roundUnits
    dsimp only
    rw [same]
    apply Nat.mul_le_mul_right
    apply nearestEven_mono (Nat.mul_pos positive (Nat.two_pow_pos _))
      (Nat.mul_pos positive' (Nat.two_pow_pos _))
    rw [← Nat.mul_assoc, ← Nat.mul_assoc]
    exact Nat.mul_le_mul_right _ less

/-- A multiple of the steps that rounding leaves is not changed by it. -/
theorem roundUnits_of_dvd {units : Nat} (steps : 2 ^ excessBits units ∣ units) :
    roundUnits units 1 = units := by
  obtain ⟨whole, same⟩ := steps
  unfold roundUnits
  dsimp only
  rw [Nat.div_one, Nat.one_mul]
  have exact : nearestEven units (Nat.pow 2 (excessBits units)) = whole := by
    conv_lhs => arg 1; rw [same]
    exact nearestEven_mul_self (Nat.two_pow_pos _) whole
  rw [exact, Nat.mul_comm]
  exact same.symm

theorem excessBits_le_of_lt {whole bits : Nat} (short : whole < 2 ^ (53 + bits)) :
    excessBits whole ≤ bits := by
  unfold excessBits
  by_cases zero : whole = 0
  · simp [zero]
  · have := (Nat.log2_lt zero).mpr short
    omega

theorem roundUnits_roundUnits (positive : 0 < denominator) :
    roundUnits (roundUnits numerator denominator) 1 = roundUnits numerator denominator := by
  apply roundUnits_of_dvd
  -- At most 53 bits are left, and those below them are zero.
  have short : numerator / denominator < 2 ^ (53 + excessBits (numerator / denominator)) := by
    apply Nat.lt_of_lt_of_le Nat.lt_log2_self
    apply Nat.pow_le_pow_right Nat.two_pos
    unfold excessBits
    omega
  have most : roundUnits numerator denominator ≤
      2 ^ (53 + excessBits (numerator / denominator)) := by
    apply roundUnits_le positive
    rw [Nat.mul_comm]
    exact Nat.le_of_lt ((Nat.div_lt_iff_lt_mul positive).mp short)
  rcases Nat.lt_or_eq_of_le most with less | power
  · apply Nat.dvd_trans (Nat.pow_dvd_pow 2 (excessBits_le_of_lt less))
    exact Nat.dvd_mul_left _ _
  · rw [power]
    apply Nat.pow_dvd_pow
    exact excessBits_le (Nat.le_refl _)

end

/-! ## Positive numbers -/

/-- An infinity or a number of units, but neither zero nor negative. -/
inductive Positive : Double → Prop where
  | infinite : Positive (.infinite false)
  | finite {units : Nat} (some_units : 0 < units) : Positive (.finite false units)

section

variable {left right left' right' middle : Double} {units units' : Nat}

theorem finite_le_iff :
    (finite false units).le (finite false units') = true ↔ units ≤ units' := by
  simp [le, signedUnits]

theorem Positive.le_refl (positive : left.Positive) : left.le left = true := by
  cases positive with
  | infinite => rfl
  | finite => exact finite_le_iff.mpr (Nat.le_refl _)

theorem Positive.of_le (positive : left.Positive) (less : left.le right = true) :
    right.Positive := by
  cases right with
  | nan => cases positive <;> cases less
  | infinite negative =>
      cases negative with
      | false => exact .infinite
      | true => cases positive <;> cases less
  | finite negative units =>
      cases positive with
      | infinite => cases less
      | finite some_units =>
          simp only [le, signedUnits, decide_eq_true_eq, Bool.false_eq_true, if_false] at less
          cases negative with
          | false =>
              apply Positive.finite
              simp at less
              omega
          | true =>
              simp at less
              omega

theorem le_trans (less : left.le middle = true) (more : middle.le right = true) :
    left.le right = true := by
  -- Only finite numbers have units to compare; the other cases are told by the signs.
  rcases left with _ | (_ | _) | _ <;> rcases middle with _ | (_ | _) | _ <;>
    rcases right with _ | (_ | _) | _ <;> try first | rfl | contradiction
  simp only [le, decide_eq_true_eq] at less more ⊢
  exact Int.le_trans less more

theorem ofUnits_le_ofUnits {numerator denominator numerator' denominator' : Nat}
    (positive : 0 < denominator) (positive' : 0 < denominator')
    (less : numerator * denominator' ≤ numerator' * denominator) :
    (ofUnits false numerator denominator).le (ofUnits false numerator' denominator') = true := by
  have rounded := roundUnits_mono positive positive' less
  unfold ofUnits
  dsimp only
  split
  next =>
    split
    next => exact finite_le_iff.mpr rounded
    next => rfl
  next beyond =>
    rw [if_neg (Nat.not_lt.mpr (Nat.le_trans (Nat.not_lt.mp beyond) rounded))]
    rfl

theorem mul_finite :
    (finite false units).mul (finite false units') =
      ofUnits false (units * units') unitsPerOne := rfl

theorem Positive.infinite_mul (positive : right.Positive) :
    (Double.infinite false).mul right = .infinite false := by
  cases positive with
  | infinite => rfl
  | finite some_units => simp [mul, Nat.ne_of_gt some_units]

theorem Positive.mul_infinite (positive : left.Positive) :
    left.mul (.infinite false) = .infinite false := by
  cases positive with
  | infinite => rfl
  | finite some_units => simp [mul, Nat.ne_of_gt some_units]

theorem mul_le_infinite (leftPositive : left.Positive) (rightPositive : right.Positive) :
    (left.mul right).le (.infinite false) = true := by
  cases leftPositive with
  | infinite => rw [rightPositive.infinite_mul]; rfl
  | finite some_units =>
      cases rightPositive with
      | infinite => rw [(Positive.finite some_units).mul_infinite]; rfl
      | finite =>
          rw [mul_finite, ofUnits]
          split <;> rfl

theorem mul_le_mul (leftPositive : left.Positive) (rightPositive : right.Positive)
    (leftLe : left.le left' = true) (rightLe : right.le right' = true) :
    (left.mul right).le (left'.mul right') = true := by
  cases leftPositive.of_le leftLe with
  | infinite =>
      rw [(rightPositive.of_le rightLe).infinite_mul]
      exact mul_le_infinite leftPositive rightPositive
  | finite some_units' =>
      cases rightPositive.of_le rightLe with
      | infinite =>
          rw [(Positive.finite some_units').mul_infinite]
          exact mul_le_infinite leftPositive rightPositive
      | finite =>
          cases leftPositive with
          | infinite => cases leftLe
          | finite =>
              cases rightPositive with
              | infinite => cases rightLe
              | finite =>
                  rw [mul_finite, mul_finite]
                  apply ofUnits_le_ofUnits unitsPerOne_pos unitsPerOne_pos
                  apply Nat.mul_le_mul_right
                  exact Nat.mul_le_mul (finite_le_iff.mp leftLe) (finite_le_iff.mp rightLe)

end

/-! ## The smaller of two numbers -/

section

variable {left right : Double}

theorem min_le_finite (value : Double) (negative : Bool) (units : Nat) :
    (value.min (.finite negative units)).le (.finite negative units) = true := by
  have same : (finite negative units).le (.finite negative units) = true := by simp [le]
  unfold Double.min
  split
  · exact same
  · split
    next wrong => cases wrong
    next =>
      split
      next smaller => exact smaller
      next => exact same

theorem min_finite (units units' : Nat) :
    (finite false units).min (.finite false units') = .finite false (Min.min units units') := by
  rcases Nat.le_total units units' with less | less
  · have picked : (finite false units).le (.finite false units') = true := finite_le_iff.mpr less
    simp [Double.min, isNaN, picked, less]
  · cases picked : (finite false units).le (.finite false units') with
    | true => simp [Double.min, isNaN, picked, finite_le_iff.mp picked]
    | false => simp [Double.min, isNaN, picked, less]

theorem infinite_min (units : Nat) :
    (infinite false).min (.finite false units) = .finite false units := by
  simp [Double.min, isNaN, le]

/-- Both numbers are held to the same bound. -/
theorem min_finite_mono (less : left.le right = true) (units : Nat) :
    (left.min (.finite false units)).le (right.min (.finite false units)) = true := by
  have numbers : left.isNaN = false ∧ right.isNaN = false := by
    rcases left with _ | (_ | _) | _ <;> rcases right with _ | (_ | _) | _ <;>
      first | exact ⟨rfl, rfl⟩ | contradiction
  have limit : (finite false units).isNaN = false := rfl
  simp only [Double.min, numbers, limit, Bool.false_eq_true, if_false]
  split
  next leftKept =>
    split
    next => exact less
    next => exact leftKept
  next leftCut =>
    split
    next rightKept => exact absurd (le_trans less rightKept) leftCut
    next => exact finite_le_iff.mpr (Nat.le_refl _)

end

end AtLeastOnce.Double
