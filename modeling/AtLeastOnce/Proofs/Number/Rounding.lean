import AtLeastOnce.Number.Double
import Mathlib.Algebra.Group.Nat.Defs

/-!
# How far rounding can go

A quotient that is at most a power of two is rounded to a number that is at most that
power, since the power is itself a double.  So sums and products of numbers that fit
in some bits fit in as many as their exact values would need.
-/

namespace AtLeastOnce.Double

/-- The number is finite and has at most `2 ^ bits` units. -/
def Fits (bits : Nat) (value : Double) : Prop :=
  ∃ negative units, value = .finite negative units ∧ units ≤ 2 ^ bits

theorem unitsPerOne_eq : unitsPerOne = 2 ^ 1074 := by
  delta unitsPerOne
  generalize 1074 = exponent
  rfl

theorem lt_unitsOfOverflow {units bits : Nat} (below : units ≤ 2 ^ bits)
    (finite : bits < 2098) : units < unitsOfOverflow := by
  delta unitsOfOverflow
  generalize 2098 = exponent at *
  exact Nat.lt_of_le_of_lt below (Nat.pow_lt_pow_right Nat.one_lt_two finite)

theorem unitsPerOne_pos : 0 < unitsPerOne := by
  rw [unitsPerOne_eq]
  generalize 1074 = exponent
  exact Nat.two_pow_pos exponent

section

variable {bits numerator denominator : Nat}

/-! ## Rounding -/

theorem nearestEven_le {bound : Nat} (positive : 0 < denominator)
    (below : numerator ≤ denominator * bound) :
    nearestEven numerator denominator ≤ bound := by
  have parts := Nat.div_add_mod numerator denominator
  rcases Nat.lt_or_ge (numerator / denominator) bound with less | most
  · have next : nearestEven numerator denominator ≤ numerator / denominator + 1 := by
      unfold nearestEven
      dsimp only
      split
      · omega
      · split
        · omega
        · split <;> omega
    omega
  · -- The quotient is the bound itself, so nothing remains to be rounded.
    have exact : numerator / denominator = bound :=
      Nat.le_antisymm (Nat.div_le_of_le_mul below) most
    have nothing : numerator % denominator = 0 := by
      rw [exact] at parts
      omega
    simp [nearestEven, exact, nothing, positive]

theorem excessBits_le (below : numerator ≤ 2 ^ bits) : excessBits numerator ≤ bits := by
  have short : numerator.log2 < bits + 1 := by
    by_cases zero : numerator = 0
    · simp [zero]
    · apply (Nat.log2_lt zero).mpr
      exact Nat.lt_of_le_of_lt below (Nat.pow_lt_pow_right Nat.one_lt_two (Nat.lt_succ_self bits))
  unfold excessBits
  omega

theorem roundUnits_le (positive : 0 < denominator)
    (below : numerator ≤ denominator * 2 ^ bits) :
    roundUnits numerator denominator ≤ 2 ^ bits := by
  have few : excessBits (numerator / denominator) ≤ bits :=
    excessBits_le (Nat.div_le_of_le_mul below)
  -- The bound is a whole number of the steps that are left.
  have steps : 2 ^ bits = 2 ^ excessBits (numerator / denominator) *
      2 ^ (bits - excessBits (numerator / denominator)) := by
    rw [← Nat.pow_add, Nat.add_sub_cancel' few]
  have rounded : nearestEven numerator
      (denominator * 2 ^ excessBits (numerator / denominator)) ≤
        2 ^ (bits - excessBits (numerator / denominator)) := by
    apply nearestEven_le (Nat.mul_pos positive (Nat.two_pow_pos _))
    rw [Nat.mul_assoc, ← steps]
    exact below
  calc roundUnits numerator denominator
      ≤ 2 ^ (bits - excessBits (numerator / denominator)) *
          2 ^ excessBits (numerator / denominator) := Nat.mul_le_mul_right _ rounded
    _ = 2 ^ bits := by rw [Nat.mul_comm, ← steps]

theorem fits_ofUnits (negative : Bool) (finite : bits < 2098) (positive : 0 < denominator)
    (below : numerator ≤ denominator * 2 ^ bits) :
    (ofUnits negative numerator denominator).Fits bits := by
  have rounded := roundUnits_le positive below
  have inside := lt_unitsOfOverflow rounded finite
  exact ⟨negative, roundUnits numerator denominator, by simp [ofUnits, inside], rounded⟩

end

/-! ## Operations -/

section

variable {bits : Nat} {left right value : Double}

theorem Fits.mono {more : Nat} (fits : value.Fits bits) (fewer : bits ≤ more) :
    value.Fits more := by
  obtain ⟨negative, units, same, below⟩ := fits
  exact ⟨negative, units, same, Nat.le_trans below (Nat.pow_le_pow_right Nat.two_pos fewer)⟩

theorem Fits.isFinite (fits : value.Fits bits) : value.isFinite = true := by
  obtain ⟨_, _, rfl, _⟩ := fits
  rfl

theorem fits_ofNat {number : Nat} (finite : bits + 1074 < 2098) (below : number ≤ 2 ^ bits) :
    (ofNat number).Fits (bits + 1074) := by
  apply fits_ofUnits false finite Nat.one_pos
  rw [Nat.one_mul, unitsPerOne_eq]
  generalize 1074 = exponent
  rw [Nat.pow_add]
  exact Nat.mul_le_mul_right _ below

theorem natAbs_signedUnits (negative : Bool) (units : Nat) :
    (signedUnits negative units).natAbs = units := by
  cases negative with
  | true | false => simp [signedUnits]

theorem Fits.add (finite : bits + 1 < 2098) (leftFits : left.Fits bits)
    (rightFits : right.Fits bits) : (left.add right).Fits (bits + 1) := by
  obtain ⟨leftSign, leftUnits, rfl, leftBelow⟩ := leftFits
  obtain ⟨rightSign, rightUnits, rfl, rightBelow⟩ := rightFits
  have sum := Int.natAbs_add_le (signedUnits leftSign leftUnits)
    (signedUnits rightSign rightUnits)
  rw [natAbs_signedUnits, natAbs_signedUnits] at sum
  unfold Double.add
  dsimp only
  split
  · exact ⟨_, 0, rfl, Nat.zero_le _⟩
  · apply fits_ofUnits _ finite Nat.one_pos
    rw [Nat.pow_succ]
    omega

/-- A share of a number, if it is not more than one, fits where the number does. -/
theorem Fits.mul {share : Nat} (negative : Bool) (finite : bits < 2098)
    (fits : value.Fits bits) (part : share ≤ unitsPerOne) :
    (value.mul (.finite negative share)).Fits bits := by
  obtain ⟨sign, units, rfl, below⟩ := fits
  unfold Double.mul
  apply fits_ofUnits _ finite unitsPerOne_pos
  rw [Nat.mul_comm]
  exact Nat.mul_le_mul part below

/-- So does the quotient by a number that is not less than one. -/
theorem Fits.div {divisor : Nat} (negative : Bool) (finite : bits < 2098)
    (fits : value.Fits bits) (least : unitsPerOne ≤ divisor) :
    (value.div (.finite negative divisor)).Fits bits := by
  obtain ⟨sign, units, rfl, below⟩ := fits
  have positive : 0 < divisor := Nat.lt_of_lt_of_le unitsPerOne_pos least
  simp only [Double.div, Nat.ne_of_gt positive, if_false]
  apply fits_ofUnits _ finite positive
  rw [Nat.mul_comm]
  exact Nat.mul_le_mul least below

end

end AtLeastOnce.Double
