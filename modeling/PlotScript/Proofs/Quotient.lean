import PlotScript.Number.Binary64

namespace PlotScript.Binary64

theorem exponentOf_bounds (num den : Nat) :
    (num.log2 : Int) - den.log2 - 53 ≤ exponentOf num den ∧
      exponentOf num den ≤ max leastExponent ((num.log2 : Int) - den.log2 - 52) := by
  simp only [exponentOf]
  split <;> omega

theorem scaled_small {num den shift : Nat} (positive : 0 < den)
    (short : num.log2 + 1 + shift ≤ den.log2 + 54) :
    num * Nat.pow 2 shift < Nat.pow 2 54 * den := by
  have numerator : num < 2 ^ (num.log2 + 1) := Nat.lt_log2_self
  have denominator : 2 ^ den.log2 ≤ den := Nat.log2_self_le (Nat.ne_of_gt positive)
  calc
    num * 2 ^ shift < 2 ^ (num.log2 + 1) * 2 ^ shift :=
      Nat.mul_lt_mul_of_pos_right numerator (Nat.two_pow_pos shift)
    _ = 2 ^ (num.log2 + 1 + shift) := (Nat.pow_add 2 (num.log2 + 1) shift).symm
    _ ≤ 2 ^ (den.log2 + 54) := Nat.pow_le_pow_right (by decide) short
    _ = 2 ^ 54 * 2 ^ den.log2 := by rw [Nat.pow_add, Nat.mul_comm]
    _ ≤ 2 ^ 54 * den := Nat.mul_le_mul_left (2 ^ 54) denominator

theorem nearest_small {num den bound : Nat} (positive : 0 < den) (small : num < bound * den) :
    Rounding.nearest num den ≤ bound := by
  have half := (Rounding.nearest_within_half num den positive).2
  have less : Rounding.nearest num den * den < (bound + 1) * den := by
    rw [Nat.add_mul]
    rw [Nat.mul_assoc] at half
    omega
  exact Nat.le_of_lt_succ (Nat.lt_of_mul_lt_mul_right less)

theorem nearestBits?_fraction {num den : Nat} (positive : 0 < den) (proper : num ≤ den) :
    (nearestBits? num den).isSome := by
  by_cases zero : num = 0
  · rw [nearestBits?, if_pos zero]
    rfl
  · obtain ⟨least, most⟩ := exponentOf_bounds num den
    have lengths : num.log2 ≤ den.log2 :=
      (Nat.le_log2 (Nat.ne_of_gt positive)).mpr (Nat.le_trans (Nat.log2_self_le zero) proper)
    rw [nearestBits?, if_neg zero]
    generalize exponentOf num den = exponent at least most
    have negative : ¬ 0 ≤ exponent := by
      simp only [leastExponent] at most
      omega
    have significand : Rounding.nearest (num * 2 ^ (-exponent).toNat) den ≤ 2 ^ 54 :=
      nearest_small positive (scaled_small positive (by omega))
    simp only [Rounding.scale, if_neg negative]
    rw [if_pos]
    · rfl
    · simp only [leastExponent, exponentUnit, infinityBits] at most ⊢
      change _ + Rounding.nearest (num * 2 ^ (-exponent).toNat) den < _
      omega

theorem ofQuotient?_fraction {num den : Int} (least : 0 ≤ num) (positive : 0 < den)
    (proper : num ≤ den) : (ofQuotient? num den).isSome := by
  rw [ofQuotient?, Option.isSome_map]
  apply nearestBits?_fraction <;> omega

end PlotScript.Binary64
